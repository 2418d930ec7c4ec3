/-!
# Log lines

What a run reports about itself besides its results, by importance.
-/

namespace CallAtlas

/-- How important a line is. -/
inductive LogLevel where
  | debug
  | info
  | warning
  deriving Repr, DecidableEq, Inhabited

namespace LogLevel

/-- The word for a level. -/
def word : LogLevel → String
  | .debug => "DEBUG"
  | .info => "INFO"
  | .warning => "WARNING"

/-- Greater is more important. -/
def rank : LogLevel → Nat
  | .debug => 0
  | .info => 1
  | .warning => 2

end LogLevel

/-- One line of a log. -/
structure LogLine where
  level : LogLevel
  text : String
  deriving Repr, DecidableEq, Inhabited

/-- A log, in order. -/
abbrev Log := List LogLine

/-- The text of the lines that are at least as important as `least`. -/
def Log.text (least : LogLevel) (log : Log) : String :=
  String.join ((log.filter fun line => decide (least.rank ≤ line.level.rank)).map fun line =>
    line.level.word ++ ": " ++ line.text ++ "\n")

end CallAtlas
