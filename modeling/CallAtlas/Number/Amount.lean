import CallAtlas.Number.Decimal

/-!
# Amounts for people

Durations, sizes in memory, and counted nouns, each in the unit that suits its size.
-/

namespace CallAtlas.Number

/-- A number of at most four significant digits, at least five characters wide. -/
def short (x : Double) : String := String.ofList (padStart 5 (generalText 4 x))

/-- A duration in seconds, as milliseconds, seconds, minutes or hours. An integer beyond all doubles has none. -/
def duration? (t : Quantity) : Option String := do
  if t.ltInt 1 then return short (.mul (← t.toDouble?) (.ofInt 1000)) ++ " ms"
  else if t.ltInt 60 then return short (← t.toDouble?) ++ " s"
  else if t.ltInt 3600 then return short (.div (← t.toDouble?) (.ofInt 60)) ++ " m"
  else return short (.div (← t.toDouble?) (.ofInt 3600)) ++ " h"

/-- The bytes in a unit that is this many steps above the byte. -/
def unitSize : Nat → Int
  | 0 => 1
  | steps + 1 => 1024 * unitSize steps

/-- A size in bytes, in the unit below which it has less than 1024. -/
def memoryAmount? (size : Quantity) : Option String := do
  let x ← size.toDouble?
  if size.ltInt (unitSize 1) then return String.ofList (padStart 5 (generalText 6 x)) ++ " B"
  else if size.ltInt (unitSize 2) then return short (.div x (.ofInt (unitSize 1))) ++ " KB"
  else if size.ltInt (unitSize 3) then return short (.div x (.ofInt (unitSize 2))) ++ " MB"
  else if size.ltInt (unitSize 4) then return short (.div x (.ofInt (unitSize 3))) ++ " GB"
  else return short (.div x (.ofInt (unitSize 4))) ++ " TB"

/-- A number of things; one thing takes no ending. -/
def counted (count : Int) (noun : String) (ending : String := "s") : String :=
  toString count ++ " " ++ noun ++ (if count = 1 then "" else ending)

end CallAtlas.Number
