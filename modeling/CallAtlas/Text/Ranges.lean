/-!
# Ranges of code points

A character property is a list of closed ranges of code points; membership is one scan.
-/

namespace CallAtlas.Text

/-- Closed ranges of code points. -/
abbrev Ranges := List (Nat × Nat)

/-- The ranges of a long table: how many code points from `start` on are left out and how many are in, in turn. -/
def Ranges.ofRuns (start : Nat) : List Nat → Ranges
  | out :: count :: rest => (start + out, start + out + count - 1) :: ofRuns (start + out + count) rest
  | _ => []

/-- Membership of a code point in a list of ranges. -/
def Ranges.has (rs : Ranges) (code : Nat) : Bool :=
  rs.any fun r => decide (r.1 ≤ code) && decide (code ≤ r.2)

theorem Ranges.has_iff {rs : Ranges} {code : Nat} : rs.has code = true ↔ ∃ r ∈ rs, r.1 ≤ code ∧ code ≤ r.2 := by
  simp [Ranges.has]

end CallAtlas.Text
