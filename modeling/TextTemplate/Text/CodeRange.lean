/-!
# Ranges of code points

A property of characters is given as a list of closed ranges of code points.
-/

namespace TextTemplate.Text

/-- Whether `c` lies in one of the closed ranges. -/
def covers (ranges : List (Nat × Nat)) (c : Char) : Bool :=
  ranges.any fun r => r.1 ≤ c.toNat && c.toNat ≤ r.2

theorem covers_iff {ranges : List (Nat × Nat)} {c : Char} :
    covers ranges c = true ↔ ∃ r ∈ ranges, r.1 ≤ c.toNat ∧ c.toNat ≤ r.2 := by
  simp [covers]

end TextTemplate.Text
