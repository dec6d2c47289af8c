import Mathlib
import TextTemplate.Text.Bytes

/-!
# Slices

A text may be sliced at byte offsets that stand between characters and do not run backwards. Elsewhere
there is nothing to give: an offset inside of a character cuts it.
-/

namespace TextTemplate.Text

/-- The offset stands between two characters or at an end of the text. -/
def IsBoundary (cs : List Char) (i : Nat) : Prop := ∃ as bs, cs = as ++ bs ∧ byteLength as = i

theorem isBoundary_append (as bs : List Char) : IsBoundary (as ++ bs) (byteLength as) :=
  ⟨as, bs, rfl, rfl⟩

theorem isBoundary_iff {cs : List Char} {i : Nat} :
    IsBoundary cs i ↔ byteLength (splitBytes i cs).1 = i := by
  constructor
  · rintro ⟨as, bs, rfl, rfl⟩
    rw [splitBytes_byteLength]
  · intro same
    exact ⟨_, _, (splitBytes_append i cs).symm, same⟩

instance (cs : List Char) (i : Nat) : Decidable (IsBoundary cs i) :=
  decidable_of_iff _ isBoundary_iff.symm

/-- What stands between two offsets, if the text may be sliced there. -/
def slice? (cs : List Char) (start stop : Nat) : Option (List Char) :=
  if start ≤ stop ∧ IsBoundary cs start ∧ IsBoundary cs stop then some (sliceBytes cs start stop)
  else none

theorem slice?_append (as bs cs : List Char) :
    slice? (as ++ bs ++ cs) (byteLength as) (byteLength (as ++ bs)) = some bs := by
  have ordered : byteLength as ≤ byteLength (as ++ bs) := by
    rw [byteLength_append]
    exact Nat.le_add_right _ _
  have start : IsBoundary (as ++ bs ++ cs) (byteLength as) := by
    rw [List.append_assoc]
    exact isBoundary_append as (bs ++ cs)
  rw [slice?, if_pos ⟨ordered, start, isBoundary_append (as ++ bs) cs⟩, sliceBytes_byteLength]

/-- Slices hold at these offsets: they are boundaries, and none of them is in front of the one before. -/
structure InOrder (cs : List Char) (offsets : List Nat) : Prop where
  ordered : offsets.Pairwise (· ≤ ·)
  boundaries : ∀ i ∈ offsets, IsBoundary cs i

end TextTemplate.Text
