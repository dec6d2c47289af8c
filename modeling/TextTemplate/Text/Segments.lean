/-!
# Segments

Splitting a text at every occurrence of one character, such as a path at its dots or slashes.
-/

namespace TextTemplate.Text

/-- The parts between the occurrences of `mark`; there is always at least one. -/
def segments (mark : Char) : List Char → List (List Char)
  | [] => [[]]
  | c :: rest =>
    if c = mark then [] :: segments mark rest
    else match segments mark rest with
      | [] => [[c]]
      | part :: parts => (c :: part) :: parts

/-- The parts of a string between the occurrences of `mark`. -/
def segmentsOf (mark : Char) (s : String) : List String :=
  (segments mark s.toList).map String.ofList

theorem segments_ne_nil (mark : Char) (cs : List Char) : segments mark cs ≠ [] := by
  cases cs with
  | nil => simp [segments]
  | cons c rest =>
    simp only [segments]
    split
    · simp
    · split <;> simp

end TextTemplate.Text
