import TextTemplate.Text.CodeRange

/-!
# Blank characters

Blanks are the characters with the Unicode property White_Space. This one class decides where text
is trimmed, where words end and what separates the parts of a tag.
-/

namespace TextTemplate.Text

/-- The code points with the property White_Space. -/
def blankRanges : List (Nat × Nat) := [
  (0x9, 0xd), (0x20, 0x20), (0x85, 0x85), (0xa0, 0xa0), (0x1680, 0x1680), (0x2000, 0x200a),
  (0x2028, 0x2029), (0x202f, 0x202f), (0x205f, 0x205f), (0x3000, 0x3000)]

def isBlank (c : Char) : Bool := covers blankRanges c

def trimStart (cs : List Char) : List Char := cs.dropWhile isBlank

def trimEnd (cs : List Char) : List Char := (cs.reverse.dropWhile isBlank).reverse

def trim (cs : List Char) : List Char := trimEnd (trimStart cs)

/-- The words of a text: its maximal runs of characters that are not blank. -/
def words (cs : List Char) : List (List Char) :=
  match cs with
  | [] => []
  | c :: rest =>
    if isBlank c then words rest
    else (c :: rest.takeWhile (!isBlank ·)) :: words (rest.dropWhile (!isBlank ·))
termination_by cs.length
decreasing_by
  · simp
  · simpa using Nat.lt_succ_of_le (List.dropWhile_suffix (fun c => !isBlank c)).length_le

theorem trimStart_length_le (cs : List Char) : (trimStart cs).length ≤ cs.length :=
  (List.dropWhile_suffix isBlank).length_le

theorem trimStart_idem (cs : List Char) : trimStart (trimStart cs) = trimStart cs := by
  induction cs with
  | nil => rfl
  | cons c cs ih => by_cases h : isBlank c <;> simp_all [trimStart]

end TextTemplate.Text
