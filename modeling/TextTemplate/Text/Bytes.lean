/-!
# Byte offsets

Places in a text are counted in bytes of its UTF-8 form. `byteLength` counts the bytes of a text and
`splitBytes` cuts it at an offset. The two parts always make up the whole text
(`splitBytes_append`), and an offset between two characters is met exactly
(`splitBytes_byteLength`).
-/

namespace TextTemplate.Text

/-- The number of bytes of a text. -/
def byteLength : List Char → Nat
  | [] => 0
  | c :: rest => c.utf8Size + byteLength rest

/-- Splits a text behind the given number of bytes. -/
def splitBytes : Nat → List Char → List Char × List Char
  | 0, cs => ([], cs)
  | _, [] => ([], [])
  | n, c :: rest =>
    let (before, behind) := splitBytes (n - c.utf8Size) rest
    (c :: before, behind)

/-- The characters from one byte offset to another. -/
def sliceBytes (cs : List Char) (start stop : Nat) : List Char :=
  (splitBytes (stop - start) (splitBytes start cs).2).1

@[simp] theorem byteLength_nil : byteLength [] = 0 := rfl

@[simp] theorem byteLength_cons (c : Char) (cs : List Char) :
    byteLength (c :: cs) = c.utf8Size + byteLength cs := rfl

@[simp] theorem byteLength_append (as bs : List Char) :
    byteLength (as ++ bs) = byteLength as + byteLength bs := by
  induction as with
  | nil => simp
  | cons c cs ih => simp [ih, Nat.add_assoc]

/-- A character takes at least one byte. -/
theorem length_le_byteLength (cs : List Char) : cs.length ≤ byteLength cs := by
  induction cs with
  | nil => simp
  | cons c cs ih =>
    have := c.utf8Size_pos
    simp only [List.length_cons, byteLength_cons]
    omega

@[simp] theorem splitBytes_zero (cs : List Char) : splitBytes 0 cs = ([], cs) := by
  cases cs <;> rfl

theorem splitBytes_cons {n : Nat} (h : 0 < n) (c : Char) (cs : List Char) :
    splitBytes n (c :: cs) =
      (c :: (splitBytes (n - c.utf8Size) cs).1, (splitBytes (n - c.utf8Size) cs).2) := by
  cases n with
  | zero => omega
  | succ n => rfl

/-- The two parts make up the whole text. -/
theorem splitBytes_append (n : Nat) (cs : List Char) :
    (splitBytes n cs).1 ++ (splitBytes n cs).2 = cs := by
  induction cs generalizing n with
  | nil => cases n <;> rfl
  | cons c cs ih =>
    rcases Nat.eq_zero_or_pos n with rfl | h
    · simp
    · rw [splitBytes_cons h, List.cons_append, ih]

/-- An offset between two characters is met exactly. -/
theorem splitBytes_byteLength (as bs : List Char) :
    splitBytes (byteLength as) (as ++ bs) = (as, bs) := by
  induction as with
  | nil => simp
  | cons c cs ih =>
    have := c.utf8Size_pos
    rw [List.cons_append, splitBytes_cons (by simp only [byteLength_cons]; omega)]
    simp [ih]

/-- The slice between two offsets is what stands between them. -/
theorem sliceBytes_byteLength (as bs cs : List Char) :
    sliceBytes (as ++ bs ++ cs) (byteLength as) (byteLength (as ++ bs)) = bs := by
  rw [sliceBytes, List.append_assoc, splitBytes_byteLength, byteLength_append,
    Nat.add_sub_cancel_left, splitBytes_byteLength]

end TextTemplate.Text
