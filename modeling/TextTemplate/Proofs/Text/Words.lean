import TextTemplate.Proofs.Text.Trimming

/-!
# Words

The words of a text that is put together at blanks are the words of its parts, and what stands between
blanks is a word.
-/

namespace TextTemplate.Text

/-- The text is empty or starts with a blank. -/
def StartsBlank (cs : List Char) : Prop := ∀ c ∈ cs.head?, isBlank c = true

/-- The text is empty or ends with a blank. -/
def EndsBlank (cs : List Char) : Prop := ∀ c ∈ cs.getLast?, isBlank c = true

@[simp] theorem endsBlank_nil : EndsBlank [] := nofun

theorem EndsBlank.append {as bs : List Char} (h : EndsBlank bs) (nonempty : bs ≠ []) :
    EndsBlank (as ++ bs) := by
  rwa [EndsBlank, List.getLast?_append_of_ne_nil _ nonempty]

@[simp] theorem startsBlank_nil : StartsBlank [] := nofun

@[simp] theorem startsBlank_cons {c : Char} {cs : List Char} :
    StartsBlank (c :: cs) ↔ isBlank c = true := by
  simp [StartsBlank]

/-- What is in front of a blank is taken up to that blank at most. -/
theorem takeWhile_append_of_startsBlank (as : List Char) {bs : List Char} (h : StartsBlank bs) :
    (as ++ bs).takeWhile (!isBlank ·) = as.takeWhile (!isBlank ·) ∧
      (as ++ bs).dropWhile (!isBlank ·) = as.dropWhile (!isBlank ·) ++ bs := by
  induction as with
  | nil =>
      cases bs with
      | nil => exact ⟨rfl, rfl⟩
      | cons c bs => simp [startsBlank_cons.mp h]
  | cons c as ih => by_cases blank : isBlank c = true <;> simp [blank, ih]

theorem words_append (as : List Char) {bs : List Char} (h : StartsBlank bs) :
    words (as ++ bs) = words as ++ words bs := by
  fun_induction words as with
  | case1 => rfl
  | case2 c rest blank ih => rw [List.cons_append, words, if_pos blank, ih]
  | case3 c rest filled ih =>
      obtain ⟨taken, left⟩ := takeWhile_append_of_startsBlank rest h
      rw [List.cons_append, words, if_neg filled, taken, left, ih]
      rfl

theorem words_word {word : List Char} (nonempty : word ≠ []) (filled : ∀ c ∈ word, isBlank c = false) :
    words word = [word] := by
  cases word with
  | nil => exact absurd rfl nonempty
  | cons c word =>
      obtain ⟨hc, hword⟩ := List.forall_mem_cons.mp filled
      have others : ∀ d ∈ word, (!isBlank d) = true := fun d hd => by rw [hword d hd]; rfl
      rw [words, if_neg (by rw [hc]; exact Bool.false_ne_true), List.takeWhile_eq_self_iff.mpr others,
        List.dropWhile_eq_nil_iff.mpr others, words]

theorem words_blank {c : Char} (blank : isBlank c = true) (cs : List Char) :
    words (c :: cs) = words cs := by
  rw [words, if_pos blank]

/-- What stands between blanks, or between a blank and an end, is a word. -/
theorem mem_words {front word behind : List Char} (nonempty : word ≠ [])
    (filled : ∀ c ∈ word, isBlank c = false) (before : EndsBlank front)
    (after : StartsBlank behind) : word ∈ words (front ++ (word ++ behind)) := by
  have here : word ∈ words (word ++ behind) := by
    rw [words_append _ after, words_word nonempty filled]
    exact List.mem_cons_self
  cases hfront : front.getLast? with
  | none =>
      rw [List.getLast?_eq_none_iff.mp hfront]
      exact here
  | some c =>
      have blank := before c hfront
      rw [← List.dropLast_append_getLast? c hfront, List.append_assoc, List.singleton_append,
        words_append _ (startsBlank_cons.mpr blank), words_blank blank]
      exact List.mem_append_right _ here

end TextTemplate.Text
