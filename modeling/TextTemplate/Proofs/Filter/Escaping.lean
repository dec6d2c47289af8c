import TextTemplate.Filter.Markup

/-!
# Escaped text

Nothing in an escaped text can open or close a tag or a quoted attribute, and each `&` in it starts an
entity. Replacing the entities by their characters, in one pass from left to right, gives the text back,
also if it had entities in it before.
-/

namespace TextTemplate.Markup

/-- The characters that have an entity. -/
def special : List Char := ['&', '<', '>', '"', '\'']

/-- Replaces the entities by the characters that they stand for, in one pass from left to right. -/
def decode : List Char → List Char
  | '&' :: 'a' :: 'm' :: 'p' :: ';' :: rest => '&' :: decode rest
  | '&' :: 'l' :: 't' :: ';' :: rest => '<' :: decode rest
  | '&' :: 'g' :: 't' :: ';' :: rest => '>' :: decode rest
  | '&' :: 'q' :: 'u' :: 'o' :: 't' :: ';' :: rest => '"' :: decode rest
  | '&' :: '#' :: 'x' :: '2' :: '7' :: ';' :: rest => '\'' :: decode rest
  | c :: rest => c :: decode rest
  | [] => []

/-! ## Single characters -/

theorem entity_of_not_special {c : Char} (h : c ∉ special) : entity c = [c] := by
  simp only [special, List.mem_cons, List.not_mem_nil, or_false, not_or] at h
  obtain ⟨amp, lt, gt, quot, apos⟩ := h
  unfold entity
  split <;> first | contradiction | rfl

/-- No entity has a special character in it but the `&` in front. -/
theorem entity_of_special {c : Char} (h : c ∈ special) :
    ∃ name, entity c = '&' :: name ∧ ∀ d ∈ name, d ∉ special := by
  simp only [special, List.mem_cons, List.not_mem_nil, or_false] at h
  rcases h with rfl | rfl | rfl | rfl | rfl
  · exact ⟨['a', 'm', 'p', ';'], rfl, by simp [special]⟩
  · exact ⟨['l', 't', ';'], rfl, by simp [special]⟩
  · exact ⟨['g', 't', ';'], rfl, by simp [special]⟩
  · exact ⟨['q', 'u', 'o', 't', ';'], rfl, by simp [special]⟩
  · exact ⟨['#', 'x', '2', '7', ';'], rfl, by simp [special]⟩

/-! ## Texts -/

@[simp] theorem escape_nil : escape [] = [] := rfl

@[simp] theorem escape_cons (c : Char) (cs : List Char) : escape (c :: cs) = entity c ++ escape cs :=
  rfl

/-- Of the special characters only `&` is left. -/
theorem eq_amp_of_mem_escape {cs : List Char} {d : Char} (mem : d ∈ escape cs) (h : d ∈ special) :
    d = '&' := by
  obtain ⟨c, -, here⟩ := List.mem_flatMap.mp mem
  by_cases hc : c ∈ special
  · obtain ⟨name, same, plain⟩ := entity_of_special hc
    rw [same] at here
    rcases List.mem_cons.mp here with amp | inside
    · exact amp
    · exact absurd h (plain d inside)
  · rw [entity_of_not_special hc, List.mem_singleton] at here
    subst here
    exact absurd h hc

/-- Each `&` that is left starts an entity. -/
theorem entity_prefix_of_escape {cs front behind : List Char} (h : escape cs = front ++ '&' :: behind) :
    ∃ c ∈ special, entity c <+: '&' :: behind := by
  induction cs generalizing front with
  | nil => exact absurd h.symm (List.append_ne_nil_of_right_ne_nil _ (List.cons_ne_nil _ _))
  | cons c cs ih =>
      rw [escape_cons] at h
      rcases List.append_eq_append_iff.mp h with ⟨more, -, later⟩ | ⟨more, same, later⟩
      · -- The `&` stands behind what the first character becomes.
        exact ih later
      · cases more with
        | nil => exact @ih [] later.symm
        | cons d more =>
            obtain ⟨rfl, rfl⟩ := List.cons.inj later
            have amp : '&' ∈ entity c := same ▸ List.mem_append_right front List.mem_cons_self
            by_cases hc : c ∈ special
            · obtain ⟨name, entity_eq, plain⟩ := entity_of_special hc
              cases front with
              | nil => exact ⟨c, hc, same ▸ List.prefix_append _ _⟩
              | cons e front =>
                  -- The name of an entity has no `&`.
                  rw [entity_eq, List.cons_append] at same
                  have inside : '&' ∈ name :=
                    (List.cons.inj same).2 ▸ List.mem_append_right front List.mem_cons_self
                  exact absurd (by decide) (plain _ inside)
            · rw [entity_of_not_special hc, List.mem_singleton] at amp
              exact absurd (amp ▸ by decide) hc

/-! ## Decoding -/

theorem decode_cons {c : Char} (h : c ≠ '&') (rest : List Char) :
    decode (c :: rest) = c :: decode rest := by
  rw [decode.eq_def]
  split <;> simp_all

theorem decode_entity_append (c : Char) (rest : List Char) :
    decode (entity c ++ rest) = c :: decode rest := by
  by_cases h : c ∈ special
  · simp only [special, List.mem_cons, List.not_mem_nil, or_false] at h
    rcases h with rfl | rfl | rfl | rfl | rfl <;> rfl
  · have other : c ≠ '&' := fun amp => h (amp ▸ by decide)
    rw [entity_of_not_special h, List.singleton_append, decode_cons other]

/-- Escaping loses nothing. -/
theorem decode_escape (cs : List Char) : decode (escape cs) = cs := by
  induction cs with
  | nil => rfl
  | cons c cs ih => rw [escape_cons, decode_entity_append, ih]

example : decode (escape ['&', 'l', 't', ';']) = ['&', 'l', 't', ';'] := by decide

end TextTemplate.Markup
