import TextTemplate.Proofs.Expression.Joining
import TextTemplate.Proofs.Text.Pattern
import TextTemplate.Proofs.Text.Slices

/-!
# Patterns in masked texts

What is shown of a text has other characters, but every one that is shown stands at its own byte offset: a
hidden character gives way to as many underscores as it has bytes. A pattern may run into these
underscores, but nothing that it looks for starts with one, so the places between two patterns are places
between two characters of the text itself. `placeBehind` is such a place.
-/

namespace TextTemplate.Masked

open TextTemplate.Text Pattern

/-! ## Byte by byte -/

/-- The number of bytes of a text. -/
def size (ms : Masked) : Nat := byteLength (chars ms)

@[simp] theorem chars_append (as bs : Masked) : chars (as ++ bs) = chars as ++ chars bs :=
  List.map_append

@[simp] theorem size_append (as bs : Masked) : size (as ++ bs) = size as + size bs := by
  rw [size, chars_append, byteLength_append]
  rfl

theorem size_mask (cs : List Char) : size (mask cs) = byteLength cs := by
  rw [size, chars_mask]

/-- What is shown of a glyph in place of its bytes. -/
def shownOf (g : Glyph) : List Char :=
  if g.hidden then List.replicate g.char.utf8Size '_' else [g.char]

theorem shown_cons (g : Glyph) (ms : Masked) : shown (g :: ms) = shownOf g ++ shown ms :=
  List.flatMap_cons

@[simp] theorem shown_append (as bs : Masked) : shown (as ++ bs) = shown as ++ shown bs :=
  List.flatMap_append

theorem byteLength_replicate (n : Nat) : byteLength (List.replicate n '_') = n := by
  induction n with
  | zero => rfl
  | succ n ih =>
      rw [List.replicate_succ, byteLength_cons, ih, Nat.add_comm]
      rfl

theorem byteLength_shownOf (g : Glyph) : byteLength (shownOf g) = g.char.utf8Size := by
  rw [shownOf]
  split
  · exact byteLength_replicate _
  · rfl

/-- Masking keeps the number of bytes. -/
theorem byteLength_shown (ms : Masked) : byteLength (shown ms) = size ms := by
  induction ms with
  | nil => rfl
  | cons g ms ih =>
      rw [shown_cons, byteLength_append, byteLength_shownOf, ih]
      rfl

/-- A hidden glyph shows an underscore first. -/
theorem exists_shown_hidden {g : Glyph} (hidden : g.hidden = true) (ms : Masked) :
    ∃ rest, shown (g :: ms) = '_' :: rest := by
  obtain ⟨n, bytes⟩ := Nat.exists_eq_succ_of_ne_zero (Nat.ne_of_gt g.char.utf8Size_pos)
  refine ⟨List.replicate n '_' ++ shown ms, ?_⟩
  rw [shown_cons, shownOf, if_pos hidden, bytes, List.replicate_succ, List.cons_append]

theorem shown_visible_cons {g : Glyph} (visible : g.hidden = false) (ms : Masked) :
    shown (g :: ms) = g.char :: shown ms := by
  rw [shown_cons, shownOf, if_neg (by rw [visible]; exact Bool.false_ne_true)]
  rfl

theorem not_hidden_of_shown {g : Glyph} (other : g.shown ≠ '_') :
    g.hidden = false ∧ g.shown = g.char := by
  have visible : ¬ g.hidden = true := fun hidden => other (if_pos hidden)
  exact ⟨Bool.eq_false_iff.mpr visible, if_neg visible⟩

theorem look_cons (g : Glyph) (ms : Masked) : look (g :: ms) = g.shown :: look ms := rfl

/-- Where no underscore is shown, what is shown are the characters. -/
theorem shown_eq_look {ms : Masked} (plain : '_' ∉ look ms) : shown ms = look ms := by
  induction ms with
  | nil => rfl
  | cons g ms ih =>
      rw [look_cons] at plain ⊢
      obtain ⟨first, others⟩ := List.ne_and_not_mem_of_not_mem_cons plain
      obtain ⟨visible, same⟩ := not_hidden_of_shown first.symm
      rw [shown_visible_cons visible, ih others, same]

/-! ## Places -/

/-- The place in a masked text behind its front part. -/
def placeBehind (front ms : Masked) : Place := ⟨size front, shown ms⟩

/-- Where a part stands that has another in front of it. -/
def spanOf (front part : Masked) : Span := ⟨size front, size (front ++ part)⟩

variable {next : Next} {groups : List (Nat × Span)} {front ms : Masked}

theorem placeBehind_concat (g : Glyph) :
    placeBehind (front ++ [g]) ms = ⟨size front + g.char.utf8Size, shown ms⟩ := by
  rw [placeBehind, size_append]
  rfl

theorem run_hidden {p : Pattern} (fill : p.Avoids '_') {g : Glyph} (hidden : g.hidden = true) :
    p.run next (placeBehind front (g :: ms)) groups = none := by
  obtain ⟨rest, underscore⟩ := exists_shown_hidden hidden ms
  rw [placeBehind, underscore]
  exact run_of_avoids fill _ _ _ _

/-- A class without the underscore sees of a character what is shown of it. -/
theorem run_one {accepts : Char → Bool} (fill : accepts '_' = false) (g : Glyph) :
    (one accepts).run next (placeBehind front (g :: ms)) groups =
      if accepts g.shown then next (placeBehind (front ++ [g]) ms) groups else none := by
  by_cases hidden : g.hidden = true
  · have shown : g.shown = '_' := if_pos hidden
    have avoids : (one accepts).Avoids '_' := fill
    rw [run_hidden avoids hidden, shown, fill, if_neg Bool.false_ne_true]
  · have visible := Bool.eq_false_iff.mpr hidden
    have shown : g.shown = g.char := if_neg hidden
    rw [shown, placeBehind_concat, placeBehind, shown_visible_cons visible]
    rfl

/-! ## Words -/

theorem run_word {cs : List Char} (plain : '_' ∉ cs) {mid : Masked} (same : look mid = cs) :
    (word cs).run next (placeBehind front (mid ++ ms)) groups =
      next (placeBehind (front ++ mid) ms) groups := by
  induction mid generalizing front cs with
  | nil =>
      subst same
      rw [List.append_nil]
      rfl
  | cons g mid ih =>
      subst same
      rw [look_cons] at plain ⊢
      obtain ⟨first, others⟩ := List.ne_and_not_mem_of_not_mem_cons plain
      have fill : ('_' == g.shown) = false := beq_false_of_ne first
      show (one fun c => c == g.shown).run ((word (look mid)).run next) _ groups = _
      rw [List.cons_append, run_one fill, if_pos (beq_self_eq_true _), ih others rfl,
        List.append_assoc]
      rfl

theorem run_word_eq_none {cs : List Char} (plain : '_' ∉ cs) (absent : after? cs ms = none) :
    (word cs).run next (placeBehind front ms) groups = none := by
  induction cs generalizing front ms with
  | nil => cases absent
  | cons c cs ih =>
      obtain ⟨first, others⟩ := List.ne_and_not_mem_of_not_mem_cons plain
      cases ms with
      | nil => rfl
      | cons g ms =>
          have fill : ('_' == c) = false := beq_false_of_ne first
          show (one fun d => d == c).run ((word cs).run next) _ groups = none
          rw [run_one fill]
          rw [after?] at absent
          split at absent
          · rw [ih others absent]
            exact ite_self none
          · next other => exact if_neg (by simpa using other)

/-! ## Blanks -/

/-- One or more blanks, as many as possible. -/
def blanks : Pattern := many isBlank true

theorem avoids_blanks : blanks.Avoids '_' := by
  show isBlank '_' = false
  decide

theorem fill_not_mem_of_blanks {cs : List Char} (blank : Blanks cs) : '_' ∉ cs := by
  intro underscore
  exact absurd (blank _ underscore) (by decide)

/-- A blank that is shown is a character of the text. -/
theorem visible_of_isBlank {g : Glyph} (blank : isBlank g.shown = true) :
    g.hidden = false ∧ g.shown = g.char := by
  refine not_hidden_of_shown fun underscore => ?_
  rw [underscore] at blank
  exact absurd blank (by decide)

theorem run_blanks_cons {g : Glyph} (blank : isBlank g.shown = true) :
    blanks.run next (placeBehind front (g :: ms)) groups =
      (blanks.run next (placeBehind (front ++ [g]) ms) groups).or
        (next (placeBehind (front ++ [g]) ms) groups) := by
  obtain ⟨visible, same⟩ := visible_of_isBlank blank
  rw [same] at blank
  rw [placeBehind_concat]
  show repeated isBlank true (next · groups) (size front) (shown (g :: ms)) = _
  rw [shown_visible_cons visible, repeated, if_pos blank]
  rfl

theorem run_blanks_eq_none (starts : StartsFilled (look ms)) :
    blanks.run next (placeBehind front ms) groups = none := by
  cases ms with
  | nil => rfl
  | cons g ms =>
      have filled : isBlank g.shown = false := startsFilled_cons.mp starts
      by_cases hidden : g.hidden = true
      · exact run_hidden avoids_blanks hidden
      · have shown : g.shown = g.char := if_neg hidden
        rw [shown] at filled
        rw [placeBehind, shown_visible_cons (Bool.eq_false_iff.mpr hidden)]
        exact run_of_avoids (show blanks.Avoids g.char from filled) _ _ _ _

/-- Of the blanks in front of a text first all are taken, then one less, and so on. -/
theorem run_blanks (front ms : Masked) :
    blanks.run next (placeBehind front ms) groups =
      (List.range (blankCount ms)).reverse.findSome? fun n =>
        next (placeBehind (front ++ ms.take (n + 1)) (ms.drop (n + 1))) groups := by
  induction ms generalizing front with
  | nil => rfl
  | cons g ms ih =>
      by_cases blank : isBlank g.shown = true
      · have count : blankCount (g :: ms) = blankCount ms + 1 := by simp [blankCount, blank]
        rw [run_blanks_cons blank, ih, count, List.range_succ_eq_map, List.reverse_cons,
          List.findSome?_append, ← List.map_reverse, List.findSome?_map, List.findSome?_singleton]
        simp only [Function.comp_def, List.take_succ_cons, List.drop_succ_cons, List.append_assoc,
          List.singleton_append, Nat.succ_eq_add_one, List.take_zero, List.drop_zero]
      · have count : blankCount (g :: ms) = 0 := by simp [blankCount, blank]
        have starts : StartsFilled (look (g :: ms)) :=
          startsFilled_cons.mpr (Bool.eq_false_iff.mpr blank)
        rw [count, run_blanks_eq_none starts]
        rfl

/-- All blanks are taken, if what comes behind can go on there or cannot start with a blank. -/
theorem run_blanks_gap {gap : Masked} (nonempty : gap ≠ []) (blank : Blanks (look gap))
    (starts : StartsFilled (look ms))
    (goesOn : (next (placeBehind (front ++ gap) ms) groups).isSome = true ∨
      ∀ i c rest, isBlank c = true → next ⟨i, c :: rest⟩ groups = none) :
    blanks.run next (placeBehind front (gap ++ ms)) groups =
      next (placeBehind (front ++ gap) ms) groups := by
  induction gap generalizing front with
  | nil => exact absurd rfl nonempty
  | cons g gap ih =>
      obtain ⟨first, others⟩ := blanks_cons.mp blank
      rw [List.cons_append, run_blanks_cons first]
      rw [List.append_cons front g gap] at goesOn ⊢
      cases gap with
      | nil =>
          rw [List.nil_append, List.append_nil, run_blanks_eq_none starts]
          rfl
      | cons h gap =>
          rw [ih (List.cons_ne_nil _ _) others goesOn]
          rcases goesOn with found | fails
          · obtain ⟨result, same⟩ := Option.isSome_iff_exists.mp found
            rw [same, Option.some_or]
          · obtain ⟨visible, same⟩ := visible_of_isBlank (blanks_cons.mp others).1
            have short : next (placeBehind (front ++ [g]) (h :: gap ++ ms)) groups = none := by
              rw [placeBehind, List.cons_append, shown_visible_cons visible]
              exact fails _ _ _ (same ▸ (blanks_cons.mp others).1)
            rw [short, Option.or_none]

theorem startsFilled_of_afterBlanks? (h : afterBlanks? ms = none) : StartsFilled (look ms) := by
  cases ms with
  | nil => exact nofun
  | cons g ms =>
      refine startsFilled_cons.mpr (Bool.eq_false_iff.mpr fun blank => ?_)
      rw [afterBlanks?, if_pos (show startsBlank (g :: ms) = true from blank)] at h
      cases h

theorem run_blanks_absent (absent : afterBlanks? ms = none) :
    blanks.run next (placeBehind front ms) groups = none :=
  run_blanks_eq_none (startsFilled_of_afterBlanks? absent)

/-- All blanks are taken in front of a pattern that cannot start with one. -/
theorem run_blanks_before {p : Pattern} (avoids : ∀ c, isBlank c = true → p.Avoids c) {gap : Masked}
    (nonempty : gap ≠ []) (blank : Blanks (look gap)) (starts : StartsFilled (look ms)) :
    blanks.run (p.run next) (placeBehind front (gap ++ ms)) groups =
      p.run next (placeBehind (front ++ gap) ms) groups :=
  run_blanks_gap nonempty blank starts
    (.inr fun _ c _ blank => run_of_avoids (avoids c blank) _ _ _ _)

theorem avoids_blank_word {w : List Char} (nonempty : w ≠ []) (filled : ∀ c ∈ w, isBlank c = false)
    (c : Char) (blank : isBlank c = true) : (word w).Avoids c := by
  refine avoids_word nonempty fun found => ?_
  rw [filled c found] at blank
  cases blank

/-! ## Anything -/

/-- One or more characters, whatever they are. -/
def anything (greedy : Bool) : Pattern := many (fun _ => true) greedy

theorem repeated_replicate {stop : Place → Option Captures}
    (fill : ∀ i rest, stop ⟨i, '_' :: rest⟩ = none) (n i : Nat) (rest : List Char) :
    repeated (fun _ => true) false stop i (List.replicate (n + 1) '_' ++ rest) =
      (stop ⟨i + (n + 1), rest⟩).or
        (repeated (fun _ => true) false stop (i + (n + 1)) rest) := by
  induction n generalizing i with
  | zero => rfl
  | succ n ih =>
      have skipped : stop ⟨i + 1, List.replicate (n + 1) '_' ++ rest⟩ = none := fill _ _
      have further : i + 1 + (n + 1) = i + (n + 1 + 1) := by omega
      rw [List.replicate_succ, List.cons_append, repeated, if_pos rfl]
      dsimp only
      rw [if_neg Bool.false_ne_true, show '_'.utf8Size = 1 from rfl, skipped, ih, further]
      rfl

/-- What does not start with an underscore cannot start inside of a hidden character. -/
theorem repeated_glyph {stop : Place → Option Captures}
    (fill : ∀ i rest, stop ⟨i, '_' :: rest⟩ = none) (g : Glyph) :
    repeated (fun _ => true) false stop (size front) (shown (g :: ms)) =
      (stop (placeBehind (front ++ [g]) ms)).or
        (repeated (fun _ => true) false stop (size (front ++ [g])) (shown ms)) := by
  have further : size (front ++ [g]) = size front + g.char.utf8Size := size_append front [g]
  rw [placeBehind, further, shown_cons, shownOf]
  by_cases hidden : g.hidden = true
  · obtain ⟨n, bytes⟩ := Nat.exists_eq_succ_of_ne_zero (Nat.ne_of_gt g.char.utf8Size_pos)
    rw [if_pos hidden, bytes]
    exact repeated_replicate fill n _ _
  · rw [if_neg hidden]
    rfl

/-- The last group of a pattern is all that is left of the text. -/
theorem run_toEnd (n : Nat) (nonempty : ms ≠ []) :
    (sequence [group n (anything true), atEnd]).run next (placeBehind front ms) groups =
      next (placeBehind (front ++ ms) []) (groups ++ [(n, spanOf front ms)]) := by
  have bytes := byteLength_shown ms
  have some_shown : shown ms ≠ [] := by
    cases ms with
    | nil => exact absurd rfl nonempty
    | cons g ms =>
        rw [shown_cons, shownOf]
        split
        · next hidden => simp [Nat.ne_of_gt g.char.utf8Size_pos]
        · exact List.cons_ne_nil _ _
  obtain ⟨c, cs, same⟩ := List.exists_cons_of_ne_nil some_shown
  rw [run_sequence_cons, run_group]
  show repeated (fun _ => true) true _ (size front) (shown ms) = _
  rw [same] at bytes ⊢
  rw [repeated_toEnd (fun _ _ _ => rfl), bytes, ← size_append]
  rfl

end TextTemplate.Masked
