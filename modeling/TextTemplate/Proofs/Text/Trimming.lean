import Mathlib
import TextTemplate.Text.Blank

/-!
# Trimming

A text is what trimming leaves of it with blanks around, and blanks around a text make no difference
to what is left of it.
-/

namespace TextTemplate.Text

/-- Nothing but blanks. -/
def Blanks (cs : List Char) : Prop := ∀ c ∈ cs, isBlank c = true

@[simp] theorem blanks_nil : Blanks [] := nofun

@[simp] theorem blanks_cons {c : Char} {cs : List Char} :
    Blanks (c :: cs) ↔ isBlank c = true ∧ Blanks cs :=
  List.forall_mem_cons

@[simp] theorem blanks_append {as bs : List Char} : Blanks (as ++ bs) ↔ Blanks as ∧ Blanks bs :=
  List.forall_mem_append

theorem blanks_space : Blanks [' '] := by simp [isBlank, covers, blankRanges]

theorem Blanks.reverse {cs : List Char} (h : Blanks cs) : Blanks cs.reverse :=
  fun c hc => h c (List.mem_reverse.mp hc)

/-- The text does not start with a blank. -/
def StartsFilled (cs : List Char) : Prop := ∀ c ∈ cs.head?, isBlank c = false

/-- The text does not end with a blank. -/
def EndsFilled (cs : List Char) : Prop := ∀ c ∈ cs.getLast?, isBlank c = false

@[simp] theorem startsFilled_cons {c : Char} {cs : List Char} :
    StartsFilled (c :: cs) ↔ isBlank c = false := by
  simp [StartsFilled]

@[simp] theorem endsFilled_concat {c : Char} {cs : List Char} :
    EndsFilled (cs ++ [c]) ↔ isBlank c = false := by
  simp [EndsFilled]

theorem EndsFilled.not_blanks {cs : List Char} (h : EndsFilled cs) (nonempty : cs ≠ []) :
    ¬ Blanks cs := by
  intro blank
  have filled := h _ (List.getLast?_eq_getLast_of_ne_nil nonempty)
  rw [blank _ (List.getLast_mem nonempty)] at filled
  cases filled

/-! ## In front -/

theorem trimStart_of_blanks {cs : List Char} (h : Blanks cs) : trimStart cs = [] :=
  List.dropWhile_eq_nil_iff.mpr h

theorem trimStart_blanks_append {lead : List Char} (h : Blanks lead) (cs : List Char) :
    trimStart (lead ++ cs) = trimStart cs :=
  List.dropWhile_append_of_pos h

theorem trimStart_eq_self {cs : List Char} (h : StartsFilled cs) : trimStart cs = cs := by
  cases cs with
  | nil => rfl
  | cons c cs => simp [trimStart, startsFilled_cons.mp h]

theorem startsFilled_trimStart (cs : List Char) : StartsFilled (trimStart cs) := by
  intro c hc
  have filled := List.head?_dropWhile_not isBlank cs
  rw [show cs.dropWhile isBlank = trimStart cs from rfl, Option.mem_def.mp hc] at filled
  simpa using filled

theorem exists_lead (cs : List Char) : ∃ lead, Blanks lead ∧ cs = lead ++ trimStart cs :=
  ⟨cs.takeWhile isBlank, fun _ hc => List.mem_takeWhile_imp hc,
    List.takeWhile_append_dropWhile.symm⟩

/-! ## Behind -/

theorem trimEnd_append_blanks (cs : List Char) {trail : List Char} (h : Blanks trail) :
    trimEnd (cs ++ trail) = trimEnd cs := by
  rw [trimEnd, trimEnd, List.reverse_append, List.dropWhile_append_of_pos h.reverse]

theorem trimEnd_eq_self {cs : List Char} (h : EndsFilled cs) : trimEnd cs = cs := by
  have filled : StartsFilled cs.reverse := by
    rwa [StartsFilled, List.head?_reverse]
  have kept := trimStart_eq_self filled
  rw [trimEnd, show cs.reverse.dropWhile isBlank = cs.reverse from kept, List.reverse_reverse]

theorem endsFilled_trimEnd (cs : List Char) : EndsFilled (trimEnd cs) := by
  have filled := startsFilled_trimStart cs.reverse
  rwa [EndsFilled, trimEnd, List.getLast?_reverse]

theorem exists_trail (cs : List Char) : ∃ trail, Blanks trail ∧ cs = trimEnd cs ++ trail := by
  obtain ⟨lead, blank, same⟩ := exists_lead cs.reverse
  refine ⟨lead.reverse, blank.reverse, ?_⟩
  rw [trimEnd, ← List.reverse_append]
  exact List.reverse_eq_iff.mp same

theorem endsFilled_append {as bs : List Char} (nonempty : bs ≠ []) :
    EndsFilled (as ++ bs) ↔ EndsFilled bs := by
  rw [EndsFilled, EndsFilled, List.getLast?_append_of_ne_nil _ nonempty]

/-- Trimming stops at a character that is not a blank. -/
theorem trimEnd_append_cons {c : Char} (filled : isBlank c = false) (as bs : List Char) :
    trimEnd (as ++ c :: bs) = as ++ c :: trimEnd bs := by
  obtain ⟨trail, blank, same⟩ := exists_trail bs
  have ends : EndsFilled (as ++ c :: trimEnd bs) := by
    cases hbs : trimEnd bs with
    | nil => exact endsFilled_concat.mpr filled
    | cons d rest =>
        rw [List.append_cons, endsFilled_append (List.cons_ne_nil d rest), ← hbs]
        exact endsFilled_trimEnd bs
  calc trimEnd (as ++ c :: bs) = trimEnd (as ++ c :: trimEnd bs ++ trail) := by
        conv_lhs => rw [same]
        simp
    _ = as ++ c :: trimEnd bs := by rw [trimEnd_append_blanks _ blank, trimEnd_eq_self ends]

/-! ## On both sides -/

theorem trim_blanks_append {lead : List Char} (h : Blanks lead) (cs : List Char) :
    trim (lead ++ cs) = trim cs := by
  rw [trim, trim, trimStart_blanks_append h]

theorem trim_append_blanks (cs : List Char) {trail : List Char} (h : Blanks trail) :
    trim (cs ++ trail) = trim cs := by
  obtain ⟨lead, blank, same⟩ := exists_lead cs
  rcases hcore : trimStart cs with _ | ⟨c, core⟩
  · rw [hcore, List.append_nil] at same
    subst same
    rw [trim, trimStart_of_blanks (blanks_append.mpr ⟨blank, h⟩), trim, hcore]
  · have filled : StartsFilled (trimStart cs) := startsFilled_trimStart cs
    have kept : trimStart (cs ++ trail) = trimStart cs ++ trail := by
      conv_lhs => rw [same, List.append_assoc, trimStart_blanks_append blank]
      apply trimStart_eq_self
      rw [hcore] at filled ⊢
      exact startsFilled_cons.mpr (startsFilled_cons.mp filled)
    rw [trim, kept, trimEnd_append_blanks _ h, trim]

theorem exists_padding (cs : List Char) :
    ∃ lead trail, Blanks lead ∧ Blanks trail ∧ cs = lead ++ trim cs ++ trail := by
  obtain ⟨lead, hlead, front⟩ := exists_lead cs
  obtain ⟨trail, htrail, back⟩ := exists_trail (trimStart cs)
  exact ⟨lead, trail, hlead, htrail, by rw [List.append_assoc, trim, ← back, ← front]⟩

theorem trim_eq_self {cs : List Char} (starts : StartsFilled cs) (ends : EndsFilled cs) :
    trim cs = cs := by
  rw [trim, trimStart_eq_self starts, trimEnd_eq_self ends]

theorem endsFilled_trim (cs : List Char) : EndsFilled (trim cs) := endsFilled_trimEnd _

theorem startsFilled_trim (cs : List Char) : StartsFilled (trim cs) := by
  obtain ⟨trail, -, same⟩ := exists_trail (trimStart cs)
  have filled := startsFilled_trimStart cs
  rw [same] at filled
  rw [trim]
  cases hcore : trimEnd (trimStart cs) with
  | nil => exact nofun
  | cons c core =>
      rw [hcore] at filled
      exact startsFilled_cons.mpr (startsFilled_cons.mp filled)

theorem trim_idem (cs : List Char) : trim (trim cs) = trim cs :=
  trim_eq_self (startsFilled_trim cs) (endsFilled_trim cs)

end TextTemplate.Text
