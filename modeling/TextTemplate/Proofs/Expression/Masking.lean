import TextTemplate.Expression.Parse
import TextTemplate.Proofs.Text.Trimming

/-!
# Masks of composed texts

A text is closed if its quotes and brackets are: wherever it stands outside of quotes, the reader of
the mask comes back to where it was. Closed texts can be put together, their masks too.
-/

namespace TextTemplate.Masked

open TextTemplate.Text

/-! ## Positions behind a text -/

/-- Outside of quotes and inside of so many brackets. -/
def Position.inside (depth : Nat) : Position := { depth }

/-- The position behind a text. -/
def Position.after (p : Position) (cs : List Char) : Position :=
  cs.foldl (fun p c => (p.step c).2) p

@[simp] theorem Position.after_nil (p : Position) : p.after [] = p := rfl

@[simp] theorem Position.after_cons (p : Position) (c : Char) (cs : List Char) :
    p.after (c :: cs) = (p.step c).2.after cs :=
  rfl

@[simp] theorem Position.after_append (p : Position) (as bs : List Char) :
    p.after (as ++ bs) = (p.after as).after bs :=
  List.foldl_append

@[simp] theorem maskFrom_nil (p : Position) : maskFrom p [] = [] := rfl

theorem maskFrom_cons (p : Position) (c : Char) (cs : List Char) :
    maskFrom p (c :: cs) = ⟨c, (p.step c).1⟩ :: maskFrom (p.step c).2 cs :=
  rfl

theorem maskFrom_append (p : Position) (as bs : List Char) :
    maskFrom p (as ++ bs) = maskFrom p as ++ maskFrom (p.after as) bs := by
  induction as generalizing p with
  | nil => rfl
  | cons c as ih => rw [List.cons_append, maskFrom_cons, ih, maskFrom_cons]; rfl

/-! ## Characters without a meaning for the mask -/

/-- Neither a quote nor a bracket. -/
def isOrdinary (c : Char) : Bool := !isQuote c && !isOpening c && !isClosing c

theorem step_ordinary {c : Char} (h : isOrdinary c = true) (depth : Nat) :
    (Position.inside depth).step c = (decide (0 < depth), .inside depth) := by
  simp only [isOrdinary, Bool.and_eq_true, Bool.not_eq_true'] at h
  obtain ⟨⟨noQuote, noOpening⟩, noClosing⟩ := h
  simp [Position.step, Position.inside, noQuote, noOpening, noClosing]
  rfl

/-- The quotes and brackets. -/
def specials : List Char := ['\'', '"', '(', '[', '\x7b', ')', ']', '\x7d']

theorem isOrdinary_iff {c : Char} : isOrdinary c = true ↔ c ∉ specials := by
  simp [isOrdinary, isQuote, isOpening, isClosing, specials, and_assoc]

theorem isOrdinary_of_isBlank {c : Char} (h : isBlank c = true) : isOrdinary c = true := by
  have filled : ∀ d ∈ specials, isBlank d = false := by simp [specials, isBlank, covers, blankRanges]
  refine isOrdinary_iff.mpr fun special => ?_
  rw [filled c special] at h
  cases h

/-! ## Closed texts -/

/-- The quotes and brackets of the text are closed: behind it the reader is where it was, and within
brackets all of it is hidden. -/
structure Closed (cs : List Char) : Prop where
  returns : ∀ depth, (Position.inside depth).after cs = .inside depth
  hidden : ∀ depth, ∀ g ∈ maskFrom (.inside (depth + 1)) cs, g.hidden = true

theorem Closed.nil : Closed [] := ⟨fun _ => rfl, fun _ _ hg => absurd hg List.not_mem_nil⟩

theorem Closed.append {as bs : List Char} (ha : Closed as) (hb : Closed bs) : Closed (as ++ bs) where
  returns depth := by rw [Position.after_append, ha.returns, hb.returns]
  hidden depth := by
    rw [maskFrom_append, ha.returns]
    exact List.forall_mem_append.mpr ⟨ha.hidden depth, hb.hidden depth⟩

theorem Closed.flatMap {α : Type} {f : α → List Char} {as : List α}
    (h : ∀ a ∈ as, Closed (f a)) : Closed (as.flatMap f) := by
  induction as with
  | nil => exact .nil
  | cons a as ih =>
      obtain ⟨ha, has⟩ := List.forall_mem_cons.mp h
      rw [List.flatMap_cons]
      exact ha.append (ih has)

theorem Closed.ordinary {cs : List Char} (h : ∀ c ∈ cs, isOrdinary c = true) : Closed cs := by
  induction cs with
  | nil => exact .nil
  | cons c cs ih =>
      have step := step_ordinary (h c List.mem_cons_self)
      have one : Closed [c] := by
        refine ⟨fun depth => ?_, fun depth g hg => ?_⟩
        · rw [Position.after_cons, step, Position.after_nil]
        · rw [maskFrom_cons, step, maskFrom_nil, List.mem_singleton] at hg
          rw [hg]
          exact decide_eq_true (Nat.succ_pos depth)
      exact one.append (ih fun c hc => h c (List.mem_cons_of_mem _ hc))

theorem Closed.blanks {cs : List Char} (h : Blanks cs) : Closed cs :=
  .ordinary fun c hc => isOrdinary_of_isBlank (h c hc)

theorem Closed.marked {c : Char} (h : isOrdinary c = true) : Closed [c] :=
  .ordinary (List.forall_mem_singleton.mpr h)

/-! ## Brackets -/

section

variable {opening closing : Char}

theorem step_opening (h : isOpening opening = true) (depth : Nat) :
    (Position.inside depth).step opening = (decide (0 < depth), .inside (depth + 1)) := by
  have noQuote : isQuote opening = false := by
    simp only [isOpening, Bool.or_eq_true, decide_eq_true_eq] at h
    rcases h with (rfl | rfl) | rfl <;> rfl
  simp [Position.step, Position.inside, noQuote, h]
  rfl

theorem step_closing (h : isClosing closing = true) (depth : Nat) :
    (Position.inside (depth + 1)).step closing = (decide (0 < depth), .inside depth) := by
  have other : isQuote closing = false ∧ isOpening closing = false := by
    simp only [isClosing, Bool.or_eq_true, decide_eq_true_eq] at h
    rcases h with (rfl | rfl) | rfl <;> exact ⟨rfl, rfl⟩
  simp [Position.step, Position.inside, other, h]

variable (ho : isOpening opening = true) (hc : isClosing closing = true) {inside : List Char}
  (h : Closed inside)
include ho hc h

theorem maskFrom_bracket (depth : Nat) :
    maskFrom (.inside depth) (opening :: (inside ++ [closing])) =
      ⟨opening, decide (0 < depth)⟩ ::
        (maskFrom (.inside (depth + 1)) inside ++ [⟨closing, decide (0 < depth)⟩]) := by
  rw [maskFrom_cons, step_opening ho, maskFrom_append, h.returns, maskFrom_cons, step_closing hc]
  rfl

/-- Brackets around a closed text. -/
theorem Closed.bracket : Closed (opening :: (inside ++ [closing])) where
  returns depth := by
    rw [Position.after_cons, step_opening ho, Position.after_append, h.returns, Position.after_cons,
      step_closing hc, Position.after_nil]
  hidden depth := by
    rw [maskFrom_bracket ho hc h]
    simp only [List.forall_mem_cons, List.forall_mem_append, Nat.succ_pos, decide_true,
      List.not_mem_nil, false_implies, implies_true, and_true, true_and]
    exact h.hidden (depth + 1)

end

/-! ## Texts that end outside -/

/-- The mask of the text ends outside of quotes and brackets. -/
def EndsOutside (cs : List Char) : Prop := (Position.inside 0).after cs = .inside 0

theorem Closed.endsOutside {cs : List Char} (h : Closed cs) : EndsOutside cs := h.returns 0

theorem EndsOutside.append {as bs : List Char} (ha : EndsOutside as) (hb : EndsOutside bs) :
    EndsOutside (as ++ bs) := by
  rw [EndsOutside, Position.after_append, ha, hb]

/-- The mask of what follows starts anew. -/
theorem EndsOutside.mask_append {as : List Char} (h : EndsOutside as) (bs : List Char) :
    mask (as ++ bs) = mask as ++ mask bs := by
  rw [mask, show ({} : Position) = .inside 0 from rfl, maskFrom_append, h]
  rfl

@[simp] theorem shown_visible (c : Char) : (Glyph.mk c false).shown = c := rfl

/-- Outside of quotes and brackets a character without a meaning for the mask is shown. -/
theorem mask_ordinary {cs : List Char} (h : ∀ c ∈ cs, isOrdinary c = true) :
    mask cs = cs.map (Glyph.mk · false) := by
  induction cs with
  | nil => rfl
  | cons c cs ih =>
      have step := step_ordinary (h c List.mem_cons_self) 0
      rw [mask, show ({} : Position) = .inside 0 from rfl, maskFrom_cons, step]
      rw [mask, show ({} : Position) = .inside 0 from rfl] at ih
      rw [ih fun d hd => h d (List.mem_cons_of_mem _ hd)]
      rfl

end TextTemplate.Masked
