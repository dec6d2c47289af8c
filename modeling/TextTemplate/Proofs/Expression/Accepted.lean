import TextTemplate.Proofs.Expression.Printing

/-!
# Texts that are read as expressions

Whatever text is read as an expression is closed, and no sign of a comparison is shown in it: it is made
of literals, names and the marks between them. Inside the brackets of a call there are literals only, so
the brackets close each other.
-/

namespace TextTemplate

namespace Masked

open TextTemplate.Text

/-! ## Texts from their parts -/

theorem Cut.chars_eq {c : Char} (visible : c ≠ '_') {ms : Masked} {part : List Char}
    {parts : List (List Char × List Char)} (h : Cut (.words [[c]]) ms part parts) :
    chars ms = part ++ parts.flatMap fun p => c :: p.2 := by
  induction h with
  | nil => rfl
  | char _ _ ih => exact congrArg (_ :: ·) ih
  | @mark g ms n part parts here _ ih =>
      rw [words_singleton] at here
      split at here
      · next shown =>
          obtain rfl : n = 0 := by omega
          have char : g.char = c := by
            rw [Glyph.shown] at shown
            split at shown
            · exact absurd shown.symm visible
            · exact shown
          rw [List.drop_zero] at ih
          rw [chars, List.map_cons, char, List.flatMap_cons, ← chars, ih]
          rfl
      · cases here

/-- A text is its parts before they are trimmed, with the separator between them. -/
theorem exists_parts {c : Char} (visible : c ≠ '_') (cs : List Char) :
    ∃ (first : List Char) (others : List (List Char)), cs = first ++ others.flatMap (c :: ·) ∧
      split (.words [[c]]) cs = trim first :: others.map trim := by
  obtain ⟨part, parts, cuts⟩ := exists_cut (.words [[c]]) (mask cs)
  have whole := cuts.chars_eq visible
  rw [chars_mask] at whole
  refine ⟨part, parts.map Prod.snd, ?_, ?_⟩
  · rwa [List.flatMap_map]
  · rw [split_of_cut cuts, List.map_map]
    rfl

/-! ## Texts without signs of comparisons -/

/-- The signs of which `&&` and the operators between operands consist. -/
def comparisonSigns : List Char := ['&', '=', '<', '>', '!']

/-- The quotes and brackets of the text are closed, and no sign of a comparison is shown. -/
structure Signless (cs : List Char) : Prop where
  closed : Closed cs
  signs : ∀ g ∈ mask cs, g.shown ∉ comparisonSigns

theorem Signless.append {as bs : List Char} (ha : Signless as) (hb : Signless bs) :
    Signless (as ++ bs) where
  closed := ha.closed.append hb.closed
  signs := by
    rw [ha.closed.endsOutside.mask_append]
    exact List.forall_mem_append.mpr ⟨ha.signs, hb.signs⟩

theorem Unbroken.signless {cs : List Char} (h : Unbroken cs) : Signless cs where
  closed := h.closed
  signs g hg sign := by
    have other : ∀ c ∈ comparisonSigns, c ∈ operatorSigns := by simp [comparisonSigns, operatorSigns]
    exact h.quiet.signs g hg (other _ sign)

theorem Signless.of_plain {cs : List Char} (h : ∀ c ∈ cs, c ∉ specials ∧ c ∉ comparisonSigns) :
    Signless cs := by
  have ordinary : ∀ c ∈ cs, isOrdinary c = true := fun c hc => isOrdinary_iff.mpr (h c hc).1
  refine ⟨.ordinary ordinary, ?_⟩
  rw [mask_ordinary ordinary]
  exact List.forall_mem_map.mpr fun c hc => (h c hc).2

theorem Signless.of_trim {cs : List Char} (h : Signless (trim cs)) : Signless cs := by
  obtain ⟨lead, trail, hlead, htrail, same⟩ := exists_padding cs
  rw [same]
  exact ((Unbroken.blanks hlead).signless.append h).append (Unbroken.blanks htrail).signless

/-- A text is closed and without signs if its parts are. -/
theorem Signless.of_parts {c : Char} (visible : c ≠ '_') (plain : c ∉ specials ∧ c ∉ comparisonSigns)
    {cs : List Char} (h : ∀ p ∈ split (.words [[c]]) cs, Signless p) : Signless cs := by
  obtain ⟨first, others, whole, parts⟩ := exists_parts visible cs
  rw [parts] at h
  obtain ⟨hfirst, hothers⟩ := List.forall_mem_cons.mp h
  rw [List.forall_mem_map] at hothers
  rw [whole]
  refine hfirst.of_trim.append ?_
  clear parts whole h
  induction others with
  | nil => exact .of_plain nofun
  | cons p others ih =>
      obtain ⟨hp, hothers⟩ := List.forall_mem_cons.mp hothers
      rw [List.flatMap_cons]
      have mark : Signless [c] := .of_plain (List.forall_mem_singleton.mpr plain)
      exact (mark.append hp.of_trim).append (ih hothers)

end Masked

open TextTemplate.Text Masked Literal

/-! ## Names -/

/-- The characters of identifiers. -/
def isIdentChar (c : Char) : Bool := c = '_' || isIdentStart c || isIdentContinue c

theorem identChar_of_ident {cs : List Char} (h : isIdent cs = true) :
    ∀ c ∈ cs, isIdentChar c = true := by
  cases cs with
  | nil => exact nofun
  | cons c cs =>
      obtain ⟨start, parts⟩ := Bool.and_eq_true_iff.mp h
      refine List.forall_mem_cons.mpr ⟨?_, fun d hd => ?_⟩
      · rw [isIdentChar, start, Bool.true_or]
      · rw [isIdentChar, List.all_eq_true.mp parts d hd, Bool.or_true]

theorem identChar_of_isDigit {c : Char} (h : c.isDigit = true) : isIdentChar c = true := by
  simp [isIdentChar, isIdentContinue, Char.isAlphanum, h]

theorem identChar_of_path {cs : List Char} (h : isPath cs = true) :
    ∀ c ∈ cs, c = '.' ∨ isIdentChar c = true := by
  refine forall_mem_segments fun segment hs => ?_
  rcases Bool.or_eq_true_iff.mp (List.all_eq_true.mp h segment hs) with ident | number
  · exact identChar_of_ident ident
  · intro d hd
    exact identChar_of_isDigit (List.all_eq_true.mp (Bool.and_eq_true_iff.mp number).2 d hd)

theorem plain_of_identChar {c : Char} (h : isIdentChar c = true) :
    c ∉ specials ∧ c ∉ comparisonSigns := by
  have others : (specials ++ comparisonSigns).all (fun d => !isIdentChar d) = true := by decide
  have other : c ∉ specials ++ comparisonSigns := by
    intro hc
    have no := List.all_eq_true.mp others c hc
    rw [h] at no
    cases no
  exact not_or.mp fun hc => other (List.mem_append.mpr hc)

theorem plain_of_ident {cs : List Char} (h : isIdent cs = true) :
    ∀ c ∈ cs, c ∉ specials ∧ c ∉ comparisonSigns :=
  fun c hc => plain_of_identChar (identChar_of_ident h c hc)

theorem plain_of_path {cs : List Char} (h : isPath cs = true) :
    ∀ c ∈ cs, c ∉ specials ∧ c ∉ comparisonSigns := by
  intro c hc
  rcases identChar_of_path h c hc with rfl | part
  · simp [specials, comparisonSigns]
  · exact plain_of_identChar part

/-! ## Calls -/

theorem signless_arguments {raw : List Char} {texts : List (List Char)} {values : List Value}
    (h : parseArguments raw texts = .ok values) : ∀ text ∈ texts, Signless text := by
  intro text ht
  obtain ⟨v, here⟩ := forall_mem_of_mapM h text ht
  split at here
  · next v reads => exact (unbroken_of_parseChars reads).signless
  · cases here

/-- A call with a plain name is closed and shows no sign. -/
theorem signless_of_parseCall {raw text name : List Char} {values : List Value}
    (h : parseCall raw text = .ok (name, values))
    (plain : ∀ c ∈ name, c ∉ specials ∧ c ∉ comparisonSigns) : Signless text := by
  refine .of_trim ?_
  have hname : Signless name := .of_plain plain
  rw [parseCall] at h
  rcases hparts : callParts (trim text) with ⟨name', texts⟩
  rw [hparts] at h
  dsimp only at h
  rcases hargs : parseArguments raw texts with _ | values'
  · rw [hargs] at h
    cases h
  rw [hargs] at h
  cases h
  have literals := signless_arguments hargs
  rw [callParts] at hparts
  split at hparts
  · next name inside called =>
      cases hparts
      have closed : Signless inside := by
        refine .of_parts (c := ',') (by decide) (by simp [specials, comparisonSigns]) fun p hp => ?_
        cases p with
        | nil => exact .of_plain (List.forall_mem_nil _)
        | cons d p => exact literals _ (List.mem_filter.mpr ⟨hp, rfl⟩)
      rw [(bracketCall?_eq_some.mp called).2]
      exact hname.append (Unbroken.bracket (by decide) (by decide) closed.closed).signless
  · split at hparts
    · next none => simp [split] at none
    · next name arguments parts =>
        cases hparts
        refine .of_parts (c := ':') (by decide) (by simp [specials, comparisonSigns]) ?_
        rw [← colon, parts]
        exact List.forall_mem_cons.mpr ⟨hname, literals⟩

/-! ## Expressions -/

/-- All registered filters have identifiers for names. -/
def IdentNames (filters : NameMap Filter) : Prop :=
  ∀ name ∈ filters.names, isIdent name.toList = true

variable {filters : NameMap Filter}

theorem signless_of_parseFilter (idents : IdentNames filters) {raw text : List Char} {use : FilterCall}
    (h : parseFilter filters raw text = .ok use) : Signless text := by
  rw [parseFilter] at h
  obtain ⟨⟨name, arguments⟩, call, h⟩ := exists_of_bind_eq_ok h
  dsimp only at h
  split at h
  · next filter found =>
      have ident := idents _ (List.mem_map_of_mem (NameMap.mem_of_find? found))
      rw [String.toList_ofList] at ident
      exact signless_of_parseCall call (plain_of_ident ident)
  · cases h

/-- What is read as an expression is closed, and no sign of a comparison is shown in it. -/
theorem signless_of_parseExpr (idents : IdentNames filters) {text : List Char} {e : Expr}
    (h : parseExpr filters text = .ok e) : Signless text := by
  refine .of_trim (.of_parts (c := '|') (by decide) (by simp [specials, comparisonSigns]) ?_)
  rw [parseExpr] at h
  split at h
  next head rest parts =>
  obtain ⟨uses, calls, h⟩ := exists_of_bind_eq_ok h
  have first : Signless head := by
    split at h
    · next v reads => exact (unbroken_of_parseChars reads).signless
    · obtain ⟨⟨path, arguments⟩, call, h⟩ := exists_of_bind_eq_ok h
      dsimp only at h
      split at h
      · next path => exact signless_of_parseCall call (plain_of_path path)
      · cases h
  have others : ∀ text ∈ rest, Signless text := by
    intro text ht
    obtain ⟨use, here⟩ := forall_mem_of_mapM calls text ht
    exact signless_of_parseFilter idents here
  rw [← pipe]
  split at parts
  · next none => simp [split] at none
  · next same =>
      cases parts
      rw [same]
      exact List.forall_mem_cons.mpr ⟨first, others⟩

end TextTemplate
