import TextTemplate.Proofs.Expression.Splitting
import TextTemplate.Proofs.Literal.Reading

/-!
# Masks of literals

The mask and the reader of literals see the same quotes, escapes and brackets. So a literal is closed,
and what is shown of it holds no sign of a separator or an operator and no word that starts with `o`
behind a blank: no separator of expressions cuts a literal.
-/

namespace TextTemplate.Masked

open TextTemplate.Text TextTemplate.Literal

/-! ## Strings -/

/-- Inside of a string and inside of so many brackets. -/
def Position.within (quote : Char) (depth : Nat) : Position := { quote := some quote, depth }

section

variable {quote : Char}

theorem step_quote (h : isQuote quote = true) (depth : Nat) :
    (Position.inside depth).step quote = (decide (0 < depth), .within quote depth) := by
  simp [Position.step, Position.inside, h]
  exact ⟨rfl, rfl⟩

theorem step_end (h : quote ≠ '\\') (depth : Nat) :
    (Position.within quote depth).step quote = (decide (0 < depth), .inside depth) := by
  simp [Position.step, Position.within, h, Position.inside]
  rfl

theorem step_within {c : Char} (hescape : c ≠ '\\') (hquote : c ≠ quote) (depth : Nat) :
    (Position.within quote depth).step c = (true, .within quote depth) := by
  simp [Position.step, Position.within, hescape, hquote]

theorem after_escape (c : Char) (depth : Nat) (cs : List Char) :
    (Position.within quote depth).after ('\\' :: c :: cs) = (Position.within quote depth).after cs := by
  simp [Position.step, Position.within]

theorem maskFrom_escape (c : Char) (depth : Nat) (cs : List Char) :
    maskFrom (.within quote depth) ('\\' :: c :: cs) =
      ⟨'\\', true⟩ :: ⟨c, true⟩ :: maskFrom (.within quote depth) cs := by
  simp [maskFrom, Position.step, Position.within]

/-- The mask stays inside of a string as long as the reader of strings does, and hides what is there. -/
theorem hidden_stringText {inside content : List Char} (h : StringText quote inside content)
    (depth : Nat) : (Position.within quote depth).after inside = .within quote depth ∧
      ∀ g ∈ maskFrom (.within quote depth) inside, g.hidden = true := by
  induction h with
  | nil => exact ⟨rfl, List.forall_mem_nil _⟩
  | escape _ c _ ih =>
      rw [after_escape, maskFrom_escape]
      exact ⟨ih.1, List.forall_mem_cons.mpr ⟨rfl, List.forall_mem_cons.mpr ⟨rfl, ih.2⟩⟩⟩
  | plain hquote hescape _ ih =>
      rw [Position.after_cons, maskFrom_cons, step_within hescape hquote]
      exact ⟨ih.1, List.forall_mem_cons.mpr ⟨rfl, ih.2⟩⟩

end

/-! ## Texts that no separator cuts -/

/-- The signs of separators and operators. -/
def operatorSigns : List Char := ['|', ':', '?', '&', '=', '<', '>', '!']

/-- No sign of a separator or an operator is shown, and no `o` in front or behind a blank. -/
structure Quiet (ms : Masked) : Prop where
  signs : ∀ g ∈ ms, g.shown ∉ operatorSigns
  first : ∀ g ∈ ms.head?, g.shown ≠ 'o'
  behind : ms.IsChain fun g h => isBlank g.shown = true → h.shown ≠ 'o'

theorem Quiet.append {as bs : Masked} (ha : Quiet as) (hb : Quiet bs) : Quiet (as ++ bs) where
  signs := List.forall_mem_append.mpr ⟨ha.signs, hb.signs⟩
  first := by
    cases as with
    | nil => exact hb.first
    | cons g as => exact ha.first
  behind := ha.behind.append hb.behind fun _ _ h hh _ => hb.first h hh

theorem Quiet.of_ne {ms : Masked} (signs : ∀ g ∈ ms, g.shown ∉ operatorSigns)
    (other : ∀ g ∈ ms, g.shown ≠ 'o') : Quiet ms where
  signs := signs
  first g hg := other g (List.mem_of_mem_head? hg)
  behind := by
    induction ms with
    | nil => exact .nil
    | cons g ms ih =>
        have tail := List.forall_mem_cons.mp other
        refine (ih (List.forall_mem_cons.mp signs).2 tail.2).cons fun h hh _ => ?_
        exact tail.2 h (List.mem_of_mem_head? hh)

theorem Quiet.of_filled {ms : Masked} (signs : ∀ g ∈ ms, g.shown ∉ operatorSigns)
    (first : ∀ g ∈ ms.head?, g.shown ≠ 'o') (filled : ∀ g ∈ ms, isBlank g.shown = false) :
    Quiet ms where
  signs := signs
  first := first
  behind := by
    clear first signs
    induction ms with
    | nil => exact .nil
    | cons g ms ih =>
        obtain ⟨hg, hms⟩ := List.forall_mem_cons.mp filled
        refine (ih hms).cons fun h _ blank => ?_
        rw [hg] at blank
        cases blank

theorem Quiet.of_hidden {ms : Masked} (h : ∀ g ∈ ms, g.hidden = true) : Quiet ms := by
  have underscores : ∀ g ∈ ms, g.shown = '_' := fun g hg => by rw [Glyph.shown, h g hg]; rfl
  refine .of_ne (fun g hg => ?_) (fun g hg => ?_)
  · rw [underscores g hg]
    decide
  · rw [underscores g hg]
    decide

/-- No mark of a choice and no `or` is shown in a literal. -/
theorem Quiet.free {ms : Masked} (h : Quiet ms) :
    Free choiceMark ms [] ∧ Free orWord ms [] := by
  refine ⟨fun us vs same nonempty => ?_, fun us vs same nonempty => ?_⟩ <;> rw [List.append_nil]
  · have marks : ∀ g ∈ vs.head?, g.shown ≠ '?' ∧ g.shown ≠ ':' := by
      intro g hg
      have noSign := h.signs g (by rw [same]; exact List.mem_append_right _ (List.mem_of_mem_head? hg))
      constructor <;>
        · intro sign
          rw [sign] at noSign
          exact noSign (by decide)
    simp [choiceMark, Separator.words, after?_eq_none _ fun g hg => (marks g hg).1,
      after?_eq_none _ fun g hg => (marks g hg).2]
  · cases vs with
    | nil => exact absurd rfl nonempty
    | cons g vs =>
        have noWord : ((afterBlanks? (g :: vs)).bind fun ms =>
            (after? ['o', 'r'] ms).bind afterBlanks?) = none := by
          rw [afterBlanks?]
          split
          · next blank =>
              have chain := h.behind
              rw [same] at chain
              have behind := head?_dropBlanks chain.right_of_append blank
              rw [Option.bind_some, after?_eq_none _ behind]
              rfl
          · rfl
        have noSign : after? ['|', '|'] (g :: vs) = none := by
          refine after?_eq_none _ fun x hx sign => ?_
          have hms : x ∈ ms := by
            rw [same]
            exact List.mem_append_right _ (List.mem_of_mem_head? hx)
          have other := h.signs x hms
          rw [sign] at other
          exact other (by decide)
        rw [orWord, Separator.wordOrSign, noWord, noSign]
        rfl

/-! ## Literals -/

/-- The quotes and brackets of the text are closed, and no separator cuts it. -/
structure Unbroken (cs : List Char) : Prop where
  closed : Closed cs
  quiet : Quiet (mask cs)

theorem Unbroken.append {as bs : List Char} (ha : Unbroken as) (hb : Unbroken bs) :
    Unbroken (as ++ bs) where
  closed := ha.closed.append hb.closed
  quiet := by
    rw [ha.closed.endsOutside.mask_append]
    exact ha.quiet.append hb.quiet

theorem Unbroken.apart {cs : List Char} (h : Unbroken cs) {c : Char} (sign : c ∈ operatorSigns) :
    Apart c cs :=
  ⟨h.closed.endsOutside, fun g hg same => h.quiet.signs g hg (same ▸ sign)⟩

theorem Unbroken.blanks {cs : List Char} (h : Blanks cs) : Unbroken cs where
  closed := .blanks h
  quiet := by
    have signs : ∀ d ∈ operatorSigns, isBlank d = false := by
      simp [operatorSigns, isBlank, covers, blankRanges]
    rw [mask_ordinary fun c hc => isOrdinary_of_isBlank (h c hc)]
    refine .of_ne (List.forall_mem_map.mpr fun c hc sign => ?_) (List.forall_mem_map.mpr fun c hc => ?_)
    · have filled := signs _ sign
      rw [shown_visible, h c hc] at filled
      cases filled
    · rintro rfl
      have blank := h _ hc
      revert blank
      decide

theorem Unbroken.bracket {opening closing : Char} (ho : isOpening opening = true)
    (hc : isClosing closing = true) {inside : List Char} (h : Closed inside) :
    Unbroken (opening :: (inside ++ [closing])) where
  closed := .bracket ho hc h
  quiet := by
    have brackets : ∀ c ∈ specials, Quiet [⟨c, false⟩] := by
      have other : ∀ c ∈ specials, c ∉ operatorSigns ∧ c ≠ 'o' := by simp [specials, operatorSigns]
      intro c hc
      exact .of_ne (List.forall_mem_singleton.mpr (other c hc).1)
        (List.forall_mem_singleton.mpr (other c hc).2)
    have opens : opening ∈ specials := by
      simp only [isOpening, Bool.or_eq_true, decide_eq_true_eq] at ho
      rcases ho with (rfl | rfl) | rfl <;> decide
    have closes : closing ∈ specials := by
      simp only [isClosing, Bool.or_eq_true, decide_eq_true_eq] at hc
      rcases hc with (rfl | rfl) | rfl <;> decide
    rw [mask, show ({} : Position) = .inside 0 from rfl, maskFrom_bracket ho hc h]
    exact (brackets _ opens).append ((Quiet.of_hidden (h.hidden 0)).append (brackets _ closes))

/-- A string. -/
theorem Unbroken.string {quote : Char} (hquote : quote = '\'' ∨ quote = '"')
    {inside content : List Char} (h : StringText quote inside content) :
    Unbroken (quote :: (inside ++ [quote])) := by
  have isquote : isQuote quote = true := by rcases hquote with rfl | rfl <;> rfl
  have plain : quote ≠ '\\' := by rcases hquote with rfl | rfl <;> decide
  have hidden := hidden_stringText h
  have masked : ∀ depth, maskFrom (.inside depth) (quote :: (inside ++ [quote])) =
      ⟨quote, decide (0 < depth)⟩ ::
        (maskFrom (.within quote depth) inside ++ [⟨quote, decide (0 < depth)⟩]) := by
    intro depth
    rw [maskFrom_cons, step_quote isquote, maskFrom_append, (hidden depth).1, maskFrom_cons,
      step_end plain]
    rfl
  refine ⟨⟨fun depth => ?_, fun depth => ?_⟩, ?_⟩
  · rw [Position.after_cons, step_quote isquote, Position.after_append, (hidden depth).1,
      Position.after_cons, step_end plain, Position.after_nil]
  · rw [masked]
    simp only [List.forall_mem_cons, List.forall_mem_append, Nat.succ_pos, decide_true,
      List.not_mem_nil, false_implies, implies_true, and_true, true_and]
    exact (hidden (depth + 1)).2
  · have end_quiet : Quiet [⟨quote, false⟩] := by
      rcases hquote with rfl | rfl <;> exact .of_ne (by decide) (by decide)
    rw [mask, show ({} : Position) = .inside 0 from rfl, masked]
    exact end_quiet.append ((Quiet.of_hidden (hidden 0).2).append end_quiet)

/-- What goes on in a number or a word has no meaning for the mask and is no sign. -/
theorem plain_of_not_stops {c : Char} (h : ¬ Stops [c]) : isOrdinary c = true ∧ c ∉ operatorSigns := by
  have stops : ∀ d ∈ specials ++ operatorSigns, Stops [d] := by
    have noParts : (specials ++ operatorSigns).all (fun d => !isWordPart d) = true := by
      decide
    have noSigns : ∀ d ∈ specials ++ operatorSigns, d ≠ '.' ∧ d ≠ '+' ∧ d ≠ '-' := by
      simp [specials, operatorSigns]
    intro d hd
    exact stops_cons.mpr ⟨by simpa using List.all_eq_true.mp noParts d hd, noSigns d hd⟩
  exact ⟨isOrdinary_iff.mpr fun special => h (stops c (List.mem_append_left _ special)),
    fun sign => h (stops c (List.mem_append_right _ sign))⟩

/-- A number or a word. -/
theorem Unbroken.word {cs : List Char} (parts : ∀ c ∈ cs, ¬ Stops [c])
    (first : ∀ c ∈ cs.head?, c ≠ 'o') : Unbroken cs := by
  have ordinary : ∀ c ∈ cs, isOrdinary c = true := fun c hc => (plain_of_not_stops (parts c hc)).1
  refine ⟨.ordinary ordinary, ?_⟩
  rw [mask_ordinary ordinary]
  refine .of_filled ?_ ?_ ?_
  · exact List.forall_mem_map.mpr fun c hc => (plain_of_not_stops (parts c hc)).2
  · intro g hg
    rw [List.head?_map] at hg
    obtain ⟨c, hc, rfl⟩ := Option.map_eq_some_iff.mp hg
    exact first c hc
  · exact List.forall_mem_map.mpr fun c hc => (filled_of_not_stops (parts c hc)).1

end TextTemplate.Masked

namespace TextTemplate.Literal

open TextTemplate.Text Masked

theorem Atom.unbroken {text : List Char} {v : Value} (h : Atom text v) : Unbroken text := by
  cases h with
  | string hquote text => exact .string hquote text
  | @number c cs _ start reads =>
      refine .word (not_stops_of_number reads) ?_
      rintro d ⟨⟩ rfl
      revert start
      decide
  | constant means =>
      have first : ∀ word ∈ constantWords, ∀ c ∈ word.head?, c ≠ 'o' := by
        simp [constantWords]
      exact .word (not_stops_of_constant means) (first _ (mem_constantWords means))

section

variable {item : List Char → Value → Prop}

/-- What holds of members, blanks and commas, and of texts that are put together, holds of members with
commas between them. -/
theorem Members.composed {α : Type} {member : List Char → α → Prop} {P : List Char → Prop}
    (append : ∀ {as bs}, P as → P bs → P (as ++ bs)) (blanks : ∀ {cs}, Blanks cs → P cs)
    (comma : P [',']) (single : ∀ {text a}, member text a → P text) {cs : List Char} {as : List α}
    {more : Bool} (h : Members member cs as more) : P cs := by
  induction h with
  | none blank => exact blanks blank
  | last before here behind => exact append (append (blanks before) (single here)) (blanks behind)
  | more before here behind _ ih =>
      exact append (append (append (blanks before) (single here)) (blanks behind)) (append comma ih)

theorem Members.closed {α : Type} {member : List Char → α → Prop}
    (closed : ∀ {text a}, member text a → Closed text) {cs : List Char} {as : List α} {comma : Bool}
    (h : Members member cs as comma) : Closed cs :=
  h.composed Closed.append Closed.blanks (.marked (by decide)) closed

theorem Entry.closed (closed : ∀ {text v}, item text v → Closed text) {text : List Char}
    {entry : String × Value} (h : Entry item text entry) : Closed text := by
  cases h with
  | mk hkey _ behind before hvalue =>
      exact ((closed hkey).append (.blanks behind)).append
        ((Closed.marked (by decide)).append ((Closed.blanks before).append (closed hvalue)))

theorem Bracketed.unbroken (closed : ∀ {text v}, item text v → Closed text) {text : List Char}
    {v : Value} (h : Bracketed item text v) : Unbroken text := by
  cases h with
  | list members => exact .bracket (by decide) (by decide) (members.closed closed)
  | tuple members => exact .bracket (by decide) (by decide) (members.closed closed)
  | dict members => exact .bracket (by decide) (by decide) (members.closed (Entry.closed closed))

end

theorem Written.unbroken {depth : Nat} {text : List Char} {v : Value} (h : Written depth text v) :
    Unbroken text := by
  induction depth generalizing text v with
  | zero => exact Atom.unbroken h
  | succ depth ih => exact h.elim Atom.unbroken (Bracketed.unbroken fun h => (ih h).closed)

theorem Members.unbroken {α : Type} {member : List Char → α → Prop}
    (unbroken : ∀ {text a}, member text a → Unbroken text) {cs : List Char} {as : List α}
    {comma : Bool} (h : Members member cs as comma) : Unbroken cs := by
  have sign : Unbroken [','] := ⟨.marked (by decide), .of_ne (by decide) (by decide)⟩
  exact h.composed Unbroken.append Unbroken.blanks sign unbroken

/-- No separator of expressions cuts a literal. -/
theorem unbroken_of_parseChars {cs : List Char} {v : Value} (h : parseChars cs = some v) :
    Unbroken cs := by
  obtain ⟨items, comma, members, -⟩ := parseChars_eq_some.mp h
  exact members.unbroken Written.unbroken

end TextTemplate.Literal
