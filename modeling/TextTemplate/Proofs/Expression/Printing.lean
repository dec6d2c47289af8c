import TextTemplate.Filter.Standard
import TextTemplate.Proofs.Expression.LiteralMask
import TextTemplate.Proofs.Expression.Splitting
import TextTemplate.Proofs.Result

/-!
# Printed expressions

Calls and expressions as they are written, and that reading what is written gives it back. Their
arguments are any literals that no comma cuts, so whatever separators stand in the strings and brackets
of an expression, it is split where its parts were joined.
-/

namespace TextTemplate

open TextTemplate.Text Masked Literal

/-! ## The written form -/

/-- A name and the texts of its arguments, written `name(a, b)` or `name:a:b`. -/
structure CallText where
  bracketed : Bool
  name : List Char
  arguments : List (List Char)

def CallText.print (call : CallText) : List Char :=
  if call.bracketed then call.name ++ '(' :: (joinChars [',', ' '] call.arguments ++ [')'])
  else call.name ++ call.arguments.flatMap (':' :: ·)

/-- A head with calls of filters behind it. -/
def exprText (head : List Char) (calls : List CallText) : List Char :=
  head ++ calls.flatMap fun call => ' ' :: '|' :: ' ' :: call.print

/-- Identifiers of ASCII characters. -/
def isPlainIdent : List Char → Bool
  | [] => false
  | c :: rest => isNameStart c && rest.all fun c => c.isAlphanum || c = '_'

/-- Such identifiers with dots between them. -/
def isPlainPath (cs : List Char) : Bool := (segments '.' cs).all isPlainIdent

/-- The text of a literal that may be an argument: no comma in it is shown. -/
structure Argument (text : List Char) (v : Value) : Prop where
  reads : parseChars text = some v
  lacks : Lacks ',' (mask text)

/-- The text of a use of a registered filter. -/
structure Uses (filters : NameMap Filter) (call : CallText) (use : FilterCall) : Prop where
  ident : isPlainIdent call.name = true
  named : use.name = String.ofList call.name
  registered : filters.find? use.name = some use.filter
  arguments : List.Forall₂ Argument call.arguments use.arguments

/-! ## Names -/

/-- What a call may start with: the characters of a path, the first one of an identifier. -/
structure CallName (cs : List Char) : Prop where
  start : ∃ c rest, cs = c :: rest ∧ isNameStart c = true
  parts : ∀ c ∈ cs, isNamePart c = true

theorem isNamePart_of_start {c : Char} (h : isNameStart c = true) : isNamePart c = true := by
  simp only [isNameStart, Bool.or_eq_true, decide_eq_true_eq] at h
  rcases h with h | rfl
  · simp [isNamePart, Char.isAlphanum, h]
  · rfl

theorem not_stops_of_namePart {c : Char} (h : isNamePart c = true) : ¬ Stops [c] := by
  refine not_stops_of_isNumberChar ?_ []
  simp only [isNamePart, Bool.or_eq_true, decide_eq_true_eq] at h
  rcases h with (h | rfl) | rfl
  · simp [isNumberChar, h]
  · rfl
  · rfl

theorem namePart_of_ident {cs : List Char} (h : isPlainIdent cs = true) :
    ∀ c ∈ cs, isNamePart c = true := by
  cases cs with
  | nil => exact nofun
  | cons c cs =>
      obtain ⟨start, others⟩ := Bool.and_eq_true_iff.mp h
      refine List.forall_mem_cons.mpr ⟨isNamePart_of_start start, fun d hd => ?_⟩
      have part := List.all_eq_true.mp others d hd
      simp only [Bool.or_eq_true, decide_eq_true_eq] at part
      rcases part with part | rfl
      · simp [isNamePart, part]
      · rfl

/-- A property that holds throughout the segments of a text holds of all but the marks. -/
theorem forall_mem_segments {P : Char → Prop} {mark : Char} {cs : List Char}
    (h : ∀ segment ∈ segments mark cs, ∀ c ∈ segment, P c) : ∀ c ∈ cs, c = mark ∨ P c := by
  induction cs with
  | nil => exact nofun
  | cons c cs ih =>
      rw [segments] at h
      split at h
      · next same =>
          exact List.forall_mem_cons.mpr ⟨.inl same, ih (List.forall_mem_cons.mp h).2⟩
      · split at h
        · next none => exact absurd none (segments_ne_nil mark cs)
        · next segment others same =>
            obtain ⟨first, rest⟩ := List.forall_mem_cons.mp h
            obtain ⟨here, first⟩ := List.forall_mem_cons.mp first
            refine List.forall_mem_cons.mpr ⟨.inr here, ih ?_⟩
            rw [same]
            exact List.forall_mem_cons.mpr ⟨first, rest⟩

theorem callName_of_ident {cs : List Char} (h : isPlainIdent cs = true) : CallName cs where
  start := by
    cases cs with
    | nil => cases h
    | cons c rest => exact ⟨c, rest, rfl, (Bool.and_eq_true_iff.mp h).1⟩
  parts := namePart_of_ident h

theorem callName_of_path {cs : List Char} (h : isPlainPath cs = true) : CallName cs where
  start := by
    cases cs with
    | nil => cases h
    | cons c rest =>
        refine ⟨c, rest, rfl, ?_⟩
        rw [isPlainPath, segments] at h
        split at h
        · cases h
        · split at h <;> exact (Bool.and_eq_true_iff.mp (Bool.and_eq_true_iff.mp h).1).1
  parts := by
    intro c hc
    have parts := forall_mem_segments (P := fun c => isNamePart c = true) (fun segment hs =>
      namePart_of_ident (List.all_eq_true.mp h segment hs)) c hc
    rcases parts with rfl | part
    · rfl
    · exact part

theorem isIdent_of_plain {cs : List Char} (h : isPlainIdent cs = true) : isIdent cs = true := by
  cases cs with
  | nil => cases h
  | cons c rest =>
      obtain ⟨start, others⟩ := Bool.and_eq_true_iff.mp h
      refine Bool.and_eq_true_iff.mpr ⟨?_, List.all_eq_true.mpr fun d hd => ?_⟩
      · simp only [isNameStart, Bool.or_eq_true, decide_eq_true_eq] at start
        rcases start with start | rfl
        · simp [isIdentStart, start]
        · rfl
      · have part := List.all_eq_true.mp others d hd
        rw [Bool.or_eq_true] at part
        rw [isIdentContinue, Bool.or_eq_true, Bool.or_eq_true]
        exact .inl part

theorem isPath_of_plain {cs : List Char} (h : isPlainPath cs = true) : isPath cs = true :=
  List.all_eq_true.mpr fun segment hs =>
    Bool.or_eq_true_iff.mpr (.inl (isIdent_of_plain (List.all_eq_true.mp h segment hs)))

/-- A text that may stand in front of a bracket or a colon: no character in it has a meaning for the mask,
is a blank or separates anything. -/
structure NameText (cs : List Char) : Prop where
  nonempty : cs ≠ []
  ordinary : ∀ c ∈ cs, isOrdinary c = true
  filled : ∀ c ∈ cs, isBlank c = false
  inner : ∀ c ∈ cs, c ∉ [',', ':', '|']

theorem CallName.nameText {cs : List Char} (h : CallName cs) : NameText cs where
  nonempty := by
    obtain ⟨c, rest, rfl, -⟩ := h.start
    exact List.cons_ne_nil c rest
  ordinary c hc := (plain_of_not_stops (not_stops_of_namePart (h.parts c hc))).1
  filled c hc := (filled_of_not_stops (not_stops_of_namePart (h.parts c hc))).1
  inner c hc separator := by
    have others : [',', ':', '|'].all (fun d => !isNamePart d) = true := by decide
    have other := List.all_eq_true.mp others c separator
    rw [h.parts c hc] at other
    cases other

namespace NameText

variable {name : List Char} (h : NameText name)
include h

theorem closed : Closed name := .ordinary h.ordinary

theorem apart {c : Char} (absent : c ∉ name) : Apart c name := by
  refine ⟨h.closed.endsOutside, ?_⟩
  rw [mask_ordinary h.ordinary]
  refine List.forall_mem_map.mpr fun d hd => ?_
  rintro rfl
  exact absent hd

theorem not_mem {c : Char} (separator : c ∈ [',', ':', '|']) : c ∉ name :=
  fun hc => h.inner c hc separator

theorem no_bracket : '(' ∉ name := by
  intro hc
  have ordinary := h.ordinary _ hc
  cases ordinary

theorem startsFilled (rest : List Char) : StartsFilled (name ++ rest) := by
  obtain ⟨c, cs, rfl⟩ := List.exists_cons_of_ne_nil h.nonempty
  exact startsFilled_cons.mpr (h.filled c List.mem_cons_self)

theorem trim_eq : trim name = name := by
  refine trim_eq_self ?_ fun c hc => h.filled c (List.mem_of_mem_getLast? hc)
  rw [← List.append_nil name]
  exact h.startsFilled []

theorem trim_append_cons {c : Char} (filled : isBlank c = false) (rest : List Char) :
    trim (name ++ c :: rest) = name ++ c :: trimEnd rest := by
  rw [trim, trimStart_eq_self (h.startsFilled _), trimEnd_append_cons filled]

end NameText

/-- A name is read up to a character that cannot belong to it. -/
theorem CallName.takeWhile_append {name rest : List Char} (h : CallName name)
    (stops : ∀ c ∈ rest.head?, isNamePart c = false) :
    (name ++ rest).takeWhile isNamePart = name ∧ (name ++ rest).dropWhile isNamePart = rest := by
  rw [List.takeWhile_append_of_pos h.parts, List.dropWhile_append_of_pos h.parts]
  cases rest with
  | nil => simp
  | cons c rest => simp [stops c rfl]

/-! ## Calls -/

/-- The calls with brackets are a name of ASCII characters with brackets around whatever stands behind it. -/
theorem bracketCall?_eq_some {cs name inside : List Char} :
    bracketCall? cs = some (name, inside) ↔
      CallName name ∧ cs = name ++ '(' :: (inside ++ [')']) := by
  constructor
  · intro h
    have whole := List.takeWhile_append_dropWhile (p := isNamePart) (l := cs)
    rw [bracketCall?] at h
    split at h
    · next c front rest taken left =>
        split at h
        · next fits =>
            cases h
            obtain ⟨start, last⟩ := Bool.and_eq_true_iff.mp fits
            refine ⟨⟨⟨c, front, taken, start⟩, fun d hd => List.mem_takeWhile_imp hd⟩, ?_⟩
            have ends : rest.dropLast ++ [')'] = rest :=
              List.dropLast_append_getLast? ')' (by simpa using last)
            rw [ends, ← left, whole]
        · cases h
    · cases h
  · rintro ⟨called, rfl⟩
    have stops : ∀ c ∈ ('(' :: (inside ++ [')'])).head?, isNamePart c = false := by
      rintro c ⟨⟩
      decide
    obtain ⟨taken, left⟩ := called.takeWhile_append stops
    obtain ⟨c, rest, same, start⟩ := called.start
    rw [bracketCall?, taken, left, same]
    simp [start]

/-- Behind a name that brackets may not follow, or that none follow, there is no call with brackets. -/
theorem bracketCall?_eq_none {name rest : List Char} (h : NameText name)
    (stops : ∀ c ∈ rest.head?, isNamePart c = false) (other : ¬ (CallName name ∧ rest.head? = some '(')) :
    bracketCall? (name ++ rest) = none := by
  rw [Option.eq_none_iff_forall_ne_some]
  rintro ⟨called, inside⟩ call
  obtain ⟨hcalled, same⟩ := bracketCall?_eq_some.mp call
  -- The name of the call can only be the whole name.
  rcases List.append_eq_append_iff.mp same with ⟨more, rfl, hrest⟩ | ⟨more, rfl, hbracket⟩
  · cases more with
    | nil =>
        rw [List.append_nil] at hcalled
        exact other ⟨hcalled, by rw [hrest]; rfl⟩
    | cons c more =>
        have part := hcalled.parts c (by simp)
        rw [stops c (by rw [hrest]; rfl)] at part
        cases part
  · cases more with
    | nil =>
        rw [List.append_nil] at other
        rw [List.nil_append] at hbracket
        exact other ⟨hcalled, by rw [← hbracket]; rfl⟩
    | cons c more =>
        obtain ⟨rfl, -⟩ := List.cons.inj hbracket
        exact h.no_bracket (List.mem_append_right _ List.mem_cons_self)

theorem joinChars_cons (separator text : List Char) (texts : List (List Char)) :
    joinChars separator (text :: texts) = text ++ texts.flatMap (separator ++ ·) := by
  induction texts generalizing text with
  | nil => simp [joinChars]
  | cons next texts ih =>
      rw [joinChars, ih, List.flatMap_cons, List.append_assoc, List.append_assoc]
      exact nofun

section

variable {arguments : List (List Char)} {values : List Value}
  (h : List.Forall₂ Argument arguments values)
include h

theorem parseArguments_trim (raw : List Char) :
    parseArguments raw (arguments.map trim) = .ok values := by
  refine mapM_eq_ok ?_
  rw [List.forall₂_map_left_iff]
  refine h.imp fun text v argument => ?_
  rw [parseChars_trim argument.reads]

theorem unbroken_arguments : ∀ a ∈ arguments, Unbroken a :=
  forall_mem_of_forall₂ h fun _ _ argument => unbroken_of_parseChars argument.reads

theorem closed_joinChars : Closed (joinChars [',', ' '] arguments) := by
  have unbroken := unbroken_arguments h
  clear h
  cases arguments with
  | nil => exact .nil
  | cons a as =>
      obtain ⟨ha, has⟩ := List.forall_mem_cons.mp unbroken
      rw [joinChars_cons]
      refine ha.closed.append (.flatMap fun b hb => ?_)
      exact (Closed.ordinary (by simp [isOrdinary_iff, specials])).append (has b hb).closed

theorem split_comma_joinChars :
    (split comma (joinChars [',', ' '] arguments)).filter (!·.isEmpty) = arguments.map trim := by
  cases h with
  | nil => rfl
  | @cons text v texts vs first others =>
      have apart : ∀ a ∈ text :: texts, Apart ',' a :=
        forall_mem_of_forall₂ (List.Forall₂.cons first others) fun _ _ argument =>
          ⟨(unbroken_of_parseChars argument.reads).closed.endsOutside, argument.lacks⟩
      obtain ⟨hfirst, hothers⟩ := List.forall_mem_cons.mp apart
      have joined := split_char_joined (by decide) (by decide) (by decide) blanks_nil blanks_space
        hfirst hothers
      rw [joinChars_cons, comma]
      rw [show (texts.flatMap fun p => [] ++ ',' :: ([' '] ++ p)) =
        texts.flatMap ([',', ' '] ++ ·) from rfl] at joined
      rw [joined, ← List.map_cons, List.filter_eq_self]
      have filled : ∀ a ∈ text :: texts, (!(trim a).isEmpty) = true :=
        forall_mem_of_forall₂ (List.Forall₂.cons first others) fun a v argument => by
          have reads := parseChars_trim argument.reads
          cases hempty : trim a with
          | nil =>
              rw [hempty] at reads
              cases reads
          | cons c cs => rfl
      exact List.forall_mem_map.mpr filled

variable {name : List Char}

theorem callParts_brackets (hname : CallName name) :
    callParts (name ++ '(' :: (joinChars [',', ' '] arguments ++ [')'])) =
      (name, arguments.map trim) := by
  have called : bracketCall? (name ++ '(' :: (joinChars [',', ' '] arguments ++ [')'])) =
      some (name, joinChars [',', ' '] arguments) :=
    bracketCall?_eq_some.mpr ⟨hname, rfl⟩
  rw [callParts, called]
  dsimp only
  rw [split_comma_joinChars h]

theorem callParts_colons (hname : NameText name) :
    callParts (trim (name ++ arguments.flatMap (':' :: ·))) = (name, arguments.map trim) := by
  have apart : ∀ a ∈ arguments, Apart ':' a := fun a ha => (unbroken_arguments h a ha).apart (by decide)
  have cuts : split colon (name ++ arguments.flatMap (':' :: ·)) = name :: arguments.map trim := by
    have joined := split_char_joined (by decide) (by decide) (by decide) blanks_nil blanks_nil
      (hname.apart (hname.not_mem (c := ':') (by decide))) apart
    rwa [hname.trim_eq] at joined
  have noBracket : bracketCall? (trim (name ++ arguments.flatMap (':' :: ·))) = none := by
    cases arguments with
    | nil =>
        have alone : bracketCall? (name ++ []) = none := bracketCall?_eq_none hname nofun nofun
        rw [List.append_nil] at alone
        rwa [List.flatMap_nil, List.append_nil, hname.trim_eq]
    | cons a as =>
        rw [List.flatMap_cons, List.cons_append, hname.trim_append_cons (by decide)]
        refine bracketCall?_eq_none hname ?_ (by simp)
        rintro c ⟨⟩
        decide
  rw [callParts, noBracket]
  dsimp only
  rw [colon, split_trim (by decide) (by decide), ← colon, cuts]

end

theorem CallText.print_brackets {call : CallText} (bracketed : call.bracketed = true) :
    call.print = call.name ++ '(' :: (joinChars [',', ' '] call.arguments ++ [')']) :=
  if_pos bracketed

theorem trim_print {call : CallText} (hname : NameText call.name) (bracketed : call.bracketed = true) :
    trim call.print = call.print := by
  have close : isBlank ')' = false := by decide
  rw [CallText.print_brackets bracketed, hname.trim_append_cons (by decide),
    trimEnd_eq_self (endsFilled_concat.mpr close)]

/-- A printed call is read as its name and its arguments. -/
theorem parseCall_print {call : CallText} {values : List Value} (hname : NameText call.name)
    (called : call.bracketed = true → CallName call.name)
    (h : List.Forall₂ Argument call.arguments values) (raw : List Char) :
    parseCall raw (trim call.print) = .ok (call.name, values) := by
  have parts : callParts (trim call.print) = (call.name, call.arguments.map trim) := by
    by_cases bracketed : call.bracketed = true
    · rw [trim_print hname bracketed, CallText.print_brackets bracketed]
      exact callParts_brackets h (called bracketed)
    · rw [CallText.print, if_neg bracketed]
      exact callParts_colons h hname
  rw [parseCall, trim_idem, parts]
  dsimp only
  rw [parseArguments_trim h]
  rfl

/-! ## Heads -/

/-- A literal that starts with neither a quote nor a bracket is a number or a word throughout. -/
theorem Literal.Written.not_stops {depth : Nat} {c : Char} {text : List Char} {v : Value}
    (start : isOrdinary c = true) (h : Written depth (c :: text) v) : ∀ d ∈ c :: text, ¬ Stops [d] := by
  have brackets : ∀ d ∈ ['[', '(', '\x7b'], d ∈ specials := by simp [specials]
  have atom := h.atom fun bracket => isOrdinary_iff.mp start (brackets c bracket)
  generalize whole : c :: text = cs at atom ⊢
  cases atom with
  | string hquote text =>
      cases whole
      rcases hquote with rfl | rfl <;> cases start
  | number _ reads => exact not_stops_of_number reads
  | constant means => exact not_stops_of_constant means

/-- No literal is a name with something else behind it that stops a word and is neither a blank nor a
comma, such as a bracket or a colon. -/
theorem parseChars_call {name : List Char} (hname : NameText name) {c : Char} (stops : Stops [c])
    (noGap : isBlank c = false) (noComma : c ≠ ',') (rest : List Char) :
    parseChars (name ++ c :: rest) = none := by
  rw [Option.eq_none_iff_forall_ne_some]
  intro v reads
  obtain ⟨d, ds, same⟩ := List.exists_cons_of_ne_nil hname.nonempty
  have first : d ∈ name := by
    rw [same]
    exact List.mem_cons_self
  obtain ⟨items, comma, members, -⟩ := parseChars_eq_some.mp reads
  rw [same, List.cons_append] at members
  obtain ⟨text, u, tail, written, whole, follows⟩ := members.exists_first (hname.filled d first)
  rw [← List.cons_append, ← same] at whole
  have goesOn : ∀ e ∈ text, ¬ Stops [e] := by
    cases text with
    | nil => exact nofun
    | cons e text =>
        rw [same] at whole
        obtain ⟨rfl, -⟩ := List.cons.inj whole
        exact written.not_stops (hname.ordinary d first)
  -- The literal in front ends within the name or behind it, since it does not go on with `c`.
  have behind : ∃ e ∈ tail.head?, isBlank e = false ∧ e ≠ ',' := by
    rcases List.append_eq_append_iff.mp whole with ⟨front, rfl, hbehind⟩ | ⟨more, hname', htail⟩
    · cases front with
      | nil =>
          rw [List.nil_append] at hbehind
          exact ⟨c, by rw [← hbehind]; rfl, noGap, noComma⟩
      | cons e front =>
          cases hbehind
          exact absurd stops (goesOn c (by simp))
    · cases more with
      | nil => exact ⟨c, by rw [htail]; rfl, noGap, noComma⟩
      | cons e more =>
          have inside : e ∈ name := by
            rw [hname']
            simp
          refine ⟨e, by rw [htail]; rfl, hname.filled e inside, ?_⟩
          rintro rfl
          exact hname.not_mem (by decide) inside
  obtain ⟨e, he, filled, noMark⟩ := behind
  rcases follows e he with blank | comma
  · rw [filled] at blank
    cases blank
  · exact noMark comma

theorem parseChars_print {call : CallText} (hname : NameText call.name)
    (other : parseChars call.name = none) : parseChars (trim call.print) = none := by
  have marks : ∀ c ∈ ['(', ':'], Stops [c] ∧ isBlank c = false ∧ c ≠ ',' := by
    intro c hc
    simp only [List.mem_cons, List.not_mem_nil, or_false] at hc
    rcases hc with rfl | rfl <;>
      exact ⟨stops_cons.mpr (by decide), by decide, by decide⟩
  have bracket := marks '(' (by decide)
  have colon := marks ':' (by decide)
  rw [CallText.print]
  split
  · rw [hname.trim_append_cons bracket.2.1]
    exact parseChars_call hname bracket.1 bracket.2.1 bracket.2.2 _
  · cases call.arguments with
    | nil => rwa [List.flatMap_nil, List.append_nil, hname.trim_eq]
    | cons a as =>
        rw [List.flatMap_cons, List.cons_append, hname.trim_append_cons colon.2.1]
        exact parseChars_call hname colon.1 colon.2.1 colon.2.2 _

/-! ## Expressions -/

/-- No separator of filters is shown in a printed call. -/
theorem apart_print {call : CallText} {values : List Value} (hname : NameText call.name)
    (h : List.Forall₂ Argument call.arguments values) : Apart '|' call.print := by
  have unbroken := unbroken_arguments h
  have name : Apart '|' call.name := hname.apart (hname.not_mem (by decide))
  rw [CallText.print]
  split
  · have inside := closed_joinChars h
    exact name.append ((Unbroken.bracket (by decide) (by decide) inside).apart (by decide))
  · refine name.append (.flatMap fun a ha => ?_)
    exact (Apart.marked (d := ':') (by decide) (by decide)).append ((unbroken a ha).apart (by decide))

section

variable {filters : NameMap Filter} {calls : List CallText} {uses : List FilterCall}
  (h : List.Forall₂ (Uses filters) calls uses)
include h

theorem split_exprText {head : List Char} (apart : Apart '|' head) :
    split pipe (trim (exprText head calls)) = trim head :: calls.map fun call => trim call.print := by
  have others : ∀ p ∈ calls.map CallText.print, Apart '|' p := by
    refine List.forall_mem_map.mpr (forall_mem_of_forall₂ h fun call use uses => ?_)
    exact apart_print (callName_of_ident uses.ident).nameText uses.arguments
  have joined := split_char_joined (by decide) (by decide) (by decide) blanks_space blanks_space
    apart others
  rw [List.flatMap_map, List.map_map] at joined
  rw [pipe, split_trim (by decide) (by decide)]
  exact joined

theorem parseFilters_print (raw : List Char) :
    (calls.map fun call => trim call.print).mapM (parseFilter filters raw) = .ok uses := by
  refine mapM_eq_ok ?_
  rw [List.forall₂_map_left_iff]
  refine h.imp fun call use uses => ?_
  have called := callName_of_ident uses.ident
  rw [parseFilter, parseCall_print called.nameText (fun _ => called) uses.arguments]
  dsimp only [bind, Except.bind]
  rw [← uses.named, uses.registered]

/-- The filters of a printed expression whose head is a literal are applied to its value. -/
theorem parseExpr_literal {head : List Char} {v : Value} (hv : parseChars head = some v) :
    parseExpr filters (exprText head calls) =
      (applyFilters (String.ofList (trim (exprText head calls))) uses v).map .literal := by
  rw [parseExpr, split_exprText h ((unbroken_of_parseChars hv).apart (by decide))]
  dsimp only
  rw [parseFilters_print h]
  dsimp only [bind, Except.bind]
  rw [parseChars_trim hv]

/-- A printed expression whose head is a call of a path is read as that path with its arguments and
filters. -/
theorem parseExpr_call {head : CallText} {arguments : List Value} (name : NameText head.name)
    (called : head.bracketed = true → CallName head.name) (path : isPath head.name = true)
    (other : parseChars head.name = none) (hargs : List.Forall₂ Argument head.arguments arguments) :
    parseExpr filters (exprText head.print calls) = .ok (.reference
      { raw := String.ofList (trim (exprText head.print calls))
        path := String.ofList head.name
        arguments
        filters := uses }) := by
  rw [parseExpr, split_exprText h (apart_print name hargs)]
  dsimp only
  rw [parseFilters_print h]
  dsimp only [bind, Except.bind]
  rw [parseChars_print name other, parseCall_print name called hargs]
  dsimp only
  rw [if_pos path]

theorem parseExpr_path {head : CallText} {arguments : List Value} (path : isPlainPath head.name = true)
    (other : parseChars head.name = none) (hargs : List.Forall₂ Argument head.arguments arguments) :
    parseExpr filters (exprText head.print calls) = .ok (.reference
      { raw := String.ofList (trim (exprText head.print calls))
        path := String.ofList head.name
        arguments
        filters := uses }) :=
  have called := callName_of_path path
  parseExpr_call h called.nameText (fun _ => called) (isPath_of_plain path) other hargs

end

theorem parseExpr_alone (filters : NameMap Filter) {text : List Char} {v : Value}
    (hv : parseChars text = some v) : parseExpr filters text = .ok (.literal v) := by
  have nothing : List.Forall₂ (Uses filters) [] [] := .nil
  have alone := parseExpr_literal nothing hv
  rwa [exprText, List.flatMap_nil, List.append_nil] at alone

theorem parseExpr_variable (filters : NameMap Filter) {path : List Char}
    (plain : isPlainPath path = true) (other : parseChars path = none) :
    parseExpr filters path = .ok (.reference
      { raw := String.ofList path, path := String.ofList path, arguments := [], filters := [] }) := by
  have nothing : List.Forall₂ (Uses filters) [] [] := .nil
  have name : isPlainPath (CallText.mk false path []).name = true := plain
  have alone := parseExpr_path nothing name other .nil
  have text : exprText (CallText.mk false path []).print [] = path := by simp [exprText, CallText.print]
  rwa [text, (callName_of_path plain).nameText.trim_eq] at alone

/-- A literal that is a print tag of its own. -/
theorem parsePrint_literal (filters : NameMap Filter) {text : List Char} {v : Value}
    (hv : parseChars text = some v) : parsePrint filters text = .ok (.chain [.literal v]) := by
  obtain ⟨choice, chain⟩ := (unbroken_of_parseChars hv).quiet.free
  have value := parseExpr_alone filters (parseChars_trim hv)
  rw [parsePrint, splitKeep_of_free choice, split_of_free chain, List.mapM_cons, value]
  rfl

/-- Reading a printed expression gives it back. With a literal for a head it is the value of the
literal with the filters applied in order; with a path for a head it is that path with exactly the
printed arguments and filters; and a literal alone in a print tag is a chain of that literal. -/
theorem parse_exprText {filters : NameMap Filter} {calls : List CallText} {uses : List FilterCall}
    (h : List.Forall₂ (Uses filters) calls uses) :
    (∀ head v, parseChars head = some v → parseExpr filters (exprText head calls) =
      (applyFilters (String.ofList (trim (exprText head calls))) uses v).map .literal) ∧
    (∀ (head : CallText) (arguments : List Value), isPlainPath head.name = true →
      parseChars head.name = none → List.Forall₂ Argument head.arguments arguments →
      parseExpr filters (exprText head.print calls) = .ok (.reference
        { raw := String.ofList (trim (exprText head.print calls))
          path := String.ofList head.name
          arguments
          filters := uses })) ∧
    (∀ text v, parseChars text = some v → parsePrint filters text = .ok (.chain [.literal v])) :=
  ⟨fun _ _ hv => parseExpr_literal h hv,
    fun _ _ path other hargs => parseExpr_path h path other hargs,
    fun _ _ hv => parsePrint_literal filters hv⟩

/-- A list with separators in its strings and a dict inside. -/
def separatorText : List Char :=
  "['a|b', \"c or d\", \x7b'x': 'it\\'s ?? 1 :: 2'\x7d]".toList

def separatorValue : Value :=
  .list [.string "a|b", .string "c or d", .map [("x", .string "it's ?? 1 :: 2")]]

def separatorFilters : NameMap Filter := [("join", Filter.join), ("wrap", Filter.wrap)]

/-- A call in brackets and one with colons, with separators in their arguments. -/
def separatorCalls : List CallText :=
  [⟨true, "wrap".toList, ["'a, b'".toList, " (1, '||')".toList]⟩,
    ⟨false, "join".toList, ["' | '".toList]⟩]

def separatorUses : List FilterCall :=
  [⟨"wrap", Filter.wrap, [.string "a, b", .list [.integer 1, .string "||"]]⟩,
    ⟨"join", Filter.join, [.string " | "]⟩]

theorem uses_separatorCalls : List.Forall₂ (Uses separatorFilters) separatorCalls separatorUses :=
  .cons ⟨by decide, by decide, by cbv, .cons ⟨by cbv, by decide⟩ (.cons ⟨by cbv, by decide⟩ .nil)⟩
    (.cons ⟨by decide, by decide, by cbv, .cons ⟨by cbv, by decide⟩ .nil⟩ .nil)

theorem parse_exprText_separators :
    parseExpr separatorFilters (exprText separatorText separatorCalls) =
      (applyFilters (String.ofList (trim (exprText separatorText separatorCalls))) separatorUses
        separatorValue).map .literal ∧
    parseExpr separatorFilters (exprText "user.f('::')".toList separatorCalls) = .ok (.reference
      { raw := String.ofList (trim (exprText "user.f('::')".toList separatorCalls))
        path := "user.f"
        arguments := [.string "::"]
        filters := separatorUses }) ∧
    parsePrint separatorFilters separatorText = .ok (.chain [.literal separatorValue]) := by
  obtain ⟨literal, path, alone⟩ := parse_exprText uses_separatorCalls
  have head := path ⟨true, "user.f".toList, ["'::'".toList]⟩ [.string "::"] (by decide) (by decide)
    (.cons ⟨by cbv, by decide⟩ .nil)
  exact ⟨literal _ _ (by cbv), head, alone _ _ (by cbv)⟩

end TextTemplate
