import TextTemplate.Proofs.Expression.Accepted

/-!
# The two forms of a call

A call is written `name(a, b)` or `name:a:b`. Behind any path the form with colons is read as the path
with its arguments. The form with brackets is read as the same, but only behind names of ASCII characters:
it is refused behind all other paths, such as those with letters beyond ASCII and those that start with a
position in a list (`parse_call_forms`).
-/

namespace TextTemplate

open TextTemplate.Text Masked Literal

/-! ## Paths as names -/

/-- The tables of the characters of identifiers. -/
def identTables : List (List (Nat × Nat)) :=
  [letterRanges, alphabeticMarkRanges, enclosedLetterRanges, nonspacingMarkRanges, spacingMarkRanges,
    digitRanges, connectorRanges, extraStartRanges, extraContinueRanges]

theorem not_isIdentChar_of_isBlank {c : Char} (h : isBlank c = true) : isIdentChar c = false := by
  have apart : isBlankless identTables = true := by decide +kernel
  have tables := not_covers_of_isBlankless apart h
  simp only [identTables, List.forall_mem_cons] at tables
  have ascii := not_isAlphanum_of_isBlank h
  have others : c ≠ '_' ∧ c ≠ '\u200c' ∧ c ≠ '\u200d' := by
    refine ⟨?_, ?_, ?_⟩ <;>
      · rintro rfl
        cases h
  simp [isIdentChar, isIdentStart, isIdentContinue, Char.isAlphanum, Text.isNamePart, isAlphabetic, isMark,
    tables, ascii, others]

theorem nameText_of_path {path : List Char} (h : isPath path = true) : NameText path where
  nonempty := by
    rintro rfl
    cases h
  ordinary c hc := isOrdinary_iff.mpr (plain_of_path h c hc).1
  filled c hc := by
    rcases identChar_of_path h c hc with rfl | part
    · rfl
    · by_contra blank
      rw [not_isIdentChar_of_isBlank (by simpa using blank)] at part
      cases part
  inner c hc separator := by
    have others : [',', ':', '|'].all (fun d => !(d = '.' || isIdentChar d)) = true := by decide
    have other := List.all_eq_true.mp others c separator
    rcases identChar_of_path h c hc with rfl | part
    · cases other
    · rw [part, Bool.or_true] at other
      cases other

/-- Brackets do not stand in a path. -/
theorem not_isPath_brackets (name inside : List Char) : isPath (name ++ '(' :: inside) = false := by
  by_contra path
  have plain := plain_of_path (by simpa using path) '(' (by simp)
  exact plain.1 (by decide)

/-! ## Calls of paths -/

/-- What the call of a path with these arguments is read as. -/
def CallText.reference (call : CallText) (values : List Value) : Expr :=
  .reference
    { raw := String.ofList (trim call.print)
      path := String.ofList call.name
      arguments := values
      filters := [] }

/-- Behind a name that brackets may not follow, the brackets are a part of the name. -/
theorem callParts_uncalled {call : CallText} {values : List Value} (name : NameText call.name)
    (bracketed : call.bracketed = true) (uncalled : ¬ CallName call.name)
    (h : List.Forall₂ Argument call.arguments values) : callParts call.print = (call.print, []) := by
  have text := CallText.print_brackets bracketed
  have noCall : bracketCall? call.print = none := by
    rw [text]
    refine bracketCall?_eq_none name ?_ fun called => uncalled called.1
    rintro c ⟨⟩
    decide
  have noColon : Apart ':' call.print := by
    have bracket : Unbroken ('(' :: (joinChars [',', ' '] call.arguments ++ [')'])) :=
      .bracket (by decide) (by decide) (closed_joinChars h)
    rw [text]
    exact (name.apart (name.not_mem (by decide))).append (bracket.apart (by decide))
  have whole : split colon call.print = [call.print] := by
    rw [colon, split_of_free (noColon.2.free []), trim_print name bracketed]
  rw [callParts, noCall]
  dsimp only
  rw [whole]

section

variable {filters : NameMap Filter} {call : CallText} {values : List Value}
  (hpath : isPath call.name = true) (other : parseChars call.name = none)
  (h : List.Forall₂ Argument call.arguments values)
include hpath other h

/-- The call of a path is read as such, with brackets if they may follow the path. -/
theorem parseExpr_reference (called : call.bracketed = true → CallName call.name) :
    parseExpr filters call.print = .ok (call.reference values) := by
  have nothing : List.Forall₂ (Uses filters) [] [] := .nil
  have alone := parseExpr_call nothing (nameText_of_path hpath) called hpath other h
  rwa [exprText, List.flatMap_nil, List.append_nil] at alone

/-- Brackets that are a part of the name are refused with it. -/
theorem parseExpr_refused (bracketed : call.bracketed = true) (uncalled : ¬ CallName call.name) :
    parseExpr filters call.print = .error (.invalidExpression (String.ofList call.print)) := by
  have name := nameText_of_path hpath
  have whole := trim_print name bracketed
  have noFilters : split pipe call.print = [call.print] := by
    rw [pipe, split_of_free ((apart_print name h).2.free []), whole]
  have noLiteral := parseChars_print name other
  rw [whole] at noLiteral
  have noPath : isPath call.print = false := by
    rw [CallText.print_brackets bracketed]
    exact not_isPath_brackets call.name _
  rw [parseExpr, whole, noFilters]
  dsimp only [List.mapM_nil, pure, Except.pure, bind, Except.bind]
  rw [noLiteral]
  dsimp only
  rw [parseCall, whole, callParts_uncalled name bracketed uncalled h]
  dsimp only [parseArguments, List.mapM_nil, pure, Except.pure, Except.map]
  rw [noPath]
  rfl

end

/-- The call of a path with colons is read as the path with the arguments. With brackets it is read as the
same path with the same arguments, if the path starts with a letter of ASCII or an underscore and has ASCII
characters only, and it is refused for every other path. -/
theorem parse_call_forms {filters : NameMap Filter} {path : List Char} {arguments : List (List Char)}
    {values : List Value} (hpath : isPath path = true) (other : parseChars path = none)
    (h : List.Forall₂ Argument arguments values) :
    parseExpr filters (CallText.mk false path arguments).print =
      .ok ((CallText.mk false path arguments).reference values) ∧
    (CallName path → parseExpr filters (CallText.mk true path arguments).print =
      .ok ((CallText.mk true path arguments).reference values)) ∧
    (¬ CallName path → parseExpr filters (CallText.mk true path arguments).print =
      .error (.invalidExpression (String.ofList (CallText.mk true path arguments).print))) := by
  refine ⟨?_, fun called => ?_, fun uncalled => ?_⟩
  · exact parseExpr_reference hpath other h nofun
  · exact parseExpr_reference hpath other h fun _ => called
  · exact parseExpr_refused hpath other h rfl uncalled

/-- A word with letters beyond ASCII, and arguments with the separators in them. -/
theorem parse_call_forms_umlaut :
    parseExpr separatorFilters "größe:'a, b':[1, '::']".toList =
      .ok ((CallText.mk false "größe".toList ["'a, b'".toList, "[1, '::']".toList]).reference
        [.string "a, b", .list [.integer 1, .string "::"]]) ∧
    parseExpr separatorFilters "größe('a, b', [1, '::'])".toList =
      .error (.invalidExpression "größe('a, b', [1, '::'])") := by
  have path : isPath "größe".toList = true := by decide
  have other : parseChars "größe".toList = none := by decide
  have arguments : List.Forall₂ Argument ["'a, b'".toList, "[1, '::']".toList]
      [.string "a, b", .list [.integer 1, .string "::"]] :=
    .cons ⟨by cbv, by decide⟩ (.cons ⟨by cbv, by decide⟩ .nil)
  have uncalled : ¬ CallName "größe".toList := by
    intro called
    have part := called.parts 'ö' (by decide)
    revert part
    decide
  obtain ⟨colons, -, brackets⟩ := parse_call_forms path other arguments
  exact ⟨colons, brackets uncalled⟩

end TextTemplate
