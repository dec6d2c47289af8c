import TextTemplate.Proofs.Expression.Comparing

/-!
# Reading by slices

Expressions are read by slicing their texts at the offsets of what patterns find in the masked texts. A
slice that does not hold would stop everything, an error only the reading of this tag; so a reader by slices
gives nothing, an error or a result. It always gives what the reader of glyphs gives, as each of its parts
does (`bind_eq_holding`).
-/

namespace TextTemplate

open TextTemplate.Text Masked Pattern

/-! ## Separators -/

def pipePattern : Pattern := wordsPattern [['|']]

def commaPattern : Pattern := wordsPattern [[',']]

def colonPattern : Pattern := wordsPattern [[':']]

def choicePattern : Pattern := wordsPattern [['?', '?'], [':', ':']]

def orPattern : Pattern := wordOrSignPattern ['o', 'r'] ['|', '|']

def andPattern : Pattern := wordOrSignPattern ['a', 'n', 'd'] ['&', '&']

/-- The patterns at which texts are split, with their separators. -/
def separatorPatterns : List (Pattern × Separator) := [
  (pipePattern, pipe), (commaPattern, comma), (colonPattern, colon), (choicePattern, choiceMark),
  (orPattern, orWord), (andPattern, andWord)]

theorem marks_pipe : Marks pipePattern pipe := marks_words (by decide)

theorem marks_comma : Marks commaPattern comma := marks_words (by decide)

theorem marks_colon : Marks colonPattern colon := marks_words (by decide)

theorem marks_choice : Marks choicePattern choiceMark := marks_words (by decide)

theorem marks_or : Marks orPattern orWord :=
  marks_wordOrSign (by decide) (by decide) (by simp [isBlank, covers, blankRanges]) (by decide)
    (by decide)

theorem marks_and : Marks andPattern andWord :=
  marks_wordOrSign (by decide) (by decide) (by simp [isBlank, covers, blankRanges]) (by decide)
    (by decide)

theorem marks_separators : ∀ x ∈ separatorPatterns, Marks x.1 x.2 := by
  simp only [separatorPatterns, List.forall_mem_cons, List.not_mem_nil, false_implies, implies_true,
    and_true]
  exact ⟨marks_pipe, marks_comma, marks_colon, marks_choice, marks_or, marks_and⟩

/-! ## Readers by slices -/

/-- What reading by slices comes to: nothing if a slice does not hold, else an error or a result. -/
abbrev Sliced := ExceptT Cause Option

/-- A step of the reading that slices nothing. -/
def holding {α : Type} (x : Except Cause α) : Sliced α := ExceptT.mk (some x)

def callPartsSliced (cs : List Char) : Sliced (List Char × List (List Char)) :=
  match bracketCall? cs with
  | some (name, inside) => do
    let texts ← splitSliced? commaPattern inside
    return (name, texts.filter (!·.isEmpty))
  | none => do
    match ← splitSliced? colonPattern cs with
    | [] => return ([], [])
    | name :: arguments => return (name, arguments)

def parseCallSliced (raw text : List Char) : Sliced (List Char × List Value) := do
  let (name, texts) ← callPartsSliced (trim text)
  let arguments ← holding (parseArguments raw texts)
  return (name, arguments)

def parseFilterSliced (filters : NameMap Filter) (raw text : List Char) : Sliced FilterCall := do
  let (name, arguments) ← parseCallSliced raw text
  let name := String.ofList name
  match filters.find? name with
  | some filter => return { name, filter, arguments }
  | none => throw (.unknownFilter name)

def parseExprSliced (filters : NameMap Filter) (text : List Char) : Sliced Expr := do
  let raw := trim text
  let (head, rest) := match ← splitSliced? pipePattern raw with
    | [] => ([], [])
    | head :: rest => (head, rest)
  let calls ← rest.mapM (parseFilterSliced filters raw)
  match Literal.parseChars head with
  | some value => return .literal (← holding (applyFilters (String.ofList raw) calls value))
  | none =>
    let (path, arguments) ← parseCallSliced raw head
    if isPath path then
      return .reference
        { raw := String.ofList raw, path := String.ofList path, arguments, filters := calls }
    else throw (.invalidExpression (String.ofList raw))

/-- The operator is read off what is shown of it. -/
def operatorFound? (masked : List Char) (found : Captures) : Option Operator :=
  (groupText? masked found 3).bind operatorNamed?

def parseConditionSliced (filters : NameMap Filter) (text : List Char) : Sliced Condition := do
  let raw := trim text
  let masked := shown (mask raw)
  match comparisonPattern.captures? masked with
  | some found =>
    let op ← operatorFound? masked found
    let left ← parseExprSliced filters (← groupText? raw found 2)
    let right ← parseExprSliced filters (← groupText? raw found 4)
    return { negated := (found.group? 1).isSome, left, right := some (op, right) }
  | none =>
    match negationPattern.captures? masked with
    | some found =>
      let left ← parseExprSliced filters (← groupText? raw found 1)
      return { negated := true, left, right := none }
    | none =>
      let left ← parseExprSliced filters raw
      return { negated := false, left, right := none }

def parseTestSliced (filters : NameMap Filter) (text : List Char) : Sliced Test := do
  let groups ← (← splitSliced? orPattern text).mapM fun group => do
    (← splitSliced? andPattern group).mapM (parseConditionSliced filters)
  return ⟨groups⟩

def parsePrintSliced (filters : NameMap Filter) (text : List Char) : Sliced PrintBody := do
  match ← splitKeepSliced? choicePattern text with
  | [test, ['?', '?'], yes, [':', ':'], no] =>
    let test ← parseTestSliced filters test
    let yes ← parseExprSliced filters yes
    let no ← parseExprSliced filters no
    return .choice test yes no
  | _ =>
    let options ← (← splitSliced? orPattern text).mapM (parseExprSliced filters)
    return .chain options

/-! ## All slices hold -/

section

variable {α β : Type}

theorem slice_bind (a : α) (f : α → Sliced β) : ((liftM (some a) : Sliced α) >>= f) = f a := rfl

/-- Two readings one after the other hold if each of them does. -/
theorem bind_eq_holding {x : Sliced α} {y : Except Cause α} {f : α → Sliced β}
    {g : α → Except Cause β} (first : x = holding y) (second : ∀ a, f a = holding (g a)) :
    (x >>= f) = holding (y >>= g) := by
  subst first
  cases y with
  | error e => rfl
  | ok a => exact second a

theorem map_eq_holding {x : Sliced α} {y : Except Cause α} {f : α → β} (first : x = holding y) :
    (x >>= fun a => pure (f a)) = holding (y.map f) := by
  subst first
  cases y with
  | error e => rfl
  | ok a => rfl

theorem mapM_eq_holding {f : α → Sliced β} {g : α → Except Cause β} (each : ∀ a, f a = holding (g a))
    (as : List α) : as.mapM f = holding (as.mapM g) := by
  induction as with
  | nil => rfl
  | cons a as ih =>
      rw [List.mapM_cons, List.mapM_cons]
      exact bind_eq_holding (each a) fun b => bind_eq_holding ih fun bs => rfl

end

theorem callPartsSliced_eq (cs : List Char) : callPartsSliced cs = holding (.ok (callParts cs)) := by
  rw [callPartsSliced, callParts]
  cases bracketCall? cs with
  | some call =>
      obtain ⟨name, inside⟩ := call
      dsimp only
      rw [marks_comma.splitSliced?]
      rfl
  | none =>
      dsimp only
      rw [marks_colon.splitSliced?]
      cases split colon cs with
      | nil => rfl
      | cons name arguments => rfl

theorem parseCallSliced_eq (raw text : List Char) :
    parseCallSliced raw text = holding (parseCall raw text) := by
  rw [parseCallSliced, parseCall, callPartsSliced_eq]
  exact map_eq_holding rfl

variable (filters : NameMap Filter)

theorem parseFilterSliced_eq (raw text : List Char) :
    parseFilterSliced filters raw text = holding (parseFilter filters raw text) := by
  rw [parseFilterSliced, parseFilter]
  refine bind_eq_holding (parseCallSliced_eq raw text) fun ⟨name, arguments⟩ => ?_
  dsimp only
  cases filters.find? (String.ofList name) with
  | none => rfl
  | some filter => rfl

theorem parseExprSliced_eq (text : List Char) :
    parseExprSliced filters text = holding (parseExpr filters text) := by
  obtain ⟨head, rest, parts⟩ : ∃ head rest, split pipe (trim text) = head :: rest := ⟨_, _, rfl⟩
  rw [parseExprSliced, parseExpr, marks_pipe.splitSliced?, parts, slice_bind]
  refine bind_eq_holding (mapM_eq_holding (parseFilterSliced_eq filters (trim text)) rest)
    fun calls => ?_
  cases Literal.parseChars head with
  | some value => exact map_eq_holding rfl
  | none =>
      refine bind_eq_holding (parseCallSliced_eq (trim text) head) fun ⟨path, arguments⟩ => ?_
      dsimp only
      by_cases valid : isPath path = true
      · rw [if_pos valid, if_pos valid]
        rfl
      · rw [if_neg valid, if_neg valid]
        rfl

theorem look_mask_endsFilled (text : List Char) : EndsFilled (look (mask (trim text))) :=
  endsFilled_look (endsFilled_trim text)

theorem parseConditionSliced_eq (text : List Char) :
    parseConditionSliced filters text = holding (parseCondition filters text) := by
  have compared := comparison_sliced (look_mask_endsFilled text)
  have negated := negation_sliced (look_mask_endsFilled text)
  rw [parseConditionSliced, parseCondition]
  generalize comparison? (mask (trim text)) = comparison at compared ⊢
  generalize comparisonPattern.captures? (shown (mask (trim text))) = found at compared ⊢
  cases compared with
  | @some found c sliced =>
      have left := sliced.left
      have right := sliced.right
      rw [chars_mask] at left right
      dsimp only
      rw [operatorFound?, sliced.operator, slice_bind, left, slice_bind, sliced.negated]
      refine bind_eq_holding (parseExprSliced_eq filters c.left) fun a => ?_
      rw [right, slice_bind]
      exact bind_eq_holding (parseExprSliced_eq filters c.right) fun b => rfl
  | none =>
      dsimp only
      generalize negation? (mask (trim text)) = negation at negated ⊢
      generalize negationPattern.captures? (shown (mask (trim text))) = found at negated ⊢
      cases negated with
      | @some found rest sliced =>
          have text := sliced.negated
          rw [chars_mask] at text
          dsimp only
          rw [text, slice_bind]
          exact bind_eq_holding (parseExprSliced_eq filters rest) fun a => rfl
      | none => exact bind_eq_holding (parseExprSliced_eq filters (trim text)) fun a => rfl

theorem parseTestSliced_eq (text : List Char) :
    parseTestSliced filters text = holding (parseTest filters text) := by
  have group : ∀ cs, (do (← splitSliced? andPattern cs).mapM (parseConditionSliced filters) :
      Sliced (List Condition)) = holding ((split andWord cs).mapM (parseCondition filters)) := by
    intro cs
    rw [marks_and.splitSliced?, slice_bind]
    exact mapM_eq_holding (parseConditionSliced_eq filters) _
  rw [parseTestSliced, parseTest, marks_or.splitSliced?, slice_bind]
  exact bind_eq_holding (mapM_eq_holding group _) fun groups => rfl

theorem parsePrintSliced_eq (text : List Char) :
    parsePrintSliced filters text = holding (parsePrint filters text) := by
  by_cases choice : ∃ test yes no,
      splitKeep choiceMark text = [test, ['?', '?'], yes, [':', ':'], no]
  · obtain ⟨test, yes, no, parts⟩ := choice
    rw [parsePrintSliced, parsePrint, marks_choice.splitKeepSliced?, slice_bind, parts]
    refine bind_eq_holding (parseTestSliced_eq filters test) fun test => ?_
    refine bind_eq_holding (parseExprSliced_eq filters yes) fun yes => ?_
    exact bind_eq_holding (parseExprSliced_eq filters no) fun no => rfl
  · have sliced : parsePrintSliced filters text = (do
        let options ← (← splitSliced? orPattern text).mapM (parseExprSliced filters)
        return .chain options) := by
      rw [parsePrintSliced, marks_choice.splitKeepSliced?, slice_bind]
      split
      · next parts => exact absurd ⟨_, _, _, parts⟩ choice
      · rfl
    have plain : parsePrint filters text = (do
        .ok (.chain (← (split orWord text).mapM (parseExpr filters)))) := by
      rw [parsePrint]
      split
      · next parts => exact absurd ⟨_, _, _, parts⟩ choice
      · rfl
    rw [sliced, plain, marks_or.splitSliced?, slice_bind]
    exact bind_eq_holding (mapM_eq_holding (parseExprSliced_eq filters) _) fun options => rfl

end TextTemplate
