import TextTemplate.Proofs.Expression.SlicedReading
import TextTemplate.Template.Tag

/-!
# Tags by slices

The readers of all kinds of tags, with every text that they slice sliced at byte offsets. Whatever a token
holds, all slices hold, and it is read as the readers of glyphs read it (`readingSliced_eq`).
-/

namespace TextTemplate

open TextTemplate.Text Masked Pattern

namespace Token

variable (filters : NameMap Filter) (t : Token)

def namedTemplateSliced (allowVariable : Bool) : Sliced Reading := do
  match ← parseExprSliced filters (← holding (argument t)) with
  | .literal value =>
    match templateNames? value with
    | some names => return .splice names
    | none => throw (malformed t)
  | .reference target =>
    if allowVariable then return .action (.add (.includeBy (.reference target)))
    else throw (malformed t)

def loopTagSliced : Sliced Reading := do
  match loopParts? t.content with
  | none => throw (malformed t)
  | some (names, items) =>
    let items ← parseExprSliced filters items
    return .action (.enter (.loop (names.map String.ofList) items (String.ofList t.content)))

def bindingTagSliced : Sliced Reading := do
  match bindingParts? (← holding (argument t)) with
  | none => throw (malformed t)
  | some (name, value) =>
    return .action (.enter (.bind (String.ofList name) (← parseExprSliced filters value)))

/-- Reads a tag that is not an end tag. -/
def openingSliced : TagName → Sliced Reading
  | .loop => t.loopTagSliced filters
  | .fallback => return .action (.add .emptyMark)
  | .branch => do
    return .action (.enter (.branch (← parseTestSliced filters (← holding (argument t)))))
  | .otherBranch => do
    return .action (.add (.elifMark (← parseTestSliced filters (← holding (argument t)))))
  | .lastBranch => return .action (.add .elseMark)
  | .cycle => do return .cycle (← parseExprSliced filters (← holding (argument t)))
  | .inclusion => t.namedTemplateSliced filters true
  | .extension => t.namedTemplateSliced filters false
  | .block => do return .block (String.ofList (← holding (argument t)))
  | .spaceless => return .action (.enter .spaceless)
  | .trim => return .action (.enter .trim)
  | .binding => t.bindingTagSliced filters

/-- Reads a token. -/
def readingSliced : Sliced Reading :=
  match t.kind with
  | .text => return .action (.add (.text (String.ofList t.content)))
  | .print escape => do return .action (.add (.print escape (← parsePrintSliced filters t.content)))
  | .statement =>
    let word := String.ofList t.word
    match TagName.ofWord? word with
    | some name => t.openingSliced filters name
    | none =>
      if endTags.contains word then return .action (.leave word)
      else throw (.unknownTag word)

theorem namedTemplateSliced_eq (allowVariable : Bool) :
    t.namedTemplateSliced filters allowVariable = holding (t.namedTemplate filters allowVariable) := by
  rw [namedTemplateSliced, namedTemplate]
  refine bind_eq_holding rfl fun cs => bind_eq_holding (parseExprSliced_eq filters cs) fun e => ?_
  cases e with
  | literal value =>
      dsimp only
      cases templateNames? value with
      | some names => rfl
      | none => rfl
  | reference target =>
      cases allowVariable with
      | true => rfl
      | false => rfl

theorem loopTagSliced_eq : t.loopTagSliced filters = holding (t.loopTag filters) := by
  rw [loopTagSliced, loopTag]
  cases loopParts? t.content with
  | none => rfl
  | some parts =>
      exact bind_eq_holding (parseExprSliced_eq filters parts.2) fun items => rfl

theorem bindingTagSliced_eq : t.bindingTagSliced filters = holding (t.bindingTag filters) := by
  rw [bindingTagSliced, bindingTag]
  refine bind_eq_holding rfl fun cs => ?_
  cases bindingParts? cs with
  | none => rfl
  | some parts => exact bind_eq_holding (parseExprSliced_eq filters parts.2) fun value => rfl

theorem openingSliced_eq (name : TagName) :
    t.openingSliced filters name = holding (t.opening filters name) := by
  cases name with
  | fallback | lastBranch | spaceless | trim => rfl
  | loop => exact t.loopTagSliced_eq filters
  | branch | otherBranch =>
      exact bind_eq_holding rfl fun cs => bind_eq_holding (parseTestSliced_eq filters cs) fun test => rfl
  | cycle =>
      exact bind_eq_holding rfl fun cs => bind_eq_holding (parseExprSliced_eq filters cs) fun items => rfl
  | inclusion => exact t.namedTemplateSliced_eq filters true
  | extension => exact t.namedTemplateSliced_eq filters false
  | block => exact bind_eq_holding rfl fun title => rfl
  | binding => exact t.bindingTagSliced_eq filters

/-- All slices hold while a token is read. -/
theorem readingSliced_eq : t.readingSliced filters = holding (t.reading filters) := by
  rw [readingSliced, reading]
  cases t.kind with
  | text => rfl
  | print escape => exact bind_eq_holding (parsePrintSliced_eq filters t.content) fun body => rfl
  | statement =>
      dsimp only
      cases TagName.ofWord? (String.ofList t.word) with
      | some name => exact t.openingSliced_eq filters name
      | none =>
          dsimp only
          by_cases known : endTags.contains (String.ofList t.word) = true
          · rw [if_pos known, if_pos known]
            rfl
          · rw [if_neg known, if_neg known]
            rfl

end Token

/-- A character stands at the same offsets in the text and in what is shown of it, there as underscores if
it is hidden. -/
theorem slice?_glyph {cs : List Char} {front behind : Masked} {g : Glyph}
    (whole : mask cs = front ++ g :: behind) :
    slice? cs (size front) (size front + g.char.utf8Size) = some [g.char] ∧
      slice? (shown (mask cs)) (size front) (size front + g.char.utf8Size) =
        some (if g.hidden then List.replicate g.char.utf8Size '_' else [g.char]) := by
  have stop : (spanOf front [g]).stop = size front + g.char.utf8Size := size_append front [g]
  have own := slice?_chars front [g] behind
  have seen := slice?_shown front [g] behind
  have chars_eq := chars_mask cs
  rw [stop] at own seen
  rw [whole] at chars_eq ⊢
  rw [List.singleton_append] at own seen
  constructor
  · rw [← chars_eq]
    exact own
  · rw [shown_cons, shownOf] at seen
    exact seen.trans (congrArg some (List.append_nil _))

/-- For every text, with whatever quotes, brackets and characters: masking keeps the number of bytes, and
every character stands at the same offsets in both, there as underscores if it is hidden. The offsets at
which the separators are found in what is shown are boundaries of the text and in order, and so are those
of the groups of conditions; slicing the text there gives what splitting it gives. The slices at the
separators, the separators and the slices between them, make up the text. So no slice fails in the reading
of an expression or of a whole tag, which comes to what the reader of glyphs comes to. -/
theorem offsets_hold (filters : NameMap Filter) (cs : List Char) :
    byteLength (shown (mask cs)) = byteLength cs ∧
    (∀ front g behind, mask cs = front ++ g :: behind →
      slice? cs (size front) (size front + g.char.utf8Size) = some [g.char] ∧
      slice? (shown (mask cs)) (size front) (size front + g.char.utf8Size) =
        some (if g.hidden then List.replicate g.char.utf8Size '_' else [g.char])) ∧
    (∀ x ∈ separatorPatterns,
      InOrder cs ((x.1.findAll (shown (mask cs))).flatMap Span.offsets) ∧
      splitSliced? x.1 cs = some (split x.2 cs) ∧
      splitKeepSliced? x.1 cs = some (splitKeep x.2 cs) ∧
      ∃ first others, pieces? cs 0 (x.1.findAll (shown (mask cs))) = some (first, others) ∧
        cs = first ++ others.flatMap (fun y => y.1 ++ y.2) ∧
        splitKeep x.2 cs = trim first :: others.flatMap fun y => [y.1, trim y.2]) ∧
    (∀ p ∈ [comparisonPattern, negationPattern], ∀ found,
      p.captures? (shown (mask (trim cs))) = some found → InOrder (trim cs) found.offsets) ∧
    (parsePrintSliced filters cs).run = some (parsePrint filters cs) ∧
    (parseTestSliced filters cs).run = some (parseTest filters cs) ∧
    (parseExprSliced filters cs).run = some (parseExpr filters cs) ∧
    ∀ t : Token, (t.readingSliced filters).run = some (t.reading filters) := by
  refine ⟨?length, fun front g behind => slice?_glyph, fun x hx => ?separators, ?conditions,
    parsePrintSliced_eq filters cs, parseTestSliced_eq filters cs, parseExprSliced_eq filters cs,
    fun t => t.readingSliced_eq filters⟩
  case length => rw [byteLength_shown, size_mask]
  case separators =>
    have marks := marks_separators x hx
    obtain ⟨inOrder, first, others, pieces, whole, -, kept⟩ := marks.slices cs
    exact ⟨inOrder, marks.splitSliced? cs, marks.splitKeepSliced? cs, first, others, pieces, whole, kept⟩
  case conditions =>
    have compared := comparison_sliced (look_mask_endsFilled cs)
    have negated := negation_sliced (look_mask_endsFilled cs)
    rw [List.forall_mem_cons, List.forall_mem_singleton]
    constructor
    · intro found captured
      obtain ⟨c, sliced⟩ := exists_related compared captured
      have inOrder := sliced.inOrder
      rwa [chars_mask] at inOrder
    · intro found captured
      obtain ⟨rest, sliced⟩ := exists_related negated captured
      have inOrder := sliced.inOrder
      rwa [chars_mask] at inOrder

/-- A string with a hidden character of two bytes and a hidden separator, and a bracket that is not
closed. -/
theorem offsets_hold_unbalanced :
    let cs := ['n', 'o', 't', ' ', '\'', 'é', '|', '\'', ' ', 'i', 'n', ' ', '[', 'ß']
    ∃ front behind found, mask cs = front ++ ⟨'é', true⟩ :: behind ∧
      slice? cs 5 7 = some ['é'] ∧ slice? (shown (mask cs)) 5 7 = some ['_', '_'] ∧
      (pipePattern, pipe) ∈ separatorPatterns ∧ splitSliced? pipePattern cs = some [cs] ∧
      comparisonPattern.captures? (shown (mask (trim cs))) = some found ∧
      found = ⟨⟨0, 16⟩, [(1, ⟨0, 4⟩), (2, ⟨4, 9⟩), (3, ⟨10, 12⟩), (4, ⟨13, 16⟩)]⟩ ∧
      InOrder (trim cs) found.offsets := by
  intro cs
  obtain ⟨-, same, separators, conditions, -⟩ := offsets_hold [] cs
  have hidden : mask cs = mask ['n', 'o', 't', ' ', '\''] ++ ⟨'é', true⟩ ::
      [⟨'|', true⟩, ⟨'\'', false⟩, ⟨' ', false⟩, ⟨'i', false⟩, ⟨'n', false⟩, ⟨' ', false⟩,
        ⟨'[', false⟩, ⟨'ß', true⟩] := by
    decide
  have captured : comparisonPattern.captures? (shown (mask (trim cs))) =
      some ⟨⟨0, 16⟩, [(1, ⟨0, 4⟩), (2, ⟨4, 9⟩), (3, ⟨10, 12⟩), (4, ⟨13, 16⟩)]⟩ := by
    decide
  have pipes : (pipePattern, pipe) ∈ separatorPatterns := List.mem_cons_self
  have one : split pipe cs = [cs] := by decide
  obtain ⟨own, seen⟩ := same _ _ _ hidden
  exact ⟨_, _, _, hidden, own, seen, pipes, one ▸ (separators _ pipes).2.1, captured, rfl,
    conditions _ List.mem_cons_self _ captured⟩

end TextTemplate
