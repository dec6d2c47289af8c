import TextTemplate.Proofs.Expression.Accepted
import TextTemplate.Proofs.Expression.Joining

/-!
# Printed conditions

Conditions as they are written with single spaces, and that reading them gives them back: the operator
that is found is the one between the operands, and a leading `not` belongs to the condition.
-/

namespace TextTemplate

open TextTemplate.Text Masked

/-! ## The written form -/

def Operator.text : Operator → List Char
  | .eq => ['=', '=']
  | .ne => ['!', '=']
  | .lt => ['<']
  | .gt => ['>']
  | .le => ['<', '=']
  | .ge => ['>', '=']
  | .member => ['i', 'n']
  | .notMember => ['n', 'o', 't', ' ', 'i', 'n']

/-- A condition with the texts of its operands. -/
structure ConditionText where
  negated : Bool
  left : List Char
  right : Option (Operator × List Char)

def ConditionText.print (c : ConditionText) : List Char :=
  let comparison := match c.right with
    | none => c.left
    | some (op, right) => c.left ++ ' ' :: (op.text ++ ' ' :: right)
  if c.negated then 'n' :: 'o' :: 't' :: ' ' :: comparison else comparison

/-- The words with a meaning between operands. -/
def keywords : List (List Char) := [['a', 'n', 'd'], ['o', 'r'], ['i', 'n'], ['n', 'o', 't']]

/-- A text that is read as an expression, with no blanks around it, in which neither a keyword nor `||`
is shown. -/
structure Operand (filters : NameMap Filter) (text : List Char) (e : Expr) : Prop where
  reads : parseExpr filters text = .ok e
  trimmed : trim text = text
  noKeyword : ∀ word ∈ keywords, word ∉ words (look (mask text))
  noSign : ¬ ['|', '|'] <:+: look (mask text)

/-- What the texts of a condition are read as. -/
inductive ConditionText.Means (filters : NameMap Filter) : ConditionText → Condition → Prop
  | alone (negated : Bool) {left : List Char} {a : Expr} (h : Operand filters left a) :
      Means filters ⟨negated, left, none⟩ ⟨negated, a, none⟩
  | compared (negated : Bool) (op : Operator) {left right : List Char} {a b : Expr}
      (hleft : Operand filters left a) (hright : Operand filters right b) :
      Means filters ⟨negated, left, some (op, right)⟩ ⟨negated, a, some (op, b)⟩

/-! ## Operands -/

section

variable {filters : NameMap Filter} {text : List Char} {e : Expr}

theorem parseExpr_nil (filters : NameMap Filter) :
    parseExpr filters [] = .error (.invalidExpression "") := by
  cbv

namespace Operand

theorem nonempty (h : Operand filters text e) : text ≠ [] := by
  rintro rfl
  have reads := h.reads
  rw [parseExpr_nil] at reads
  cases reads

theorem starts (h : Operand filters text e) : StartsFilled text := by
  rw [← h.trimmed]
  exact startsFilled_trim text

theorem ends (h : Operand filters text e) : EndsFilled text := by
  rw [← h.trimmed]
  exact endsFilled_trim text

variable (idents : IdentNames filters)
include idents

theorem sealed {word sign : List Char} (h : Operand filters text e) (hword : word ∈ keywords)
    (hsign : sign = ['|', '|'] ∨ '&' ∈ sign) : Sealed word sign text where
  outside := (signless_of_parseExpr idents h.reads).closed.endsOutside
  nonempty := h.nonempty
  starts := h.starts
  ends := h.ends
  word := h.noKeyword word hword
  sign := by
    rcases hsign with rfl | found
    · exact h.noSign
    · intro shown
      obtain ⟨g, hg, same⟩ := List.mem_map.mp (shown.subset found)
      exact (signless_of_parseExpr idents h.reads).signs g hg (by rw [same]; decide)

end Operand

end

/-! ## Operators in a text -/

/-- A place where an operator stands behind blanks. -/
def operatorMark : Separator := fun ms => if ((afterBlanks? ms).bind operator?).isSome then 1 else 0

theorem findOperator?_append {ms rest : Masked} (free : Free operatorMark ms rest) (negated : Bool)
    (seen : List Char) :
    findOperator? negated seen (ms ++ rest) =
      findOperator? negated ((chars ms).reverse ++ seen) rest := by
  induction ms generalizing seen with
  | nil => rfl
  | cons g ms ih =>
      have here : (afterBlanks? (g :: (ms ++ rest))).bind operator? = none := by
        have nothing := free [] (g :: ms) rfl (List.cons_ne_nil _ _)
        simpa [operatorMark] using nothing
      have skipped : findOperator? negated seen (g :: (ms ++ rest)) =
          findOperator? negated (g.char :: seen) (ms ++ rest) := by
        rw [findOperator?, here, ite_self]
      rw [List.cons_append, skipped, ih free.tail]
      simp [chars]

/-- No operator stands where no sign of a comparison is shown and neither `in` nor `not` is a word. -/
theorem operator?_eq_none {front tail rest : Masked} (before : EndsBlank (look front))
    (nonempty : tail ≠ []) (signs : ∀ g ∈ tail, g.shown ∉ comparisonSigns)
    (words : ∀ word ∈ keywords, word ∉ words (look (front ++ tail)))
    (follows : StartsBlank (look rest)) : operator? (tail ++ rest) = none := by
  have absent : ∀ word ∈ keywords, (after? word (tail ++ rest)).bind afterBlanks? = none := by
    have plain : ∀ word ∈ keywords, word ≠ [] ∧ ∀ c ∈ word, isBlank c = false := by
      simp [keywords, isBlank, covers, blankRanges]
    intro word hword
    obtain ⟨some_word, filled⟩ := plain word hword
    exact after?_bind_afterBlanks? some_word filled (words word hword) before follows
  have noSign : ∀ x ∈ signOperators, after? x.1 (tail ++ rest) = none := by
    have signed : ∀ x ∈ signOperators, ∃ c cs, x.1 = c :: cs ∧ c ∈ comparisonSigns := by
      simp [signOperators, comparisonSigns]
    intro x hx
    obtain ⟨c, cs, same, sign⟩ := signed x hx
    rw [same]
    obtain ⟨g, ms, rfl⟩ := List.exists_cons_of_ne_nil nonempty
    refine after?_eq_none cs ?_
    rintro _ ⟨⟩ rfl
    exact signs g List.mem_cons_self sign
  have noNotIn : afterNotIn? (tail ++ rest) = none := by
    have nothing := absent ['n', 'o', 't'] (by simp [keywords])
    rw [afterNotIn?, ← Option.bind_assoc, nothing]
    rfl
  have noIn := absent ['i', 'n'] (by simp [keywords])
  rw [operator?]
  dsimp only
  rw [noNotIn, noIn, List.findSome?_eq_none_iff.mpr]
  · rfl
  · intro x hx
    rw [noSign x hx]
    rfl

/-- No operator stands in an operand. -/
theorem Operand.free {filters : NameMap Filter} (idents : IdentNames filters) {text : List Char}
    {e : Expr} (h : Operand filters text e) {rest : Masked} (follows : StartsBlank (look rest)) :
    Free operatorMark (mask text) rest := by
  intro us vs same nonempty
  have last : EndsFilled (look vs) := endsFilled_look_right (same ▸ endsFilled_look h.ends) nonempty
  have signs := (signless_of_parseExpr idents h.reads).signs
  have words := h.noKeyword
  rw [same] at signs words
  rw [operatorMark, if_neg]
  cases hafter : afterBlanks? (vs ++ rest) with
  | none => exact Bool.false_ne_true
  | some behind =>
      obtain ⟨gap, tail, rfl, hgap, blank, htail, -, rfl⟩ := exists_gap nonempty last hafter
      rw [← List.append_assoc] at words
      have before : EndsBlank (look (us ++ gap)) := by
        rw [look_append]
        exact blank.append (look_ne_nil hgap)
      have tail_signs : ∀ g ∈ tail, g.shown ∉ comparisonSigns := fun g hg =>
        signs g (List.mem_append_right _ (List.mem_append_right _ hg))
      rw [Option.bind_some, operator?_eq_none before htail tail_signs words follows]
      exact Bool.false_ne_true

theorem isOrdinary_operator (op : Operator) : ∀ c ∈ op.text, isOrdinary c = true := by
  cases op <;> simp [Operator.text, isOrdinary_iff, specials]

/-- An operator is the one that is written there, and its operand is what stands behind it. -/
theorem operator?_text (op : Operator) {ms : Masked} (nonempty : ms ≠ [])
    (starts : StartsFilled (look ms)) :
    operator? (mask op.text ++ (mask [' '] ++ ms)) = some (op, ms) := by
  have space : afterBlanks? (⟨' ', false⟩ :: ms) = some ms := afterBlanks?_space starts
  have gap : ∀ ms : Masked, afterBlanks? (⟨' ', false⟩ :: ⟨'i', false⟩ :: ms) =
      some (⟨'i', false⟩ :: ms) :=
    fun ms => afterBlanks?_space (startsFilled_cons.mpr (by decide))
  rw [mask_ordinary (isOrdinary_operator op), show mask [' '] = [⟨' ', false⟩] from rfl]
  cases op <;>
    simp [Operator.text, operator?, signOperators, afterNotIn?, after?, space, gap, nonempty]

theorem startsFilled_operator (op : Operator) : op.text ≠ [] ∧ StartsFilled op.text := by
  cases op <;> simp [Operator.text, isBlank, covers, blankRanges]

/-- Behind an operand the operator is found, with the operand in front of it. -/
theorem findOperator?_operator (negated : Bool) (op : Operator) {left : List Char} (hleft : left ≠ [])
    {ms : Masked} (nonempty : ms ≠ []) (starts : StartsFilled (look ms)) :
    findOperator? negated left.reverse (mask [' '] ++ (mask op.text ++ (mask [' '] ++ ms))) =
      some ⟨negated, left, op, chars ms⟩ := by
  have here : (afterBlanks? (mask [' '] ++ (mask op.text ++ (mask [' '] ++ ms)))).bind operator? =
      some (op, ms) := by
    have filled := startsFilled_mask_append (startsFilled_operator op).1 (startsFilled_operator op).2
    rw [afterBlanks?_space (filled _), Option.bind_some, operator?_text op nonempty starts]
  have some_left : left.reverse.isEmpty = false := by simpa using hleft
  generalize htail : mask op.text ++ (mask [' '] ++ ms) = tail at here
  rw [show mask [' '] ++ tail = ⟨' ', false⟩ :: tail from rfl] at here ⊢
  rw [findOperator?, some_left, if_neg Bool.false_ne_true, here]
  dsimp only
  rw [List.reverse_reverse]

/-! ## Negations -/

theorem blankCount_eq_zero {ms : Masked} (h : startsBlank ms = false) : blankCount ms = 0 := by
  cases ms with
  | nil => rfl
  | cons g ms => simp [blankCount, show isBlank g.shown = false from h]

section

variable {filters : NameMap Filter} (idents : IdentNames filters) {left : List Char} {a : Expr}
  (h : Operand filters left a)
include h

/-- No operand starts with the word `not`. -/
theorem Operand.not_negated {rest : Masked} (follows : StartsBlank (look rest)) :
    (after? ['n', 'o', 't'] (mask left ++ rest)).bind afterBlanks? = none := by
  have absent : ['n', 'o', 't'] ∉ words (look ([] ++ mask left)) :=
    h.noKeyword ['n', 'o', 't'] (by simp [keywords])
  exact after?_bind_afterBlanks? (List.cons_ne_nil _ _) (by simp [isBlank, covers, blankRanges]) absent
    endsBlank_nil follows

include idents

/-- A comparison that starts with an operand is not negated. -/
theorem comparison?_operand {rest : Masked} (follows : StartsBlank (look rest)) :
    comparison? (mask left ++ rest) = findOperator? false left.reverse rest := by
  have negated : ((after? ['n', 'o', 't'] (mask left ++ rest)).bind fun rest =>
      (List.range (blankCount rest)).reverse.findSome? fun n =>
        findOperator? true [] (rest.drop (n + 1))) = none := by
    have nothing := h.not_negated follows
    cases hafter : after? ['n', 'o', 't'] (mask left ++ rest) with
    | none => rfl
    | some behind =>
        rw [hafter, Option.bind_some, afterBlanks?] at nothing
        have stays : startsBlank behind = false := by
          by_contra blank
          rw [if_pos (by simpa using blank)] at nothing
          cases nothing
        rw [Option.bind_some, blankCount_eq_zero stays]
        rfl
  have skipped := findOperator?_append (h.free idents follows) false []
  rw [chars_mask, List.append_nil] at skipped
  rw [comparison?, negated, skipped]
  rfl

/-- In front of an operand no operator is found behind a `not`. -/
theorem findOperator?_not :
    findOperator? false [] (mask ['n', 'o', 't'] ++ (mask [' '] ++ mask left)) = none := by
  have signs := (signless_of_parseExpr idents h.reads).signs
  have word : Free operatorMark (mask ['n', 'o', 't']) ((mask [' '] ++ mask left) ++ []) := by
    have filled : ∀ g ∈ mask ['n', 'o', 't'], isBlank g.shown = false := by decide
    intro us vs same nonempty
    rw [same] at filled
    have starts : StartsFilled (look vs) := by
      intro c hc
      rw [look, List.head?_map] at hc
      obtain ⟨g, hg, rfl⟩ := Option.map_eq_some_iff.mp hc
      exact filled g (List.mem_append_right _ (List.mem_of_mem_head? hg))
    rw [operatorMark, afterBlanks?_eq_none (startsFilled_look_append nonempty starts)]
    rfl
  have space : Free operatorMark (mask [' ']) (mask left ++ []) := by
    intro us vs same nonempty
    obtain ⟨rfl, rfl⟩ : us = [] ∧ vs = mask [' '] := by
      rcases List.singleton_eq_append_iff.mp same with h | ⟨-, h⟩
      · exact h
      · exact absurd h nonempty
    have starts := startsFilled_mask_append h.nonempty h.starts []
    have nothing : operator? (mask left ++ []) = none :=
      operator?_eq_none (show EndsBlank (look []) from endsBlank_nil) (mask_ne_nil h.nonempty) signs
        h.noKeyword startsBlank_nil
    rw [operatorMark, afterBlanks?_space starts, Option.bind_some, nothing]
    rfl
  have free := word.append (space.append (h.free idents startsBlank_nil))
  have skipped := findOperator?_append free false []
  rwa [List.append_nil] at skipped

end

theorem mask_not (cs : List Char) :
    mask ('n' :: 'o' :: 't' :: ' ' :: cs) = mask ['n', 'o', 't'] ++ (mask [' '] ++ mask cs) := by
  have outside : EndsOutside ['n', 'o', 't'] := rfl
  rw [← mask_space_append, ← outside.mask_append]
  rfl

/-- Behind a leading `not` a condition is read as without it, if there is a comparison. -/
theorem comparison?_not {body : Masked} (starts : StartsFilled (look body)) :
    comparison? (mask ['n', 'o', 't'] ++ (mask [' '] ++ body)) =
      (findOperator? true [] body <|>
        findOperator? false [] (mask ['n', 'o', 't'] ++ (mask [' '] ++ body))) := by
  have one : (List.range (blankCount (mask [' '] ++ body))).reverse = [0] := by
    have blank : isBlank ' ' = true := by decide
    have stops : body.takeWhile (fun g => isBlank g.shown) = [] := by
      cases body with
      | nil => rfl
      | cons g body => exact List.takeWhile_cons_of_neg (by simpa [look] using starts)
    rw [show mask [' '] ++ body = ⟨' ', false⟩ :: body from rfl, blankCount,
      List.takeWhile_cons_of_pos (by exact blank), stops]
    rfl
  have first : ([0].findSome? fun n => findOperator? true [] ((mask [' '] ++ body).drop (n + 1))) =
      findOperator? true [] body := by
    rw [List.findSome?_singleton]
    rfl
  rw [comparison?, after?_mask (by simp [isOrdinary_iff, specials]), Option.bind_some, one, first]

theorem negation?_not {body : Masked} (nonempty : body ≠ []) (starts : StartsFilled (look body)) :
    negation? (mask ['n', 'o', 't'] ++ (mask [' '] ++ body)) = some (chars body) := by
  rw [negation?, after?_mask (by simp [isOrdinary_iff, specials]), Option.bind_some,
    afterBlanks?_space starts, Option.bind_some, if_neg (by simpa using nonempty)]

/-! ## Whole conditions -/

/-- The words and signs that may stand around the operands of a condition. -/
def comparisonWords : List (List Char) :=
  [['n', 'o', 't'], ['i', 'n'], ['=', '='], ['!', '='], ['<'], ['>'], ['<', '='], ['>', '=']]

theorem plain_comparisonWords : ∀ p ∈ comparisonWords,
    p ≠ [] ∧ (∀ c ∈ p, isBlank c = false) ∧ ∀ c ∈ p, isOrdinary c = true := by
  simp [comparisonWords, isBlank, covers, blankRanges, isOrdinary_iff, specials]

theorem mask_comparison {left : List Char} (outside : EndsOutside left) (op : Operator)
    (right : List Char) : mask (left ++ ' ' :: (op.text ++ ' ' :: right)) =
      mask left ++ (mask [' '] ++ (mask op.text ++ (mask [' '] ++ mask right))) := by
  have operator : EndsOutside op.text := (Closed.ordinary (isOrdinary_operator op)).endsOutside
  rw [outside.mask_append, mask_space_append (op.text ++ ' ' :: right), operator.mask_append,
    mask_space_append right]

section

variable {filters : NameMap Filter} (idents : IdentNames filters) {c : ConditionText}
  {condition : Condition} (h : c.Means filters condition)
include idents h

theorem sealed_condition {word sign : List Char}
    (joint : (word = ['o', 'r'] ∧ sign = ['|', '|']) ∨ (word = ['a', 'n', 'd'] ∧ sign = ['&', '&'])) :
    Sealed word sign c.print := by
  have hword : word ∈ keywords := by rcases joint with ⟨rfl, -⟩ | ⟨rfl, -⟩ <;> simp [keywords]
  have hsign : sign = ['|', '|'] ∨ '&' ∈ sign := by rcases joint with ⟨-, rfl⟩ | ⟨-, rfl⟩ <;> simp
  have space : ' ' ∉ sign := by rcases joint with ⟨-, rfl⟩ | ⟨-, rfl⟩ <;> simp
  have plain : ∀ p ∈ comparisonWords, Sealed word sign p := by
    have other : ∀ p ∈ comparisonWords, word ≠ p ∧ ∃ c ∈ sign, c ∉ p := by
      rcases joint with ⟨rfl, rfl⟩ | ⟨rfl, rfl⟩ <;> simp [comparisonWords]
    intro p hp
    obtain ⟨nonempty, filled, ordinary⟩ := plain_comparisonWords p hp
    exact .plain nonempty filled ordinary (other p hp).1 (other p hp).2
  have hnot := plain ['n', 'o', 't'] (by simp [comparisonWords])
  have operator : ∀ op : Operator, Sealed word sign op.text := by
    intro op
    cases op
    case notMember => exact hnot.spaced space (plain ['i', 'n'] (by simp [comparisonWords]))
    all_goals exact plain _ (by simp [Operator.text, comparisonWords])
  have comparison : Sealed word sign (match c.right with
      | none => c.left
      | some (op, right) => c.left ++ ' ' :: (op.text ++ ' ' :: right)) := by
    cases h with
    | alone negated left => exact left.sealed idents hword hsign
    | compared negated op left right =>
        exact (left.sealed idents hword hsign).spaced space
          ((operator op).spaced space (right.sealed idents hword hsign))
  rw [ConditionText.print]
  split
  · exact hnot.spaced space comparison
  · exact comparison

end

section

variable {filters : NameMap Filter} (idents : IdentNames filters) {left : List Char} {a : Expr}
  (hleft : Operand filters left a)
include idents hleft

/-- An operand on its own. -/
theorem parseCondition_alone (negated : Bool) :
    parseCondition filters (ConditionText.print ⟨negated, left, none⟩) = .ok ⟨negated, a, none⟩ := by
  have shape := sealed_condition idents (.alone negated hleft) (.inl ⟨rfl, rfl⟩)
  rw [parseCondition, trim_eq_self shape.starts shape.ends]
  cases negated with
  | false =>
      have compared := comparison?_operand idents hleft startsBlank_look_nil
      have negated := hleft.not_negated startsBlank_look_nil
      rw [List.append_nil] at compared negated
      rw [show ConditionText.print ⟨false, left, none⟩ = left from rfl, compared, negation?, negated,
        hleft.reads]
      rfl
  | true =>
      have starts := startsFilled_look hleft.starts
      have noOperator : findOperator? true [] (mask left) = none := by
        have skipped := findOperator?_append (hleft.free idents startsBlank_look_nil) true []
        rwa [List.append_nil] at skipped
      rw [show ConditionText.print ⟨true, left, none⟩ = 'n' :: 'o' :: 't' :: ' ' :: left from rfl,
        mask_not, comparison?_not starts, noOperator, findOperator?_not idents hleft,
        negation?_not (mask_ne_nil hleft.nonempty) starts, chars_mask]
      dsimp only [HOrElse.hOrElse, OrElse.orElse, Option.orElse]
      rw [hleft.reads]
      rfl

/-- An operand compared with another one. -/
theorem parseCondition_compared (negated : Bool) (op : Operator) {right : List Char} {b : Expr}
    (hright : Operand filters right b) :
    parseCondition filters (ConditionText.print ⟨negated, left, some (op, right)⟩) =
      .ok ⟨negated, a, some (op, b)⟩ := by
  have shape := sealed_condition idents (.compared negated op hleft hright) (.inl ⟨rfl, rfl⟩)
  have starts := startsFilled_look hright.starts
  have found : ∀ negated, findOperator? negated left.reverse
      (mask [' '] ++ (mask op.text ++ (mask [' '] ++ mask right))) =
        some ⟨negated, left, op, right⟩ := by
    intro negated
    have here := findOperator?_operator negated op hleft.nonempty (mask_ne_nil hright.nonempty) starts
    rwa [chars_mask] at here
  have outside := (signless_of_parseExpr idents hleft.reads).closed.endsOutside
  have masked := mask_comparison outside op right
  rw [parseCondition, trim_eq_self shape.starts shape.ends]
  cases negated with
  | false =>
      rw [show ConditionText.print ⟨false, left, some (op, right)⟩ =
          left ++ ' ' :: (op.text ++ ' ' :: right) from rfl, masked,
        comparison?_operand idents hleft (startsBlank_look_space _), found]
      dsimp only
      rw [hleft.reads, hright.reads]
      rfl
  | true =>
      have skipped := findOperator?_append (hleft.free idents (startsBlank_look_space
        (mask op.text ++ (mask [' '] ++ mask right)))) true []
      rw [chars_mask, List.append_nil, found] at skipped
      rw [show ConditionText.print ⟨true, left, some (op, right)⟩ =
          'n' :: 'o' :: 't' :: ' ' :: (left ++ ' ' :: (op.text ++ ' ' :: right)) from rfl,
        mask_not, masked,
        comparison?_not (startsFilled_mask_append hleft.nonempty hleft.starts _), skipped]
      dsimp only [HOrElse.hOrElse, OrElse.orElse, Option.orElse]
      rw [hleft.reads, hright.reads]
      rfl

end

/-- A printed condition is read as what its texts mean. -/
theorem parseCondition_print {filters : NameMap Filter} (idents : IdentNames filters)
    {c : ConditionText} {condition : Condition} (h : c.Means filters condition) :
    parseCondition filters c.print = .ok condition := by
  cases h with
  | alone negated hleft => exact parseCondition_alone idents hleft negated
  | compared negated op hleft hright => exact parseCondition_compared idents hleft negated op hright

end TextTemplate
