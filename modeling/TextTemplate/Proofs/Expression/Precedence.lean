import TextTemplate.Proofs.Expression.Condition

/-!
# Printed tests

Reading a test gives back its groups of conditions, however the groups and the conditions are joined: an
`or` separates groups, an `and` conditions of one group, and an operator stands within a condition.
-/

namespace TextTemplate

open TextTemplate.Text Masked

theorem joints_or : Joints ['o', 'r'] ['|', '|'] := by
  constructor <;> simp [isBlank, covers, blankRanges, isOrdinary_iff, specials]

theorem joints_and : Joints ['a', 'n', 'd'] ['&', '&'] := by
  constructor <;> simp [isBlank, covers, blankRanges, isOrdinary_iff, specials]

/-- Conditions with `and` or `&&` between them. -/
def groupText (group : Chain ConditionText) : List Char :=
  group.print ['a', 'n', 'd'] ['&', '&'] ConditionText.print

/-- Groups with `or` or `||` between them. -/
def testText (test : Chain (Chain ConditionText)) : List Char :=
  test.print ['o', 'r'] ['|', '|'] groupText

/-- What the texts of a group of conditions are read as. -/
def GroupMeans (filters : NameMap Filter) (group : Chain ConditionText) (conditions : List Condition) :
    Prop :=
  List.Forall₂ (ConditionText.Means filters) group.items conditions

section

variable {filters : NameMap Filter} (idents : IdentNames filters)
include idents

theorem parseGroup_print {group : Chain ConditionText} {conditions : List Condition}
    (h : GroupMeans filters group conditions) :
    (split andWord (groupText group)).mapM (parseCondition filters) = .ok conditions := by
  have parts : ∀ c ∈ group.items, Sealed ['a', 'n', 'd'] ['&', '&'] c.print :=
    forall_mem_of_forall₂ h fun c condition means =>
      sealed_condition idents means (.inr ⟨rfl, rfl⟩)
  rw [groupText, andWord, Chain.split_print joints_and parts]
  refine mapM_eq_ok ?_
  rw [List.forall₂_map_left_iff]
  exact h.imp fun c condition means => parseCondition_print idents means

theorem sealed_group {group : Chain ConditionText} {conditions : List Condition}
    (h : GroupMeans filters group conditions) : Sealed ['o', 'r'] ['|', '|'] (groupText group) := by
  have parts : ∀ c ∈ group.items, Sealed ['o', 'r'] ['|', '|'] c.print :=
    forall_mem_of_forall₂ h fun c condition means =>
      sealed_condition idents means (.inl ⟨rfl, rfl⟩)
  have joint : ∀ p ∈ [['a', 'n', 'd'], ['&', '&']], p ≠ [] ∧ (∀ c ∈ p, isBlank c = false) ∧
      (∀ c ∈ p, isOrdinary c = true) ∧ ['o', 'r'] ≠ p ∧ ∃ c ∈ ['|', '|'], c ∉ p := by
    simp [isBlank, covers, blankRanges, isOrdinary_iff, specials]
  have apart : ∀ p ∈ [['a', 'n', 'd'], ['&', '&']], Sealed ['o', 'r'] ['|', '|'] p := by
    intro p hp
    obtain ⟨nonempty, filled, ordinary, other, apart⟩ := joint p hp
    exact .plain nonempty filled ordinary other apart
  exact Chain.sealed_print (by simp) (apart _ (by simp)) (apart _ (by simp)) parts

/-- Reading a printed test gives its groups back, with the negations, operators and operands of their
conditions. -/
theorem parseTest_testText {test : Chain (Chain ConditionText)} {groups : List (List Condition)}
    (h : List.Forall₂ (GroupMeans filters) test.items groups) :
    parseTest filters (testText test) = .ok ⟨groups⟩ := by
  have parts : ∀ group ∈ test.items, Sealed ['o', 'r'] ['|', '|'] (groupText group) :=
    forall_mem_of_forall₂ h fun group conditions means => sealed_group idents means
  have read : ((test.items.map groupText).mapM fun group =>
      (split andWord group).mapM (parseCondition filters)) = .ok groups := by
    refine mapM_eq_ok ?_
    rw [List.forall₂_map_left_iff]
    exact h.imp fun group conditions means => parseGroup_print idents means
  rw [parseTest, testText, orWord, Chain.split_print joints_or parts, read]
  rfl

end

/-- The text `not a in ['or', "b and c"] && 2 <= d or ' not in ' != e | join:' || '`. -/
def mixedTest : Chain (Chain ConditionText) where
  first :=
    { first := ⟨true, "a".toList, some (.member, "['or', \"b and c\"]".toList)⟩
      others := [(false, ⟨false, "2".toList, some (.le, "d".toList)⟩)] }
  others := [(true,
    { first := ⟨false, "' not in '".toList, some (.ne, "e | join:' || '".toList)⟩, others := [] })]

def variableNamed (name : String) : Expr :=
  .reference { raw := name, path := name, arguments := [], filters := [] }

def joinedVariable : Expr :=
  .reference
    { raw := "e | join:' || '"
      path := "e"
      arguments := []
      filters := [⟨"join", Filter.join, [.string " || "]⟩] }

def mixedGroups : List (List Condition) := [
  [⟨true, variableNamed "a", some (.member, .literal (.list [.string "or", .string "b and c"]))⟩,
    ⟨false, .literal (.integer 2), some (.le, variableNamed "d")⟩],
  [⟨false, .literal (.string " not in "), some (.ne, joinedVariable)⟩]]

theorem operand_of_words {text : List Char} {e : Expr} (shown : List (List Char))
    (reads : parseExpr separatorFilters text = .ok e) (trimmed : trim text = text)
    (same : words (look (mask text)) = shown) (plain : ∀ word ∈ keywords, word ∉ shown)
    (noSign : ¬ ['|', '|'] <:+: look (mask text)) : Operand separatorFilters text e where
  reads := reads
  trimmed := trimmed
  noKeyword := by rwa [same]
  noSign := noSign

theorem means_mixedTest : List.Forall₂ (GroupMeans separatorFilters) mixedTest.items mixedGroups := by
  have named : ∀ name ∈ ["a", "d"], Operand separatorFilters name.toList (variableNamed name) := by
    have known : ∀ name ∈ ["a", "d"], isPlainPath name.toList = true ∧
        Literal.parseChars name.toList = none := by decide
    intro name hname
    have reads := parseExpr_variable separatorFilters (known name hname).1 (known name hname).2
    rw [String.ofList_toList] at reads
    simp only [List.mem_cons, List.not_mem_nil, or_false] at hname
    rcases hname with rfl | rfl <;>
      exact operand_of_words _ reads (by cbv) rfl (by decide +kernel) (by decide)
  have list : Operand separatorFilters "['or', \"b and c\"]".toList
      (.literal (.list [.string "or", .string "b and c"])) :=
    operand_of_words _ (parseExpr_alone _ (by cbv)) (by cbv) rfl (by decide +kernel) (by decide)
  have two : Operand separatorFilters "2".toList (.literal (.integer 2)) :=
    operand_of_words _ (parseExpr_alone _ (by cbv)) (by cbv) rfl (by decide +kernel) (by decide)
  have text : Operand separatorFilters "' not in '".toList (.literal (.string " not in ")) :=
    operand_of_words _ (parseExpr_alone _ (by cbv)) (by cbv) rfl (by decide +kernel) (by decide)
  have joined : Operand separatorFilters "e | join:' || '".toList joinedVariable := by
    have uses : List.Forall₂ (Uses separatorFilters) [⟨false, "join".toList, ["' || '".toList]⟩]
        [⟨"join", Filter.join, [.string " || "]⟩] :=
      .cons ⟨by decide, by decide, by cbv, .cons ⟨by cbv, by decide⟩ .nil⟩ .nil
    have reads := parseExpr_path uses (show isPlainPath (CallText.mk false ['e'] []).name = true by
      decide) (by decide) .nil
    exact operand_of_words _ reads (by cbv) rfl (by decide +kernel) (by decide)
  exact .cons (.cons (.compared true .member (named "a" (by simp)) list)
      (.cons (.compared false .le two (named "d" (by simp))) .nil))
    (.cons (.cons (.compared false .ne text joined) .nil) .nil)

theorem identNames_separatorFilters : IdentNames separatorFilters := by
  unfold IdentNames
  decide

theorem parseTest_mixedTest :
    List.Forall₂ (GroupMeans separatorFilters) mixedTest.items mixedGroups ∧
      parseTest separatorFilters (testText mixedTest) = .ok ⟨mixedGroups⟩ :=
  ⟨means_mixedTest, parseTest_testText identNames_separatorFilters means_mixedTest⟩

end TextTemplate
