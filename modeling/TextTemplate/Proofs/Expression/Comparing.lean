import TextTemplate.Proofs.Expression.Slicing

/-!
# Conditions by slices

A condition is taken apart by two patterns, for comparisons and for negations, and the groups that these
find in what is shown are sliced out of the text. A reader of glyphs finds the same: it tries the
operators, the ends of the left operand and the blanks behind a `not` in the same order, so each time the
first that succeeds is the same (`comparison_related`).
-/

namespace TextTemplate

open TextTemplate.Text Masked Pattern

/-! ## The patterns of conditions -/

/-- The operators of a comparison in the order in which they are tried. -/
def operatorPatterns : List Pattern := [
  word ['=', '='],
  word ['!', '='],
  word ['<', '='],
  word ['>', '='],
  word ['<'],
  word ['>'],
  sequence [word ['n', 'o', 't'], blanks, word ['i', 'n']],
  word ['i', 'n']]

/-- Blanks and the rest of the text, which is a group. -/
def lastOperand (n : Nat) : Pattern := sequence [blanks, group n (anything true), atEnd]

/-- Groups 1 to 4 of a comparison: a leading `not`, the left operand, the operator, the right operand. -/
def comparisonPattern : Pattern :=
  both atStart (both (optional (group 1 (sequence [word ['n', 'o', 't'], blanks])))
    (both (group 2 (anything false))
      (both blanks (both (group 3 (anyOf operatorPatterns)) (lastOperand 4)))))

/-- What stands behind a leading `not` is group 1. -/
def negationPattern : Pattern := both atStart (both (word ['n', 'o', 't']) (lastOperand 1))

/-- The operator that is written so. -/
def operatorNamed? (cs : List Char) : Option Operator :=
  match signOperators.lookup cs with
  | some op => some op
  | none =>
    if cs = ['i', 'n'] then some .member
    else if ['n', 'o', 't'].isPrefixOf cs then some .notMember
    else none

/-! ## Searches that try the same -/

section

variable {α β γ : Type} {R : α → β → Prop}

theorem related_map {S : α → γ → Prop} {f : β → γ} {x : Option α} {y : Option β}
    (related : Option.Rel R x y) (imp : ∀ a b, R a b → S a (f b)) : Option.Rel S x (y.map f) := by
  cases related with
  | none => exact .none
  | some holds => exact .some (imp _ _ holds)

theorem related_imp {S : α → β → Prop} {x : Option α} {y : Option β} (related : Option.Rel R x y)
    (imp : ∀ a b, R a b → S a b) : Option.Rel S x y := by
  cases related with
  | none => exact .none
  | some holds => exact .some (imp _ _ holds)

theorem exists_related {x : Option α} {y : Option β} {a : α} (related : Option.Rel R x y)
    (found : x = some a) : ∃ b, R a b := by
  cases related with
  | none => cases found
  | some holds =>
      cases found
      exact ⟨_, holds⟩

theorem related_or {x x' : Option α} {y y' : Option β} (first : Option.Rel R x y)
    (second : Option.Rel R x' y') : Option.Rel R (x.or x') (y.or y') := by
  cases first with
  | some related => exact .some related
  | none => exact second

theorem related_findSome? {f : γ → Option α} {g : γ → Option β} {l : List γ}
    (each : ∀ a ∈ l, Option.Rel R (f a) (g a)) : Option.Rel R (l.findSome? f) (l.findSome? g) := by
  induction l with
  | nil => exact .none
  | cons a l ih =>
      obtain ⟨here, others⟩ := List.forall_mem_cons.mp each
      rw [List.findSome?_cons, List.findSome?_cons]
      cases hf : f a with
      | none =>
          rw [hf] at here
          cases hg : g a with
          | none => exact ih others
          | some b =>
              rw [hg] at here
              cases here
      | some x =>
          rw [hf] at here
          cases hg : g a with
          | none =>
              rw [hg] at here
              cases here
          | some y => rwa [hg] at here

end

/-! ## The last operand -/

/-- Blanks, and then the operand as the last group. -/
def OperandFound (n : Nat) (front ms : Masked) (groups : List (Nat × Span)) (found : Captures)
    (right : Masked) : Prop :=
  ∃ space, ms = space ++ right ∧
    found = ⟨⟨0, size (front ++ ms)⟩, groups ++ [(n, spanOf (front ++ space) right)]⟩

theorem endsFilled_behind (us : Masked) {vs : Masked} (ends : EndsFilled (look (us ++ vs))) :
    EndsFilled (look vs) := by
  by_cases nonempty : vs = []
  · rw [nonempty]
    exact nofun
  · exact endsFilled_look_right ends nonempty

variable {front ms : Masked} {groups : List (Nat × Span)}

theorem lastOperand_related (n : Nat) (ends : EndsFilled (look ms)) (front : Masked)
    (groups : List (Nat × Span)) :
    Option.Rel (OperandFound n front ms groups)
      ((lastOperand n).run (finish 0) (placeBehind front ms) groups)
      ((afterBlanks? ms).filter fun ms => !ms.isEmpty) := by
  cases behind : afterBlanks? ms with
  | none =>
      rw [lastOperand, run_sequence_cons, run_blanks_absent behind]
      exact .none
  | some right =>
      obtain ⟨gap, gap_ne, rfl, blank, starts⟩ := exists_blanks behind
      have goesOn : right ≠ [] := by
        rintro rfl
        rw [List.append_nil] at ends
        exact ends.not_blanks (look_ne_nil gap_ne) blank
      have found : (sequence [group n (anything true), atEnd]).run (finish 0)
          (placeBehind (front ++ gap) right) groups =
            finish 0 (placeBehind (front ++ gap ++ right) [])
              (groups ++ [(n, spanOf (front ++ gap) right)]) :=
        run_toEnd n goesOn
      have goes := run_blanks_gap gap_ne blank starts (.inl (Option.isSome_of_eq_some found))
      rw [lastOperand, run_sequence_cons, goes, found, Option.filter_some,
        if_pos (by simpa using goesOn)]
      refine .some ⟨gap, rfl, ?_⟩
      rw [← List.append_assoc]
      rfl

/-! ## Operators -/

/-- The pattern takes the same part of the text as a reader that is left with this, and the part stands for
the operator. -/
inductive Takes (p : Pattern) (op : Operator) (ms : Masked) : Option Masked → Prop
  | nothing (fails : ∀ next front groups, p.run next (placeBehind front ms) groups = none) :
      Takes p op ms none
  | sign {sign rest : Masked} (whole : ms = sign ++ rest) (plain : '_' ∉ look sign)
      (named : operatorNamed? (look sign) = some op)
      (goesOn : ∀ next front groups, p.run next (placeBehind front ms) groups =
        next (placeBehind (front ++ sign) rest) groups) :
      Takes p op ms (some rest)

theorem takes_word {w : List Char} {op : Operator} (plain : '_' ∉ w) (named : operatorNamed? w = some op)
    (ms : Masked) : Takes (word w) op ms (after? w ms) := by
  cases behind : after? w ms with
  | none => exact .nothing fun _ _ _ => run_word_eq_none plain behind
  | some rest =>
      obtain ⟨mid, rfl, rfl⟩ := after?_eq_some behind
      exact .sign rfl plain named fun _ _ _ => run_word plain rfl

theorem takes_notIn (ms : Masked) :
    Takes (sequence [word ['n', 'o', 't'], blanks, word ['i', 'n']]) .notMember ms
      (afterNotIn? ms) := by
  have filled : ∀ c ∈ ['i', 'n'], isBlank c = false := by
    simp [isBlank, covers, blankRanges]
  rw [afterNotIn?]
  cases first : after? ['n', 'o', 't'] ms with
  | none => exact .nothing fun _ _ _ => run_word_eq_none (by decide) first
  | some behind =>
      obtain ⟨not', rfl, spelled⟩ := after?_eq_some first
      rw [Option.bind_some]
      have started : ∀ (next : Next) front groups,
          (word ['n', 'o', 't']).run next (placeBehind front (not' ++ behind)) groups =
            next (placeBehind (front ++ not') behind) groups :=
        fun _ _ _ => run_word (by decide) spelled
      cases second : afterBlanks? behind with
      | none =>
          refine .nothing fun next front groups => ?_
          exact (started _ _ _).trans (run_blanks_absent second)
      | some behind =>
          obtain ⟨gap, gap_ne, rfl, blank, starts⟩ := exists_blanks second
          have further : ∀ (next : Next) front groups,
              blanks.run ((word ['i', 'n']).run next) (placeBehind front (gap ++ behind)) groups =
                (word ['i', 'n']).run next (placeBehind (front ++ gap) behind) groups :=
            fun _ _ _ => run_blanks_before (avoids_blank_word (List.cons_ne_nil _ _) filled) gap_ne
              blank starts
          rw [Option.bind_some]
          cases third : after? ['i', 'n'] behind with
          | none =>
              refine .nothing fun next front groups => ?_
              exact ((started _ _ _).trans (further _ _ _)).trans (run_word_eq_none (by decide) third)
          | some rest =>
              obtain ⟨in', rfl, spelled'⟩ := after?_eq_some third
              have text : look (not' ++ gap ++ in') = ['n', 'o', 't'] ++ look gap ++ ['i', 'n'] := by
                rw [look_append, look_append, spelled, spelled']
              have plain : '_' ∉ look (not' ++ gap ++ in') := by
                rw [text, List.mem_append, List.mem_append, not_or, not_or]
                exact ⟨⟨by decide, fill_not_mem_of_blanks blank⟩, by decide⟩
              have named : operatorNamed? (look (not' ++ gap ++ in')) = some .notMember := by
                rw [text]
                rfl
              refine .sign (by simp) plain named fun next front groups => ?_
              have there : front ++ (not' ++ gap ++ in') = front ++ not' ++ gap ++ in' := by
                simp only [List.append_assoc]
              rw [there]
              exact ((started _ _ _).trans (further _ _ _)).trans (run_word (by decide) spelled')

/-- The operand behind an operator, if there is one. -/
def operandBehind (rest : Option Masked) : Option Masked :=
  (rest.bind afterBlanks?).filter fun ms => !ms.isEmpty

theorem operator?_eq (ms : Masked) :
    operator? ms =
      (signOperators.findSome? fun x => (operandBehind (after? x.1 ms)).map fun r => (x.2, r)).or
        (((operandBehind (afterNotIn? ms)).map fun r => (.notMember, r)).or
          ((operandBehind (after? ['i', 'n'] ms)).map fun r => (.member, r))) := by
  simp only [operator?, Option.orElse_eq_orElse, Option.orElse_eq_or, operandBehind]

/-- A sign with a known meaning as group 3, and behind blanks the right operand as group 4. -/
def OperatorFound (front ms : Masked) (groups : List (Nat × Span)) (found : Captures)
    (x : Operator × Masked) : Prop :=
  ∃ sign space, ms = sign ++ (space ++ x.2) ∧ '_' ∉ look sign ∧
    operatorNamed? (look sign) = some x.1 ∧
    found = ⟨⟨0, size (front ++ ms)⟩,
      groups ++ [(3, spanOf front sign), (4, spanOf (front ++ sign ++ space) x.2)]⟩

theorem operator_related_of_takes {p : Pattern} {op : Operator} {rest : Option Masked}
    (takes : Takes p op ms rest) (ends : EndsFilled (look ms)) (front : Masked)
    (groups : List (Nat × Span)) :
    Option.Rel (OperatorFound front ms groups)
      (p.run (fun stop groups => (lastOperand 4).run (finish 0) stop
        (groups ++ [(3, ⟨size front, stop.offset⟩)])) (placeBehind front ms) groups)
      ((operandBehind rest).map fun r => (op, r)) := by
  cases takes with
  | nothing fails =>
      rw [fails]
      exact .none
  | @sign sign rest whole plain named goesOn =>
      subst whole
      have related := lastOperand_related 4 (endsFilled_behind sign ends) (front ++ sign)
        (groups ++ [(3, spanOf front sign)])
      rw [goesOn, operandBehind, Option.bind_some]
      show Option.Rel _ ((lastOperand 4).run (finish 0) (placeBehind (front ++ sign) rest)
        (groups ++ [(3, spanOf front sign)])) _
      refine related_map related fun found right last => ?_
      obtain ⟨space, rfl, rfl⟩ := last
      exact ⟨sign, space, rfl, plain, named, by simp⟩

theorem operator_related (ends : EndsFilled (look ms)) (front : Masked) (groups : List (Nat × Span)) :
    Option.Rel (OperatorFound front ms groups)
      ((group 3 (anyOf operatorPatterns)).run ((lastOperand 4).run (finish 0)) (placeBehind front ms)
        groups)
      (operator? ms) := by
  have split : operatorPatterns = signOperators.map (fun x => word x.1) ++
      ([sequence [word ['n', 'o', 't'], blanks, word ['i', 'n']]] ++ [word ['i', 'n']]) := rfl
  have signs : ∀ x ∈ signOperators, '_' ∉ x.1 ∧ operatorNamed? x.1 = some x.2 := by decide
  rw [run_group, run_anyOf, split, List.findSome?_append, List.findSome?_map, operator?_eq]
  refine related_or (related_findSome? fun x hx => ?_) ?_
  · exact operator_related_of_takes (takes_word (signs x hx).1 (signs x hx).2 ms) ends front groups
  · have takes_in : Takes (word ['i', 'n']) .member ms (after? ['i', 'n'] ms) :=
      takes_word (by decide) rfl ms
    have notIn := operator_related_of_takes (takes_notIn ms) ends front groups
    have in' := operator_related_of_takes takes_in ends front groups
    rw [List.findSome?_append, List.findSome?_singleton, List.findSome?_singleton]
    exact related_or notIn in'

/-! ## Operands in front of an operator -/

/-- What comes behind the left operand. -/
def behindLeft : Next :=
  blanks.run ((group 3 (anyOf operatorPatterns)).run ((lastOperand 4).run (finish 0)))

/-- Blanks and an operator with its right operand. -/
def BehindLeft (front ms : Masked) (groups : List (Nat × Span)) (found : Captures)
    (x : Operator × Masked) : Prop :=
  ∃ gap rest, ms = gap ++ rest ∧ OperatorFound (front ++ gap) rest groups found x

theorem avoids_blank_operators (c : Char) (blank : isBlank c = true) :
    (group 3 (anyOf operatorPatterns)).Avoids c := by
  have filled : ∀ d ∈ ['=', '!', '<', '>', 'n', 'i'], isBlank d = false := by
    simp [isBlank, covers, blankRanges]
  have avoids : ∀ d ∈ ['=', '!', '<', '>', 'n', 'i'], (c == d) = false := by
    intro d hd
    refine beq_false_of_ne fun same => ?_
    rw [same, filled d hd] at blank
    cases blank
  simp only [List.forall_mem_cons] at avoids
  obtain ⟨eq, ne, lt, gt, not', in', -⟩ := avoids
  exact ⟨eq, ne, lt, gt, lt, gt, not', in', rfl⟩

theorem behindLeft_related (ends : EndsFilled (look ms)) (front : Masked)
    (groups : List (Nat × Span)) :
    Option.Rel (BehindLeft front ms groups) (behindLeft (placeBehind front ms) groups)
      ((afterBlanks? ms).bind operator?) := by
  rw [behindLeft]
  cases behind : afterBlanks? ms with
  | none =>
      rw [run_blanks_absent behind]
      exact .none
  | some rest =>
      obtain ⟨gap, gap_ne, rfl, blank, starts⟩ := exists_blanks behind
      have related := operator_related (endsFilled_behind gap ends) (front ++ gap) groups
      rw [run_blanks_before avoids_blank_operators gap_ne blank starts, Option.bind_some]
      exact related_imp related fun found x operator => ⟨gap, rest, rfl, operator⟩

/-- The left operand as group 2, and what comes behind it. -/
def OperandsFound (negated : Bool) (front ms : Masked) (groups : List (Nat × Span))
    (found : Captures) (c : Comparison) : Prop :=
  ∃ left rest x, ms = left ++ rest ∧
    BehindLeft (front ++ left) rest (groups ++ [(2, spanOf front left)]) found x ∧
    c = ⟨negated, chars left, x.1, chars x.2⟩

/-- What is tried behind a left operand that has to end somewhere. -/
def endLeft (front : Masked) (groups : List (Nat × Span)) (stop : Place) : Option Captures :=
  behindLeft stop (groups ++ [(2, ⟨size front, stop.offset⟩)])

theorem endLeft_fill (i : Nat) (rest : List Char) :
    endLeft front groups ⟨i, '_' :: rest⟩ = none := by
  rw [endLeft, behindLeft]
  exact run_of_avoids avoids_blanks _ _ _ _

/-- The ends of the left operand are tried from left to right. -/
theorem findOperator?_related (negated : Bool) {left : Masked} (nonempty : left ≠ [])
    (ends : EndsFilled (look ms)) (front : Masked) (groups : List (Nat × Span)) :
    Option.Rel (OperandsFound negated front (left ++ ms) groups)
      ((endLeft front groups (placeBehind (front ++ left) ms)).or
        (repeated (fun _ => true) false (endLeft front groups) (size (front ++ left)) (shown ms)))
      (findOperator? negated (chars left).reverse ms) := by
  induction ms generalizing left with
  | nil => exact .none
  | cons g ms ih =>
      have seen : (chars left).reverse.isEmpty = false := by simpa [chars] using nonempty
      have unfolded : findOperator? negated (chars left).reverse (g :: ms) =
          (((afterBlanks? (g :: ms)).bind operator?).map fun x =>
            (⟨negated, chars left, x.1, chars x.2⟩ : Comparison)).or
            (findOperator? negated (chars (left ++ [g])).reverse ms) := by
        rw [findOperator?, seen, if_neg Bool.false_ne_true, chars_append, List.reverse_append]
        cases (afterBlanks? (g :: ms)).bind operator? with
        | none => rfl
        | some x => simp
      have here := behindLeft_related ends (front ++ left) (groups ++ [(2, spanOf front left)])
      have longer : left ++ [g] ≠ [] := List.append_ne_nil_of_right_ne_nil _ (List.cons_ne_nil _ _)
      have later := ih longer (endsFilled_behind [g] ends)
      rw [unfolded, repeated_glyph endLeft_fill]
      refine related_or ?_ ?_
      · show Option.Rel _ (behindLeft (placeBehind (front ++ left) (g :: ms))
          (groups ++ [(2, spanOf front left)])) _
        exact related_map here fun found x behind => ⟨left, g :: ms, x, rfl, behind, rfl⟩
      · rw [List.append_assoc, List.singleton_append] at later
        rwa [List.append_assoc]

/-- Operands and the operator between them, behind the front part of a text. -/
theorem operands_related (negated : Bool) (ends : EndsFilled (look ms)) (front : Masked)
    (groups : List (Nat × Span)) :
    Option.Rel (OperandsFound negated front ms groups)
      ((group 2 (anything false)).run behindLeft (placeBehind front ms) groups)
      (findOperator? negated [] ms) := by
  cases ms with
  | nil => exact .none
  | cons g ms =>
      have related := findOperator?_related negated (List.cons_ne_nil g []) (endsFilled_behind [g] ends)
        front groups
      have first : findOperator? negated [] (g :: ms) = findOperator? negated [g.char] ms := rfl
      rw [first, run_group]
      show Option.Rel _ (repeated (fun _ => true) false (endLeft front groups) (size front)
        (shown (g :: ms))) _
      rw [repeated_glyph endLeft_fill]
      exact related

/-! ## Whole conditions -/

/-- Operands, perhaps behind a `not` that is group 1. -/
inductive ComparisonFound (ms : Masked) (found : Captures) (c : Comparison) : Prop
  | plain (operands : OperandsFound false [] ms [] found c)
  | negated {lead rest : Masked} (whole : ms = lead ++ rest)
      (operands : OperandsFound true lead rest [(1, spanOf [] lead)] found c)

theorem comparison_related (ends : EndsFilled (look ms)) :
    Option.Rel (ComparisonFound ms) (comparisonPattern.captures? (shown ms)) (comparison? ms) := by
  have plain := operands_related false ends [] []
  have unfolded : comparison? ms = ((after? ['n', 'o', 't'] ms).bind fun rest =>
      (List.range (blankCount rest)).reverse.findSome? fun n =>
        findOperator? true [] (rest.drop (n + 1))).or (findOperator? false [] ms) := by
    simp only [comparison?, Option.orElse_eq_orElse, Option.orElse_eq_or]
  rw [comparisonPattern, captures?_atStart, unfolded]
  show Option.Rel _ ((optional _).run ((group 2 (anything false)).run behindLeft) (placeBehind [] ms)
    []) _
  rw [run_optional, run_group]
  refine related_or ?_ ?_
  · cases behind : after? ['n', 'o', 't'] ms with
    | none =>
        rw [run_sequence_cons, run_word_eq_none (by decide) behind]
        exact .none
    | some rest =>
        obtain ⟨not', rfl, spelled⟩ := after?_eq_some behind
        rw [run_sequence_cons, run_word (by decide) spelled, run_sequence_cons, run_sequence_nil,
          run_blanks, Option.bind_some]
        refine related_findSome? fun n _ => ?_
        have whole : not' ++ rest = not' ++ rest.take (n + 1) ++ rest.drop (n + 1) := by
          rw [List.append_assoc, List.take_append_drop]
        have related := operands_related true (endsFilled_behind _ (whole ▸ ends))
          (not' ++ rest.take (n + 1)) [(1, spanOf [] (not' ++ rest.take (n + 1)))]
        show Option.Rel _ ((group 2 (anything false)).run behindLeft
          (placeBehind (not' ++ rest.take (n + 1)) (rest.drop (n + 1)))
          [(1, spanOf [] (not' ++ rest.take (n + 1)))]) _
        exact related_imp related fun found c operands => .negated whole operands
  · exact related_imp plain fun found c operands => .plain operands

/-- The rest of the text behind a `not` as group 1. -/
def NegationFound (ms : Masked) (found : Captures) (text : List Char) : Prop :=
  ∃ lead right, ms = lead ++ right ∧ text = chars right ∧
    found = ⟨⟨0, size ms⟩, [(1, spanOf lead right)]⟩

theorem negation_related (ends : EndsFilled (look ms)) :
    Option.Rel (NegationFound ms) (negationPattern.captures? (shown ms)) (negation? ms) := by
  have unfolded : negation? ms =
      (operandBehind (after? ['n', 'o', 't'] ms)).map chars := by
    rw [negation?, operandBehind]
    cases (after? ['n', 'o', 't'] ms).bind afterBlanks? with
    | none => rfl
    | some rest =>
        rw [Option.bind_some, Option.filter_some]
        cases rest with
        | nil => rfl
        | cons g rest => rfl
  rw [negationPattern, captures?_atStart, unfolded]
  show Option.Rel _ ((word ['n', 'o', 't']).run ((lastOperand 1).run (finish 0)) (placeBehind [] ms)
    []) _
  cases behind : after? ['n', 'o', 't'] ms with
  | none =>
      rw [run_word_eq_none (by decide) behind]
      exact .none
  | some rest =>
      obtain ⟨not', rfl, spelled⟩ := after?_eq_some behind
      have related := lastOperand_related 1 (endsFilled_behind not' ends) not' []
      rw [run_word (by decide) spelled, operandBehind, Option.bind_some]
      show Option.Rel _ ((lastOperand 1).run (finish 0) (placeBehind not' rest) []) _
      refine related_map related fun found right last => ?_
      obtain ⟨space, rfl, rfl⟩ := last
      exact ⟨not' ++ space, right, by simp, rfl, rfl⟩

/-! ## Slices of the groups -/

/-- A group of a match sliced out of a text; one that is missing is empty. -/
def groupText? (cs : List Char) (found : Captures) (n : Nat) : Option (List Char) :=
  match found.group? n with
  | some s => slice? cs s.start s.stop
  | none => some []

theorem slice?_chars (front part rest : Masked) :
    slice? (chars (front ++ (part ++ rest))) (spanOf front part).start (spanOf front part).stop =
      some (chars part) := by
  have holds := slice?_append (chars front) (chars part) (chars rest)
  rwa [← chars_append, ← chars_append, List.append_assoc] at holds

/-- The same offsets cut out of what is shown what is shown of the part. -/
theorem slice?_shown (front part rest : Masked) :
    slice? (shown (front ++ (part ++ rest))) (spanOf front part).start (spanOf front part).stop =
      some (shown part) := by
  have holds := slice?_append (shown front) (shown part) (shown rest)
  rwa [← shown_append, ← shown_append, byteLength_shown, byteLength_shown, List.append_assoc] at holds

/-- Slices hold at the ends of front parts of a text that become longer and longer. -/
theorem inOrder_of_prefixes (fronts : List Masked) (longer : (fronts ++ [ms]).IsChain (· <+: ·)) :
    InOrder (chars ms) (fronts.map size) := by
  obtain ⟨ordered, -, whole⟩ := List.pairwise_append.mp longer.pairwise
  constructor
  · refine List.pairwise_map.mpr (ordered.imp fun {us vs} h => ?_)
    obtain ⟨rest, rfl⟩ := h
    rw [size_append]
    exact Nat.le_add_right _ _
  · intro i hi
    obtain ⟨front, member, rfl⟩ := List.mem_map.mp hi
    obtain ⟨rest, rfl⟩ := whole front member ms List.mem_cons_self
    rw [chars_append]
    exact isBoundary_append _ _

/-- The parts of a comparison: what is in front of it, the operands, the operator and the blanks between
them, with the match that has groups for them. -/
theorem OperandsFound.parts {negated : Bool} {found : Captures} {c : Comparison}
    (h : OperandsFound negated front ms groups found c) :
    ∃ left gap sign space right op, ms = left ++ (gap ++ (sign ++ (space ++ right))) ∧
      operatorNamed? (shown sign) = some op ∧ c = ⟨negated, chars left, op, chars right⟩ ∧
      found = ⟨⟨0, size (front ++ ms)⟩, groups ++ [(2, spanOf front left),
        (3, spanOf (front ++ left ++ gap) sign),
        (4, spanOf (front ++ left ++ gap ++ sign ++ space) right)]⟩ := by
  obtain ⟨left, rest, ⟨op, right⟩, rfl, ⟨gap, rest, rfl, sign, space, rfl, plain, named, rfl⟩, rfl⟩ := h
  refine ⟨left, gap, sign, space, right, op, rfl, ?_, rfl, by simp⟩
  rwa [shown_eq_look plain]

/-- The groups of a comparison can be sliced out of the text, and are what the comparison consists of. -/
structure ComparisonSliced (ms : Masked) (found : Captures) (c : Comparison) : Prop where
  inOrder : InOrder (chars ms) found.offsets
  negated : (found.group? 1).isSome = c.negated
  left : groupText? (chars ms) found 2 = some c.left
  operator : (groupText? (shown ms) found 3).bind operatorNamed? = some c.operator
  right : groupText? (chars ms) found 4 = some c.right

/-- The groups are those behind the front part, and one for the front part itself if there is a `not`. -/
theorem OperandsFound.sliced {negated : Bool} {found : Captures} {c : Comparison}
    (h : OperandsFound negated front ms groups found c)
    (first : negated = false ∧ front = [] ∧ groups = [] ∨
      negated = true ∧ groups = [(1, spanOf [] front)]) :
    ComparisonSliced (front ++ ms) found c := by
  obtain ⟨left, gap, sign, space, right, op, rfl, named, rfl, rfl⟩ := h.parts
  have behindLeft : front ++ (left ++ (gap ++ (sign ++ (space ++ right)))) =
      front ++ left ++ gap ++ (sign ++ (space ++ right)) := by
    simp only [List.append_assoc]
  have behindSign : front ++ (left ++ (gap ++ (sign ++ (space ++ right)))) =
      front ++ left ++ gap ++ sign ++ space ++ (right ++ []) := by
    simp only [List.append_assoc, List.append_nil]
  have leftText := slice?_chars front left (gap ++ (sign ++ (space ++ right)))
  have signText := slice?_shown (front ++ left ++ gap) sign (space ++ right)
  have rightText := slice?_chars (front ++ left ++ gap ++ sign ++ space) right []
  rw [← behindLeft] at signText
  rw [← behindSign] at rightText
  -- The offsets are the ends of these front parts, those of an operand in front of those of the next.
  let fronts := [front, front ++ left, front ++ left ++ gap, front ++ left ++ gap ++ sign,
    front ++ left ++ gap ++ sign ++ space, front ++ left ++ gap ++ sign ++ space ++ right,
    front ++ left ++ gap ++ sign ++ space ++ right]
  have longer : (fronts ++ [front ++ left ++ gap ++ sign ++ space ++ (right ++ [])]).IsChain
      (· <+: ·) := by
    simp only [fronts, List.cons_append, List.nil_append, List.isChain_cons_cons, List.prefix_append,
      List.prefix_refl, true_and, List.isChain_singleton, List.append_nil]
  rcases first with ⟨rfl, rfl, rfl⟩ | ⟨rfl, rfl⟩
  · refine ⟨?_, rfl, leftText, (congrArg (Option.bind · operatorNamed?) signText).trans named,
      rightText⟩
    rw [behindSign]
    have inOrder := inOrder_of_prefixes ([] :: fronts) (.cons_cons List.nil_prefix longer)
    rwa [List.append_nil] at inOrder ⊢
  · refine ⟨?_, rfl, leftText, (congrArg (Option.bind · operatorNamed?) signText).trans named,
      rightText⟩
    rw [behindSign]
    have inOrder := inOrder_of_prefixes ([] :: [] :: front :: fronts) (.cons_cons
      List.nil_prefix (.cons_cons List.nil_prefix (.cons_cons (List.prefix_refl _) longer)))
    rwa [List.append_nil] at inOrder ⊢

theorem ComparisonFound.sliced {found : Captures} {c : Comparison} (h : ComparisonFound ms found c) :
    ComparisonSliced ms found c := by
  cases h with
  | plain operands => exact operands.sliced (.inl ⟨rfl, rfl, rfl⟩)
  | negated whole operands =>
      subst whole
      exact operands.sliced (.inr ⟨rfl, rfl⟩)

theorem comparison_sliced (ends : EndsFilled (look ms)) :
    Option.Rel (ComparisonSliced ms) (comparisonPattern.captures? (shown ms)) (comparison? ms) :=
  related_imp (comparison_related ends) fun _ _ found => found.sliced

/-- What is negated can be sliced out of the text. -/
structure NegationSliced (ms : Masked) (found : Captures) (text : List Char) : Prop where
  inOrder : InOrder (chars ms) found.offsets
  negated : groupText? (chars ms) found 1 = some text

theorem negation_sliced (ends : EndsFilled (look ms)) :
    Option.Rel (NegationSliced ms) (negationPattern.captures? (shown ms)) (negation? ms) := by
  refine related_imp (negation_related ends) fun found text negation => ?_
  obtain ⟨lead, right, rfl, rfl, rfl⟩ := negation
  have text := slice?_chars lead right []
  rw [List.append_nil] at text
  have longer : ([[], lead, lead ++ right, lead ++ right] ++ [lead ++ right]).IsChain (· <+: ·) := by
    simp only [List.cons_append, List.nil_append, List.isChain_cons_cons, List.nil_prefix,
      List.prefix_append, List.prefix_refl, true_and, List.isChain_singleton]
  exact ⟨inOrder_of_prefixes _ longer, text⟩

end TextTemplate
