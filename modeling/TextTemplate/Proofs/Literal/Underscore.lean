import TextTemplate.Proofs.Literal.Integer

/-!
# Underscores in numbers

Deleting the underscores of a number leaves a number with the same value, with one exception: the
reader of integers refuses an underscore at the end, and the reader of doubles, which comes next,
deletes it. So the integer becomes a double there (`parse_without_underscores`).
-/

namespace TextTemplate.Literal

open TextTemplate.Text TextTemplate.Number

/-- The text without its underscores. -/
def withoutUnderscores (cs : List Char) : List Char := cs.filter (· != '_')

@[simp] theorem withoutUnderscores_cons_of_ne {c : Char} (h : c ≠ '_') (cs : List Char) :
    withoutUnderscores (c :: cs) = c :: withoutUnderscores cs :=
  List.filter_cons_of_pos (by simpa using h)

@[simp] theorem withoutUnderscores_underscore (cs : List Char) :
    withoutUnderscores ('_' :: cs) = withoutUnderscores cs :=
  List.filter_cons_of_neg (by simp)

@[simp] theorem withoutUnderscores_idem (cs : List Char) :
    withoutUnderscores (withoutUnderscores cs) = withoutUnderscores cs := by
  simp [withoutUnderscores, List.filter_filter]

theorem mem_withoutUnderscores {c : Char} {cs : List Char} :
    c ∈ withoutUnderscores cs ↔ c ∈ cs ∧ c ≠ '_' := by
  simp [withoutUnderscores]

/-! ## Scanning -/

/-- A text that is scanned as one number is scanned as one number without its underscores: a sign stands
directly behind an `e`, so no underscore is deleted in front of it. -/
theorem numberChars_withoutUnderscores {hexadecimal : Bool} {previous : Char} {raw : List Char}
    (h : numberChars hexadecimal previous raw = (raw, [])) {previous' : Char}
    (same : previous' = previous ∨ previous = '_') :
    numberChars hexadecimal previous' (withoutUnderscores raw) = (withoutUnderscores raw, []) := by
  induction raw generalizing previous previous' with
  | nil => rfl
  | cons c raw ih =>
      rw [numberChars] at h
      dsimp only at h
      split at h
      · next goesOn =>
          have rest : numberChars hexadecimal c raw = (raw, []) := by
            rcases hmore : numberChars hexadecimal c raw with ⟨raw', rest'⟩
            rw [hmore] at h
            simpa using h
          by_cases underscore : c = '_'
          · rw [underscore, withoutUnderscores_underscore]
            exact ih rest (.inr underscore)
          · have goesOn' : (c.isAlphanum || c = '_' || c = '.' || ((c = '-' || c = '+') &&
                (previous' = 'e' || previous' = 'E') && !hexadecimal)) = true := by
              rcases same with rfl | rfl
              · exact goesOn
              · have noExponent : ('_' = 'e' || '_' = 'E') = false := by decide
                rw [noExponent, Bool.and_false, Bool.false_and, Bool.or_false] at goesOn
                rw [goesOn, Bool.true_or]
            rw [withoutUnderscores_cons_of_ne underscore, numberChars]
            dsimp only
            rw [if_pos goesOn', ih rest (.inl rfl)]
      · simp at h

theorem takeSign_withoutUnderscores {c : Char} (h : c ≠ '_') (cs : List Char) :
    takeSign (withoutUnderscores (c :: cs)) =
      ((takeSign (c :: cs)).1, withoutUnderscores (takeSign (c :: cs)).2) := by
  rw [withoutUnderscores_cons_of_ne h]
  by_cases minus : c = '-'
  · rw [minus]
    rfl
  · by_cases plus : c = '+'
    · rw [plus]
      rfl
    · simp [takeSign, minus, plus, h]

/-! ## Integers -/

theorem radixOf_cases (raw : List Char) :
    (∃ mark radix digits, (mark, radix) ∈ radixMarks ∧ mark ≠ [] ∧ raw = mark ++ digits) ∨
      radixOf raw = (10, raw) := by
  unfold radixOf
  split
  · exact .inl ⟨['0', 'b'], 2, _, by decide, by decide, rfl⟩
  · exact .inl ⟨['0', 'B'], 2, _, by decide, by decide, rfl⟩
  · exact .inl ⟨['0', 'o'], 8, _, by decide, by decide, rfl⟩
  · exact .inl ⟨['0', 'O'], 8, _, by decide, by decide, rfl⟩
  · exact .inl ⟨['0', 'x'], 16, _, by decide, by decide, rfl⟩
  · exact .inl ⟨['0', 'X'], 16, _, by decide, by decide, rfl⟩
  · exact .inr rfl

theorem isDigit_of_digitValue {c : Char} {d : Nat} (h : digitValue 10 c = some d) :
    c.isDigit = true := by
  by_contra other
  unfold digitValue at h
  simp only [if_neg other] at h
  -- A letter stands for ten or more.
  split_ifs at h <;> omega

theorem forall_isDigit_of_foldlM {negative : Bool} {cs : List Char} {n i : Int64}
    (h : cs.foldlM (addDigit 10 negative) n = some i) : ∀ c ∈ cs, c.isDigit = true := by
  induction cs generalizing n with
  | nil => exact List.forall_mem_nil _
  | cons c cs ih =>
      rw [List.foldlM_cons] at h
      obtain ⟨m, step, rest⟩ := Option.bind_eq_some_iff.mp h
      obtain ⟨d, digit, -⟩ := Option.bind_eq_some_iff.mp step
      exact List.forall_mem_cons.mpr ⟨isDigit_of_digitValue digit, ih rest⟩

/-- What the reading of an integer says about its text. -/
theorem integer?_eq_some {negative : Bool} {raw : List Char} {i : Int64} :
    integer? negative raw = some i ↔ (radixOf raw).2 ≠ [] ∧ (radixOf raw).2.getLast? ≠ some '_' ∧
      (withoutUnderscores (radixOf raw).2).foldlM (addDigit (radixOf raw).1 negative) 0 = some i := by
  rw [integer?]
  dsimp only
  split
  · next refused =>
      simp only [Bool.or_eq_true, List.isEmpty_iff, beq_iff_eq] at refused
      simp only [reduceCtorEq, false_iff, not_and]
      exact fun nonempty last => absurd refused (not_or.mpr ⟨nonempty, last⟩)
  · next accepted =>
      simp only [Bool.or_eq_true, List.isEmpty_iff, beq_iff_eq, not_or] at accepted
      exact ⟨fun h => ⟨accepted.1, accepted.2, h⟩, fun h => h.2.2⟩

theorem withoutUnderscores_ne_nil {cs : List Char} (nonempty : cs ≠ [])
    (last : cs.getLast? ≠ some '_') : withoutUnderscores cs ≠ [] := by
  obtain ⟨c, hc⟩ := Option.isSome_iff_exists.mp (List.getLast?_isSome.mpr nonempty)
  have other : c ≠ '_' := by
    rintro rfl
    exact last hc
  exact List.ne_nil_of_mem (mem_withoutUnderscores.mpr ⟨List.mem_of_getLast? hc, other⟩)

theorem getLast?_withoutUnderscores (cs : List Char) :
    (withoutUnderscores cs).getLast? ≠ some '_' :=
  fun last => (mem_withoutUnderscores.mp (List.mem_of_getLast? last)).2 rfl

theorem isHexadecimal_mark {mark : List Char} {radix : Nat} (hmark : (mark, radix) ∈ radixMarks)
    (marked : mark ≠ []) (digits : List Char) :
    isHexadecimal (mark ++ digits) = isHexadecimal mark := by
  simp only [radixMarks, List.mem_cons, Prod.mk.injEq, List.not_mem_nil, or_false] at hmark
  rcases hmark with ⟨rfl, -⟩ | hmark
  · exact absurd rfl marked
  · rcases hmark with ⟨rfl, -⟩ | ⟨rfl, -⟩ | ⟨rfl, -⟩ | ⟨rfl, -⟩ | ⟨rfl, -⟩ | ⟨rfl, -⟩ <;> rfl

/-- A text that is scanned as a hexadecimal number has the mark of one. -/
theorem exists_of_isHexadecimal {raw : List Char} (h : isHexadecimal raw = true) :
    ∃ digits, raw = ['0', 'x'] ++ digits := by
  obtain ⟨digits, same⟩ := List.isPrefixOf_iff_prefix.mp h
  exact ⟨digits, same.symm⟩

theorem not_isHexadecimal_of_decimal {raw : List Char} (h : radixOf raw = (10, raw)) :
    isHexadecimal raw = false := by
  by_contra marked
  obtain ⟨digits, rfl⟩ := exists_of_isHexadecimal (by simpa using marked)
  rw [radixOf_mark (show (['0', 'x'], 16) ∈ radixMarks by decide) (List.cons_ne_nil _ _)] at h
  cases h

/-- No integer ends with an underscore. -/
theorem getLast?_of_integer? {negative : Bool} {raw : List Char} {i : Int64}
    (h : integer? negative raw = some i) : raw.getLast? ≠ some '_' := by
  obtain ⟨nonempty, last, -⟩ := integer?_eq_some.mp h
  rcases radixOf_cases raw with ⟨mark, radix, digits, hmark, marked, rfl⟩ | decimal
  · rw [radixOf_mark hmark marked] at nonempty last
    rwa [List.getLast?_append_of_ne_nil _ nonempty]
  · rwa [decimal] at last

/-- An integer is the same integer without its underscores. -/
theorem integer?_withoutUnderscores {negative : Bool} {raw : List Char} {i : Int64}
    (h : integer? negative raw = some i) :
    integer? negative (withoutUnderscores raw) = some i ∧
      isHexadecimal (withoutUnderscores raw) = isHexadecimal raw := by
  obtain ⟨nonempty, last, taken⟩ := integer?_eq_some.mp h
  rcases radixOf_cases raw with ⟨mark, radix, digits, hmark, marked, rfl⟩ | decimal
  · rw [radixOf_mark hmark marked] at nonempty last taken
    have cleaned : withoutUnderscores (mark ++ digits) = mark ++ withoutUnderscores digits :=
      filter_mark hmark digits
    constructor
    · rw [cleaned, integer?_eq_some, radixOf_mark hmark marked, withoutUnderscores_idem]
      exact ⟨withoutUnderscores_ne_nil nonempty last, getLast?_withoutUnderscores _, taken⟩
    · rw [cleaned, isHexadecimal_mark hmark marked, isHexadecimal_mark hmark marked]
  · rw [decimal] at nonempty last taken
    have digits := forall_isDigit_of_foldlM taken
    have decimal' := radixOf_decimal fun c hc => .inl (digits c hc)
    constructor
    · rw [integer?_eq_some, decimal', withoutUnderscores_idem]
      exact ⟨withoutUnderscores_ne_nil nonempty last, getLast?_withoutUnderscores _, taken⟩
    · rw [not_isHexadecimal_of_decimal decimal, not_isHexadecimal_of_decimal decimal']

/-- A decimal integer is one with its underscores, unless one of them stands at the end. -/
theorem integer?_of_withoutUnderscores {negative : Bool} {raw : List Char} {i : Int64}
    (h : integer? negative (withoutUnderscores raw) = some i)
    (decimal : radixOf (withoutUnderscores raw) = (10, withoutUnderscores raw))
    (last : raw.getLast? ≠ some '_') : integer? negative raw = some i := by
  obtain ⟨nonempty, -, taken⟩ := integer?_eq_some.mp h
  rw [decimal, withoutUnderscores_idem] at taken
  rw [decimal] at nonempty
  have digits := forall_isDigit_of_foldlM taken
  have decimal' : radixOf raw = (10, raw) := by
    refine radixOf_decimal fun c hc => ?_
    by_cases underscore : c = '_'
    · exact .inr underscore
    · exact .inl (digits c (mem_withoutUnderscores.mpr ⟨hc, underscore⟩))
  rw [integer?_eq_some, decimal']
  refine ⟨?_, last, taken⟩
  rintro rfl
  exact nonempty rfl

/-! ## Doubles -/

/-- What the reading of a double says about its text. -/
theorem double?_eq_some {negative : Bool} {raw : List Char} {x : Float}
    (h : double? negative raw = some x) :
    (∃ c rest, raw = c :: rest ∧ (c.isDigit = true ∨ c = '.')) ∧
      readMagnitude negative (withoutUnderscores raw) = some x := by
  unfold double? at h
  split at h
  · cases h
  · next c rest =>
      split at h
      · next start =>
          exact ⟨⟨c, rest, rfl, by simpa using start⟩, (Option.filter_eq_some_iff.mp h).1⟩
      · cases h

theorem double?_withoutUnderscores {negative : Bool} {raw : List Char} {x : Float}
    (h : double? negative raw = some x) : double? negative (withoutUnderscores raw) = some x := by
  obtain ⟨⟨c, rest, rfl, start⟩, -⟩ := double?_eq_some h
  have other : c ≠ '_' := by
    rintro rfl
    simp at start
  have cleaned := withoutUnderscores_idem (c :: rest)
  rw [withoutUnderscores_cons_of_ne other] at cleaned ⊢
  rw [← h]
  unfold double?
  dsimp only
  rw [show (c :: withoutUnderscores rest).filter (· != '_') = c :: withoutUnderscores rest from cleaned,
    show (c :: rest).filter (· != '_') = c :: withoutUnderscores rest from
      withoutUnderscores_cons_of_ne other rest]

/-- The text of a double has no mark of a radix. -/
theorem radixOf_of_readMagnitude {negative : Bool} {raw : List Char} {x : Float}
    (h : readMagnitude negative raw = some x) : radixOf raw = (10, raw) := by
  rcases radixOf_cases raw with ⟨mark, radix, digits, hmark, marked, rfl⟩ | decimal
  · rw [readMagnitude_marked hmark marked] at h
    cases h
  · exact decimal

/-- The characters of a number stand for the same without their underscores, unless they end with one
and are an integer without it. -/
theorem numeral_withoutUnderscores {negative : Bool} {raw : List Char} {v : Value}
    (h : numeral negative raw = some v) :
    isHexadecimal (withoutUnderscores raw) = isHexadecimal raw ∧
      ∃ w, numeral negative (withoutUnderscores raw) = some w ∧
        (w = v ↔ ¬ (raw.getLast? = some '_' ∧ ∃ i, w = .integer i)) ∧
        (w ≠ v → ∃ x, v = .float x ∧ double? negative raw = some x) := by
  rw [numeral] at h
  split at h
  · next i hi =>
      cases h
      obtain ⟨same, hexadecimal⟩ := integer?_withoutUnderscores hi
      refine ⟨hexadecimal, .integer i, by rw [numeral, same], ?_, fun other => absurd rfl other⟩
      exact iff_of_true rfl fun ended => getLast?_of_integer? hi ended.1
  · next noInteger =>
      obtain ⟨x, hx, rfl⟩ := Option.map_eq_some_iff.mp h
      obtain ⟨-, magnitude⟩ := double?_eq_some hx
      have decimal := radixOf_of_readMagnitude magnitude
      constructor
      · have noMark := not_isHexadecimal_of_decimal decimal
        cases hexadecimal : isHexadecimal raw with
        | false => exact noMark
        | true =>
            obtain ⟨digits, rfl⟩ := exists_of_isHexadecimal hexadecimal
            have hmark : (['0', 'x'], 16) ∈ radixMarks := by decide
            rw [withoutUnderscores, filter_mark hmark, readMagnitude_marked hmark (List.cons_ne_nil _ _)] at magnitude
            cases magnitude
      · cases hi : integer? negative (withoutUnderscores raw) with
        | none =>
            refine ⟨.float x, ?_, iff_of_true rfl ?_, fun other => absurd rfl other⟩
            · rw [numeral, hi, double?_withoutUnderscores hx]
              rfl
            · rintro ⟨-, i, ⟨⟩⟩
        | some i =>
            have other : Value.integer i ≠ .float x := by
              intro same
              cases same
            refine ⟨.integer i, by rw [numeral, hi], iff_of_false other ?_, fun _ => ⟨x, rfl, hx⟩⟩
            rw [not_not]
            refine ⟨?_, i, rfl⟩
            by_contra last
            rw [integer?_of_withoutUnderscores hi decimal last] at noInteger
            cases noInteger

/-! ## Numbers -/

/-- A text whose characters behind the sign are all scanned stands for what they stand for. -/
theorem parseChars_of_numeral {cs raw : List Char} {negative : Bool} {v : Value} (text : NumberText cs)
    (signed : takeSign cs = (negative, raw))
    (scanned : numberChars (isHexadecimal raw) ' ' raw = (raw, []))
    (hv : numeral negative raw = some v) : parseChars cs = some v := by
  rw [parseChars_number text, number_run, signed]
  dsimp only
  rw [scanned]
  dsimp only
  rw [hv]
  rfl

theorem toLower_of_isDigit {c : Char} (h : c.isDigit = true) : c.toLower = c := by
  simp only [Char.isDigit, Bool.and_eq_true, decide_eq_true_eq, UInt32.le_iff_toNat_le] at h
  have codes : '9'.val.toNat = 57 ∧ 'A'.val.toNat = 65 := ⟨rfl, rfl⟩
  unfold Char.toLower
  rw [dif_neg]
  rintro ⟨low, -⟩
  rw [ge_iff_le, UInt32.le_iff_toNat_le] at low
  omega

/-- What is read as a double in a literal is read as the same double on its own. -/
theorem readDouble_eq {cs : List Char} {x : Float}
    (h : double? (takeSign cs).1 (takeSign cs).2 = some x) :
    readDouble cs = readMagnitude (takeSign cs).1 (takeSign cs).2 := by
  rcases hsign : takeSign cs with ⟨negative, raw⟩
  rw [hsign] at h
  obtain ⟨⟨c, rest, rfl, start⟩, -⟩ := double?_eq_some h
  have noWord : c.toLower ≠ 'i' ∧ c.toLower ≠ 'n' := by
    rcases start with digit | rfl
    · rw [toLower_of_isDigit digit]
      constructor <;>
        · rintro rfl
          cases digit
    · decide
  rw [readDouble, hsign]
  dsimp only
  rw [List.map_cons]
  split <;> simp_all

/-- A number without its underscores is a number, too, with the same value of the same kind exactly if
the text does not end with an underscore or is no integer without it. If it is one, the text is the double
that the rest is read as. -/
theorem parse_without_underscores {cs : List Char} {v : Value} (text : NumberText cs)
    (reads : parseChars cs = some v) :
    ∃ w, parseChars (withoutUnderscores cs) = some w ∧
      (w = v ↔ ¬ (cs.getLast? = some '_' ∧ ∃ i, w = .integer i)) ∧
      (w ≠ v → ∃ x, v = .float x ∧ readDouble (withoutUnderscores cs) = some x) := by
  obtain ⟨c, rest, whole, start⟩ := text.start
  have other : c ≠ '_' := by
    rintro rfl
    simp [StartsNumber] at start
  have signed := takeSign_withoutUnderscores other rest
  rw [← whole] at signed
  -- The characters behind the sign are one number.
  rw [parseChars_number text, number_run] at reads
  rcases hchars : numberChars (isHexadecimal (takeSign cs).2) ' ' (takeSign cs).2 with ⟨raw, rest'⟩
  rw [hchars] at reads
  obtain ⟨v', hv, same⟩ := Option.map_eq_some_iff.mp reads
  cases same
  obtain ⟨hraw, -⟩ := numberChars_append hchars
  rw [List.append_nil] at hraw
  rw [hraw] at hchars signed
  obtain ⟨hexadecimal, w, hw, kept, changed⟩ := numeral_withoutUnderscores hv
  have scanned := numberChars_withoutUnderscores hchars (.inl rfl)
  have cleaned : NumberText (withoutUnderscores cs) := by
    refine ⟨⟨c, withoutUnderscores rest, ?_, start⟩, fun d hd => ?_⟩
    · rw [whole, withoutUnderscores_cons_of_ne other]
    · exact text.chars d (mem_withoutUnderscores.mp hd).1
  have last : cs.getLast? = raw.getLast? := by
    obtain ⟨sign, -, front⟩ := exists_sign cs
    have nonempty : raw ≠ [] := by
      rintro rfl
      cases hv
    rw [front, hraw, List.getLast?_append_of_ne_nil _ nonempty]
  refine ⟨w, ?_, by rwa [last], fun differs => ?_⟩
  · rw [← hexadecimal] at scanned
    exact parseChars_of_numeral cleaned signed scanned hw
  · obtain ⟨x, rfl, hx⟩ := changed differs
    have hx' : double? (takeSign (withoutUnderscores cs)).1 (takeSign (withoutUnderscores cs)).2 =
        some x := by
      rw [signed]
      exact double?_withoutUnderscores hx
    refine ⟨x, rfl, ?_⟩
    rw [readDouble_eq hx', signed]
    exact (double?_eq_some hx).2

/-- A double with underscores in all of its parts. -/
theorem parse_without_underscores_double :
    NumberText "-1_0._5_e-_1".toList ∧
      parseChars "-1_0._5_e-_1".toList = some (.float (ofDecimal true 105 (-2))) ∧
      parseChars "-10.5e-1".toList = some (.float (ofDecimal true 105 (-2))) := by
  have chars : "-1_0._5_e-_1".toList.all isNumberChar = true := by decide
  have text : NumberText "-1_0._5_e-_1".toList :=
    ⟨⟨'-', _, rfl, .inr (.inl rfl)⟩, List.all_eq_true.mp chars⟩
  have noInteger : integer? true "1_0._5_e-_1".toList = none := by decide
  have double : double? true "1_0._5_e-_1".toList = some (ofDecimal true 105 (-2)) := by decide +kernel
  have hv : numeral true "1_0._5_e-_1".toList = some (.float (ofDecimal true 105 (-2))) := by
    rw [numeral, noInteger, double]
    rfl
  have signed : takeSign "-1_0._5_e-_1".toList = (true, "1_0._5_e-_1".toList) := by decide
  have scanned : numberChars (isHexadecimal "1_0._5_e-_1".toList) ' ' "1_0._5_e-_1".toList =
      ("1_0._5_e-_1".toList, []) := by decide
  have reads : parseChars "-1_0._5_e-_1".toList = some (.float (ofDecimal true 105 (-2))) :=
    parseChars_of_numeral text signed scanned hv
  have cleaned : withoutUnderscores "-1_0._5_e-_1".toList = "-10.5e-1".toList := by decide
  obtain ⟨w, hw, kept, -⟩ := parse_without_underscores text reads
  obtain rfl := kept.mpr fun ended => absurd ended.1 (by decide)
  rw [cleaned] at hw
  exact ⟨text, reads, hw⟩

/-- An integer with an underscore at the end is a double. -/
theorem parse_last_underscore :
    parseChars ['7', '_'] = some (.float (ofDecimal false 7 0)) ∧
      parseChars ['7'] = some (.integer 7) := by
  have ended : NumberText ['7', '_'] := by
    refine ⟨⟨'7', ['_'], rfl, .inl rfl⟩, List.all_eq_true.mp ?_⟩
    decide
  have plain : NumberText ['7'] := by
    refine ⟨⟨'7', [], rfl, .inl rfl⟩, List.all_eq_true.mp ?_⟩
    decide
  have noInteger : integer? false ['7', '_'] = none := by decide
  have integer : integer? false ['7'] = some 7 := by decide
  have double : double? false ['7', '_'] = some (ofDecimal false 7 0) := by decide +kernel
  have float : numeral false ['7', '_'] = some (.float (ofDecimal false 7 0)) := by
    rw [numeral, noInteger, double]
    rfl
  have whole : numeral false ['7'] = some (.integer 7) := by
    rw [numeral, integer]
  constructor
  · exact parseChars_of_numeral ended rfl (by decide) float
  · exact parseChars_of_numeral plain rfl (by decide) whole

end TextTemplate.Literal
