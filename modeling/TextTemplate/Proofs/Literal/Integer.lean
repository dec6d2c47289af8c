import TextTemplate.Proofs.Literal.Reading
import TextTemplate.Proofs.Result

/-!
# Integers

The digits of an integer are taken in one by one, and each step has to stay within 64 bits. For a
minus the digits are subtracted, so that the magnitude grows towards the limit that belongs to the
sign; no step leaves the range before the whole number does. So an integer is read exactly if its value
fits, whatever its radix and the number of its digits (`parse_integer_exact`).
-/

namespace TextTemplate.Literal

open TextTemplate.Text TextTemplate.Number

/-! ## Machine integers -/

/-- A magnitude with a sign. -/
def signed (negative : Bool) (n : Nat) : Int := if negative then -(n : Int) else n

/-- The integer is within 64 bits. -/
def Fits (n : Int) : Prop := -2 ^ 63 ≤ n ∧ n < 2 ^ 63

theorem fits_toInt (i : Int64) : Fits i.toInt := ⟨i.le_toInt, i.toInt_lt⟩

theorem fitting?_of_fits {n : Int} (h : Fits n) : fitting? n = some (Int64.ofInt n) := by
  obtain ⟨low, high⟩ := h
  rw [fitting?, Int64.toInt_minValue, Int64.toInt_maxValue, if_pos]
  rw [Bool.and_eq_true, decide_eq_true_eq, decide_eq_true_eq]
  omega

theorem fitting?_eq_none {n : Int} (h : ¬ Fits n) : fitting? n = none := by
  rw [fitting?, Int64.toInt_minValue, Int64.toInt_maxValue, if_neg]
  rw [Bool.and_eq_true, decide_eq_true_eq, decide_eq_true_eq]
  rintro ⟨low, high⟩
  exact h ⟨low, by omega⟩

theorem toInt_of_fits {n : Int} (h : Fits n) : (Int64.ofInt n).toInt = n :=
  Int64.toInt_ofInt_of_le h.1 h.2

theorem fitting?_eq_some {n : Int} {i : Int64} : fitting? n = some i ↔ i.toInt = n := by
  constructor
  · intro h
    by_cases fits : Fits n
    · rw [fitting?_of_fits fits] at h
      cases h
      exact toInt_of_fits fits
    · rw [fitting?_eq_none fits] at h
      cases h
  · rintro rfl
    rw [fitting?_of_fits (fits_toInt i), Int64.ofInt_toInt]

/-- What is nearer to zero fits, too. -/
theorem Fits.mono {negative : Bool} {a b : Nat} (h : Fits (signed negative b)) (le : a ≤ b) :
    Fits (signed negative a) := by
  cases negative <;> simp only [Fits, signed, if_true, Bool.false_eq_true, if_false] at h ⊢ <;> omega

/-! ## Digits -/

def lowerDigits : List Char :=
  ['0', '1', '2', '3', '4', '5', '6', '7', '8', '9', 'a', 'b', 'c', 'd', 'e', 'f']

def upperDigits : List Char :=
  ['0', '1', '2', '3', '4', '5', '6', '7', '8', '9', 'A', 'B', 'C', 'D', 'E', 'F']

/-- The character is a digit of the radix with the given value. -/
def IsDigit (radix : Nat) (c : Char) (d : Nat) : Prop :=
  d < radix ∧ (lowerDigits[d]? = some c ∨ upperDigits[d]? = some c)

instance (radix : Nat) (c : Char) (d : Nat) : Decidable (IsDigit radix c d) :=
  inferInstanceAs (Decidable (_ ∧ _))

theorem IsDigit.digitValue {radix d : Nat} {c : Char} (h : IsDigit radix c d) :
    digitValue radix c = some d := by
  obtain ⟨small, shown⟩ := h
  have bound : d < 16 := by
    rcases shown with shown | shown <;> exact (List.getElem?_eq_some_iff.mp shown).1
  interval_cases d <;> rcases shown with shown | shown <;>
    · obtain rfl := Option.some.inj shown
      exact if_pos small

/-- The values of the characters, which are digits of the radix. -/
abbrev DigitValues (radix : Nat) : List Char → List Nat → Prop := List.Forall₂ (IsDigit radix)

/-- The number with the given digits, the most significant one first. -/
def ofDigits (radix : Nat) (ds : List Nat) : Nat := Nat.ofDigits radix ds.reverse

theorem ofDigits_append (radix : Nat) (front behind : List Nat) :
    ofDigits radix (front ++ behind) =
      ofDigits radix front * radix ^ behind.length + ofDigits radix behind := by
  rw [ofDigits, List.reverse_append, Nat.ofDigits_append, List.length_reverse, ofDigits, ofDigits]
  ring

theorem ofDigits_cons (radix d : Nat) (ds : List Nat) :
    ofDigits radix (d :: ds) = d * radix ^ ds.length + ofDigits radix ds := by
  have single : ofDigits radix [d] = d := Nat.ofDigits_singleton
  rw [← List.singleton_append, ofDigits_append, single]

/-- The number so far times the radix is nearer to zero than the number with one more digit, so it is
the number with the digit that decides whether a step fails. -/
theorem addDigit_eq {radix d a : Nat} {c : Char} {negative : Bool} {n : Int64}
    (digit : IsDigit radix c d) (hn : n.toInt = signed negative a) :
    addDigit radix negative n c = fitting? (signed negative (a * radix + d)) := by
  have scaled : n.toInt * radix = signed negative (a * radix) := by
    rw [hn]
    cases negative <;> simp [signed]
  have added : (if negative then signed negative (a * radix) - d else signed negative (a * radix) + d) =
      signed negative (a * radix + d) := by
    cases negative <;> simp only [signed, if_true, Bool.false_eq_true, if_false] <;> push_cast <;> ring
  rw [addDigit, digit.digitValue, Option.bind_some, scaled]
  by_cases fits : Fits (signed negative (a * radix))
  · rw [fitting?_of_fits fits, Option.bind_some, toInt_of_fits fits, added]
  · have outside : ¬ Fits (signed negative (a * radix + d)) := fun h => fits (h.mono (Nat.le_add_right _ _))
    rw [fitting?_eq_none fits, fitting?_eq_none outside, Option.bind_none]

/-- Taking in digits one by one gives the whole number if it fits, and fails if it does not. -/
theorem foldlM_addDigit {radix : Nat} {negative : Bool} {cs : List Char} {ds : List Nat}
    (digits : DigitValues radix cs ds) {a : Nat} {n : Int64} (hn : n.toInt = signed negative a) :
    cs.foldlM (addDigit radix negative) n =
      fitting? (signed negative (a * radix ^ ds.length + ofDigits radix ds)) := by
  induction digits generalizing a n with
  | nil =>
      have alone : a * radix ^ ([] : List Nat).length + ofDigits radix [] = a := by
        simp [ofDigits]
      rw [alone, List.foldlM_nil]
      exact (fitting?_eq_some.mpr hn).symm
  | @cons c d cs ds digit _ ih =>
      have whole : a * radix ^ (d :: ds).length + ofDigits radix (d :: ds) =
          (a * radix + d) * radix ^ ds.length + ofDigits radix ds := by
        rw [ofDigits_cons, List.length_cons]
        ring
      rw [List.foldlM_cons, addDigit_eq digit hn, whole]
      cases step : fitting? (signed negative (a * radix + d)) with
      | some m => exact ih (fitting?_eq_some.mp step)
      | none =>
          have positive : 0 < radix := Nat.zero_lt_of_lt digit.1
          have outside : ¬ Fits (signed negative ((a * radix + d) * radix ^ ds.length + ofDigits radix ds)) := by
            intro fits
            have within := fits.mono (a := a * radix + d)
              ((Nat.le_mul_of_pos_right _ (Nat.pow_pos positive)).trans (Nat.le_add_right _ _))
            rw [fitting?_of_fits within] at step
            cases step
          rw [fitting?_eq_none outside]
          rfl

/-! ## Texts of integers -/

/-- Digits of the radix with underscores that are neither in front nor behind, and the values of the
digits. -/
structure DigitText (radix : Nat) (text : List Char) (ds : List Nat) : Prop where
  values : DigitValues radix (text.filter (· != '_')) ds
  first : text.head? ≠ some '_'
  last : text.getLast? ≠ some '_'
  nonempty : text ≠ []

/-- What may stand in front of a number, and whether it makes it negative. -/
def signs : List (List Char × Bool) := [([], false), (['+'], false), (['-'], true)]

/-- What may stand in front of digits, and the radix that it gives them. -/
def radixMarks : List (List Char × Nat) :=
  [([], 10), (['0', 'b'], 2), (['0', 'B'], 2), (['0', 'o'], 8), (['0', 'O'], 8), (['0', 'x'], 16),
    (['0', 'X'], 16)]

theorem IsDigit.isAlphanum {radix d : Nat} {c : Char} (h : IsDigit radix c d) : c.isAlphanum = true := by
  have digits : (lowerDigits ++ upperDigits).all Char.isAlphanum = true := by decide
  refine List.all_eq_true.mp digits c (List.mem_append.mpr ?_)
  exact h.2.imp List.mem_of_getElem? List.mem_of_getElem?

theorem IsDigit.isDigit {d : Nat} {c : Char} (h : IsDigit 10 c d) : c.isDigit = true := by
  obtain ⟨small, shown⟩ := h
  have digits : ∀ d < 10, ∀ x, (lowerDigits[d]? = some x ∨ upperDigits[d]? = some x) → x.isDigit = true := by
    intro d small x shown
    interval_cases d <;> rcases shown with shown | shown <;>
      · obtain rfl := Option.some.inj shown
        rfl
  exact digits d small c shown

/-- Digits and underscores. -/
def IsPlain (text : List Char) : Prop := ∀ c ∈ text, c.isAlphanum = true ∨ c = '_'

theorem numberChars_plain {text : List Char} (h : IsPlain text) (hexadecimal : Bool) (previous : Char) :
    numberChars hexadecimal previous text = (text, []) := by
  induction text generalizing previous with
  | nil => rfl
  | cons c text ih =>
      obtain ⟨here, rest⟩ := List.forall_mem_cons.mp h
      rw [numberChars, ih rest]
      dsimp only
      rw [if_pos]
      rcases here with alphanum | rfl
      · simp [alphanum]
      · simp

namespace DigitText

variable {radix : Nat} {digits : List Char} {ds : List Nat} (h : DigitText radix digits ds)
include h

theorem digit_of_mem {c : Char} (hc : c ∈ digits) : c = '_' ∨ ∃ d, IsDigit radix c d := by
  by_cases underscore : c = '_'
  · exact .inl underscore
  · have known := forall_mem_of_forall₂ h.values (P := fun c => ∃ d, IsDigit radix c d)
      fun c d digit => ⟨d, digit⟩
    exact .inr (known c (List.mem_filter.mpr ⟨hc, by simpa using underscore⟩))

theorem isPlain : IsPlain digits := by
  intro c hc
  rcases h.digit_of_mem hc with underscore | ⟨d, digit⟩
  · exact .inr underscore
  · exact .inl digit.isAlphanum

end DigitText

/-- Decimal digits are not mistaken for the mark of a radix. -/
theorem radixOf_decimal {digits : List Char} (h : ∀ c ∈ digits, c.isDigit = true ∨ c = '_') :
    radixOf digits = (10, digits) := by
  unfold radixOf
  split <;> simp_all

theorem radixOf_mark {mark : List Char} {radix : Nat} (hmark : (mark, radix) ∈ radixMarks)
    (marked : mark ≠ []) (digits : List Char) : radixOf (mark ++ digits) = (radix, digits) := by
  simp only [radixMarks, List.mem_cons, Prod.mk.injEq, List.not_mem_nil, or_false] at hmark
  rcases hmark with ⟨rfl, -⟩ | hmark
  · exact absurd rfl marked
  · rcases hmark with ⟨rfl, rfl⟩ | ⟨rfl, rfl⟩ | ⟨rfl, rfl⟩ | ⟨rfl, rfl⟩ | ⟨rfl, rfl⟩ | ⟨rfl, rfl⟩ <;>
      rfl

/-- No mark holds an underscore. -/
theorem filter_mark {mark : List Char} {radix : Nat} (hmark : (mark, radix) ∈ radixMarks)
    (digits : List Char) : (mark ++ digits).filter (· != '_') = mark ++ digits.filter (· != '_') := by
  have kept : ∀ entry ∈ radixMarks, entry.1.filter (· != '_') = entry.1 := by decide
  rw [List.filter_append, kept _ hmark]

theorem radix_of_unmarked {radix : Nat} (hmark : ([], radix) ∈ radixMarks) : radix = 10 := by
  simpa [radixMarks] using hmark

theorem radixOf_marked {mark digits : List Char} {radix : Nat} {ds : List Nat}
    (hmark : (mark, radix) ∈ radixMarks) (h : DigitText radix digits ds) :
    radixOf (mark ++ digits) = (radix, digits) := by
  by_cases marked : mark = []
  · subst marked
    obtain rfl := radix_of_unmarked hmark
    refine radixOf_decimal fun c hc => ?_
    rcases h.digit_of_mem hc with underscore | ⟨d, digit⟩
    · exact .inr underscore
    · exact .inl digit.isDigit
  · exact radixOf_mark hmark marked digits

/-- The digits of an integer are taken in from zero on. -/
theorem integer?_marked {mark digits : List Char} {radix : Nat} {ds : List Nat}
    (hmark : (mark, radix) ∈ radixMarks) (h : DigitText radix digits ds) (negative : Bool) :
    integer? negative (mark ++ digits) = fitting? (signed negative (ofDigits radix ds)) := by
  have nonempty : digits.isEmpty = false := List.isEmpty_eq_false_iff.mpr h.nonempty
  have last : (digits.getLast? == some '_') = false := by simpa using h.last
  have zero : (0 : Int64).toInt = signed negative 0 := by cases negative <;> rfl
  have taken := foldlM_addDigit h.values zero
  rw [Nat.zero_mul, Nat.zero_add] at taken
  rw [integer?, radixOf_marked hmark h]
  dsimp only
  rw [nonempty, last, Bool.or_self, if_neg Bool.false_ne_true, taken]

/-! ## Whole texts -/

/-- Whether an item that starts with the character is read as a number. -/
def StartsNumber (c : Char) : Prop := c.isDigit = true ∨ c = '-' ∨ c = '+' ∨ c = '.'

/-- The text has the characters of a number and starts like one. -/
structure NumberText (cs : List Char) : Prop where
  start : ∃ c rest, cs = c :: rest ∧ StartsNumber c
  chars : ∀ c ∈ cs, isNumberChar c = true

theorem filled_of_isNumberChar {c : Char} (h : isNumberChar c = true) : isBlank c = false ∧ c ∉ marks :=
  filled_of_not_stops (not_stops_of_isNumberChar h [])

/-- What starts like a number is a number, if it is an item at all. -/
theorem Written.number {depth : Nat} {c : Char} {rest : List Char} {v : Value}
    (start : StartsNumber c) (h : Written depth (c :: rest) v) : number (c :: rest) = some (v, []) := by
  have noBracket : ∀ d ∈ ['[', '(', '\x7b'], ¬ StartsNumber d := by simp [StartsNumber]
  have atom := h.atom fun bracket => noBracket c bracket start
  generalize whole : c :: rest = text at atom ⊢
  cases atom with
  | string hquote text =>
      cases whole
      rcases hquote with rfl | rfl <;> simp [StartsNumber] at start
  | number _ reads => exact reads
  | constant means =>
      have other : ∀ word ∈ constantWords, ∀ c ∈ word.head?, ¬ StartsNumber c := by
        simp [constantWords, StartsNumber]
      have known := mem_constantWords means
      rw [← whole] at known
      exact absurd start (other _ known c rfl)

/-- The text of a number is read as a number or not at all. -/
theorem parseChars_number {cs : List Char} (h : NumberText cs) {v : Value} :
    parseChars cs = some v ↔ number cs = some (v, []) := by
  have noBlanks : ∀ {gap : List Char}, Blanks gap → gap ⊆ cs → gap = [] := by
    intro gap blank inside
    cases gap with
    | nil => rfl
    | cons d gap =>
        have filled := (filled_of_isNumberChar (h.chars d (inside List.mem_cons_self))).1
        rw [(blanks_cons.mp blank).1] at filled
        cases filled
  obtain ⟨c, rest, same, start⟩ := h.start
  constructor
  · intro reads
    obtain ⟨items, comma, members, hv⟩ := parseChars_eq_some.mp reads
    cases members with
    | none blank =>
        rw [noBlanks blank (List.Subset.refl _)] at same
        cases same
    | @last lead text trail a before here behind =>
        obtain rfl := noBlanks before (by simp)
        obtain rfl := noBlanks behind (by simp)
        rw [List.nil_append, List.append_nil] at same ⊢
        cases hv
        rw [same] at here ⊢
        exact here.number start
    | @more lead text gap others a as comma before here behind _ =>
        have comma := (filled_of_isNumberChar (h.chars ',' (by simp))).2
        exact absurd (by decide) comma
  · intro reads
    rw [same] at reads ⊢
    have item : Written maxNesting (c :: rest) v := .of_atom (.number start reads)
    have members : Members (Written maxNesting) ([] ++ (c :: rest) ++ []) [v] false :=
      .last blanks_nil item blanks_nil
    rw [List.nil_append, List.append_nil] at members
    exact parseChars_eq_some.mpr ⟨_, _, members, rfl⟩

/-! ## Reading integers -/

/-- No double is written with the mark of a radix. -/
theorem readMagnitude_marked {mark : List Char} {radix : Nat} (hmark : (mark, radix) ∈ radixMarks)
    (marked : mark ≠ []) (negative : Bool) (digits : List Char) :
    readMagnitude negative (mark ++ digits) = none := by
  simp only [radixMarks, List.mem_cons, Prod.mk.injEq, List.not_mem_nil, or_false] at hmark
  rcases hmark with ⟨rfl, -⟩ | hmark
  · exact absurd rfl marked
  · rcases hmark with ⟨rfl, -⟩ | ⟨rfl, -⟩ | ⟨rfl, -⟩ | ⟨rfl, -⟩ | ⟨rfl, -⟩ | ⟨rfl, -⟩ <;>
      simp [readMagnitude, readExponent]

theorem isPlain_radixMarks : ∀ entry ∈ radixMarks, IsPlain entry.1 := by
  simp [radixMarks, IsPlain]

theorem double?_marked {mark : List Char} {radix : Nat} (hmark : (mark, radix) ∈ radixMarks)
    (marked : mark ≠ []) (negative : Bool) (digits : List Char) :
    double? negative (mark ++ digits) = none := by
  unfold double?
  split
  · rfl
  · next c rest same =>
      rw [filter_mark hmark, readMagnitude_marked hmark marked]
      split <;> rfl

theorem takeSign_signs {sign : List Char} {negative : Bool} (hsign : (sign, negative) ∈ signs)
    {raw : List Char} (h : ∀ c ∈ raw.head?, c ≠ '-' ∧ c ≠ '+') :
    takeSign (sign ++ raw) = (negative, raw) := by
  simp only [signs, List.mem_cons, Prod.mk.injEq, List.not_mem_nil, or_false] at hsign
  rcases hsign with ⟨rfl, rfl⟩ | ⟨rfl, rfl⟩ | ⟨rfl, rfl⟩
  · cases raw with
    | nil => rfl
    | cons c raw => simp [takeSign, h c rfl]
  · rfl
  · rfl

theorem IsPlain.signless {raw : List Char} (h : IsPlain raw) : ∀ c ∈ raw.head?, c ≠ '-' ∧ c ≠ '+' := by
  intro c hc
  constructor <;>
    · rintro rfl
      rcases h _ (List.mem_of_mem_head? hc) with alphanum | underscore
      · exact absurd alphanum (by decide)
      · exact absurd underscore (by decide)

section

variable {sign mark digits : List Char} {negative : Bool} {radix : Nat} {ds : List Nat}
  (hmark : (mark, radix) ∈ radixMarks) (h : DigitText radix digits ds)
include hmark h

theorem isPlain_marked : IsPlain (mark ++ digits) :=
  List.forall_mem_append.mpr ⟨isPlain_radixMarks _ hmark, h.isPlain⟩

theorem exists_first_marked : ∃ c rest, mark ++ digits = c :: rest ∧ c.isDigit = true := by
  simp only [radixMarks, List.mem_cons, Prod.mk.injEq, List.not_mem_nil, or_false] at hmark
  rcases hmark with ⟨rfl, rfl⟩ | hmark
  · obtain ⟨c, rest, rfl⟩ := List.exists_cons_of_ne_nil h.nonempty
    rcases h.digit_of_mem List.mem_cons_self with rfl | ⟨d, digit⟩
    · exact absurd rfl h.first
    · exact ⟨c, rest, rfl, digit.isDigit⟩
  · rcases hmark with ⟨rfl, -⟩ | ⟨rfl, -⟩ | ⟨rfl, -⟩ | ⟨rfl, -⟩ | ⟨rfl, -⟩ | ⟨rfl, -⟩ <;>
      exact ⟨_, _, rfl, rfl⟩

theorem numberText_marked (hsign : (sign, negative) ∈ signs) :
    NumberText (sign ++ (mark ++ digits)) := by
  have signed : ∀ entry ∈ signs, (∀ c ∈ entry.1.head?, StartsNumber c) ∧
      ∀ c ∈ entry.1, isNumberChar c = true := by
    simp [signs, StartsNumber, isNumberChar]
  obtain ⟨starts, chars⟩ := signed _ hsign
  refine ⟨?_, List.forall_mem_append.mpr ⟨chars, fun c hc => ?_⟩⟩
  · cases sign with
    | nil =>
        obtain ⟨c, rest, same, digit⟩ := exists_first_marked hmark h
        exact ⟨c, rest, same, .inl digit⟩
    | cons c sign => exact ⟨c, _, rfl, starts c rfl⟩
  · rcases isPlain_marked hmark h c hc with alphanum | rfl
    · simp [isNumberChar, alphanum]
    · rfl

/-- The text of an integer is read as a number that extends over all of it. -/
theorem number_marked (hsign : (sign, negative) ∈ signs) : number (sign ++ (mark ++ digits)) =
    (numeral negative (mark ++ digits)).map fun v => (v, []) := by
  have plain := isPlain_marked hmark h
  rw [number_run, takeSign_signs hsign plain.signless]
  dsimp only
  rw [numberChars_plain plain]

/-- The text of an integer stands for what its characters stand for. -/
theorem parseChars_marked (hsign : (sign, negative) ∈ signs) :
    parseChars (sign ++ (mark ++ digits)) = numeral negative (mark ++ digits) := by
  ext v
  rw [parseChars_number (numberText_marked hmark h hsign), number_marked hmark h hsign]
  simp

theorem numeral_marked (fits : Fits (signed negative (ofDigits radix ds))) :
    numeral negative (mark ++ digits) =
      some (.integer (Int64.ofInt (signed negative (ofDigits radix ds)))) := by
  rw [numeral, integer?_marked hmark h, fitting?_of_fits fits]

theorem numeral_marked_of_not_fits (outside : ¬ Fits (signed negative (ofDigits radix ds))) :
    numeral negative (mark ++ digits) = (double? negative (mark ++ digits)).map .float := by
  rw [numeral, integer?_marked hmark h, fitting?_eq_none outside]

theorem parseChars_marked_eq_integer (hsign : (sign, negative) ∈ signs) (i : Int64) :
    parseChars (sign ++ (mark ++ digits)) = some (.integer i) ↔
      i.toInt = signed negative (ofDigits radix ds) := by
  rw [parseChars_marked hmark h hsign]
  by_cases fits : Fits (signed negative (ofDigits radix ds))
  · rw [numeral_marked hmark h fits, Option.some.injEq, Value.integer.injEq, ← Int64.toInt_inj,
      toInt_of_fits fits]
    exact eq_comm
  · rw [numeral_marked_of_not_fits hmark h fits]
    constructor
    · intro reads
      obtain ⟨x, -, same⟩ := Option.map_eq_some_iff.mp reads
      cases same
    · intro same
      exact absurd (same ▸ fits_toInt i) fits

/-- The digits in front of the others are a number that fits if all of them are. -/
theorem foldlM_addDigit_take (fits : Fits (signed negative (ofDigits radix ds))) (count : Nat) :
    ∃ n, ((digits.filter (· != '_')).take count).foldlM (addDigit radix negative) 0 = some n ∧
      n.toInt = signed negative (ofDigits radix (ds.take count)) := by
  have positive : 0 < radix := by
    have all : ∀ entry ∈ radixMarks, 0 < entry.2 := by decide
    exact all _ hmark
  have smaller : ofDigits radix (ds.take count) ≤ ofDigits radix ds := by
    conv_rhs => rw [← List.take_append_drop count ds, ofDigits_append]
    exact (Nat.le_mul_of_pos_right _ (Nat.pow_pos positive)).trans (Nat.le_add_right _ _)
  have zero : (0 : Int64).toInt = signed negative 0 := by cases negative <;> rfl
  have taken := foldlM_addDigit (List.forall₂_take count h.values) zero
  rw [Nat.zero_mul, Nat.zero_add, fitting?_of_fits (fits.mono smaller)] at taken
  exact ⟨_, taken, toInt_of_fits (fits.mono smaller)⟩

end

/-! ## Displayed integers -/

theorem isDigit_digitsOf (n : Nat) : ∀ c ∈ digitsOf n, c.isDigit = true :=
  fun _ hc => Nat.isDigit_of_mem_toDigits (by decide) (by decide) hc

theorem isDigit_of_decimal {c : Char} (h : c.isDigit = true) : IsDigit 10 c (c.toNat - '0'.toNat) := by
  have bounds : '0'.toNat ≤ c.toNat ∧ c.toNat ≤ '9'.toNat := by
    simp only [Char.isDigit, Bool.and_eq_true, decide_eq_true_eq] at h
    exact h
  obtain ⟨d, same⟩ := Nat.exists_eq_add_of_le bounds.1
  have listed : ∀ d < 10, lowerDigits[d]? = some (Char.ofNat ('0'.toNat + d)) := by decide
  have small : d < 10 := by
    have nine : '9'.toNat = '0'.toNat + 9 := rfl
    omega
  rw [same, Nat.add_sub_cancel_left]
  refine ⟨small, .inl ?_⟩
  rw [listed d small, ← same, Char.ofNat_toNat]

/-- The number with given decimal digits, as the library of strings computes it. -/
theorem ofDigitChars_eq (cs : List Char) (n : Nat) :
    Nat.ofDigitChars 10 cs n =
      n * 10 ^ cs.length + ofDigits 10 (cs.map fun c => c.toNat - '0'.toNat) := by
  induction cs generalizing n with
  | nil => simp [ofDigits]
  | cons c cs ih =>
      rw [Nat.ofDigitChars_cons, ih, List.map_cons, ofDigits_cons, List.length_map, List.length_cons]
      ring

theorem exists_digitText (n : Nat) : ∃ ds, DigitText 10 (digitsOf n) ds ∧ ofDigits 10 ds = n := by
  have digits := isDigit_digitsOf n
  have noUnderscore : '_' ∉ digitsOf n := fun mem => absurd (digits '_' mem) (by decide)
  have values : DigitValues 10 (digitsOf n) ((digitsOf n).map fun c => c.toNat - '0'.toNat) := by
    rw [DigitValues, List.forall₂_map_right_iff, List.forall₂_same]
    exact fun c hc => isDigit_of_decimal (digits c hc)
  have kept : (digitsOf n).filter (· != '_') = digitsOf n := by
    rw [List.filter_eq_self]
    intro c hc
    simp only [bne_iff_ne, ne_eq]
    rintro rfl
    exact noUnderscore hc
  refine ⟨_, ⟨by rwa [kept], ?_, ?_, Nat.toDigits_ne_nil⟩, ?_⟩
  · exact fun first => noUnderscore (List.mem_of_mem_head? first)
  · exact fun last => noUnderscore (List.mem_of_getLast? last)
  · have value := ofDigitChars_eq (digitsOf n) 0
    rw [digitsOf, Nat.ofDigitChars_ten_toDigits, Nat.zero_mul, Nat.zero_add] at value
    exact value.symm

/-- The text of an integer is a sign with the decimal digits of its magnitude. -/
theorem exists_integerText (i : Int) : ∃ sign negative, (sign, negative) ∈ signs ∧
    integerText i = sign ++ digitsOf i.natAbs ∧ signed negative i.natAbs = i := by
  by_cases negative : i < 0
  · refine ⟨['-'], true, by decide, by rw [integerText, if_pos negative]; rfl, ?_⟩
    rw [signed, if_pos rfl]
    omega
  · refine ⟨[], false, by decide, by rw [integerText, if_neg negative]; rfl, ?_⟩
    rw [signed, if_neg Bool.false_ne_true]
    omega

theorem integerText_reads (i : Int64) :
    NumberText (integerText i.toInt) ∧ parseChars (integerText i.toInt) = some (.integer i) := by
  obtain ⟨sign, negative, hsign, text, value⟩ := exists_integerText i.toInt
  obtain ⟨ds, digits, number⟩ := exists_digitText i.toInt.natAbs
  have decimal : (([] : List Char), 10) ∈ radixMarks := by decide
  have reads := (parseChars_marked_eq_integer decimal digits hsign i).mpr (by rw [number, value])
  rw [text]
  exact ⟨numberText_marked decimal digits hsign, reads⟩

theorem atom_integer (i : Int64) : Atom (integerText i.toInt) (.integer i) := by
  obtain ⟨text, reads⟩ := integerText_reads i
  obtain ⟨c, rest, same, start⟩ := text.start
  rw [parseChars_number text, same] at reads
  rw [same]
  exact .number start reads

/-! ## Exact integers -/

/-- The text of an integer, with any sign, radix and underscores, is read as an integer exactly if its
value fits into 64 bits, and then as that value; otherwise it is no literal if it has the mark of a
radix. If the value fits, all of its digits are taken in, and so far as they are, the number so far has
the exact value of the digits so far. What is displayed of an integer is read as that integer. -/
theorem parse_integer_exact :
    (∀ (sign mark digits : List Char) (negative : Bool) (radix : Nat) (ds : List Nat),
      (sign, negative) ∈ signs → (mark, radix) ∈ radixMarks → DigitText radix digits ds →
      (∀ i, parseChars (sign ++ (mark ++ digits)) = some (.integer i) ↔
        i.toInt = signed negative (ofDigits radix ds)) ∧
      ((∃ i, parseChars (sign ++ (mark ++ digits)) = some (.integer i)) ↔
        Fits (signed negative (ofDigits radix ds))) ∧
      (¬ Fits (signed negative (ofDigits radix ds)) → mark ≠ [] →
        parseChars (sign ++ (mark ++ digits)) = none) ∧
      (Fits (signed negative (ofDigits radix ds)) → ∀ count,
        ∃ n, ((digits.filter (· != '_')).take count).foldlM (addDigit radix negative) 0 = some n ∧
          n.toInt = signed negative (ofDigits radix (ds.take count)))) ∧
    ∀ i : Int64, parse (Value.integer i).display = some (.integer i) := by
  constructor
  · intro sign mark digits negative radix ds hsign hmark h
    have reads := parseChars_marked_eq_integer hmark h hsign
    refine ⟨reads, ?_, fun outside marked => ?_, foldlM_addDigit_take hmark h⟩
    · constructor
      · rintro ⟨i, hi⟩
        rw [← (reads i).mp hi]
        exact fits_toInt i
      · exact fun fits => ⟨_, (reads _).mpr (toInt_of_fits fits)⟩
    · rw [parseChars_marked hmark h hsign, numeral_marked_of_not_fits hmark h outside,
        double?_marked hmark marked]
      rfl
  · intro i
    rw [parse, Value.display, String.toList_ofList]
    exact (integerText_reads i).2

/-- The least integer with 64 bits. -/
theorem parse_integer_exact_least :
    DigitText 10 "9_223_372_036_854_775_808".toList
        [9, 2, 2, 3, 3, 7, 2, 0, 3, 6, 8, 5, 4, 7, 7, 5, 8, 0, 8] ∧
      Fits (-9223372036854775808) ∧
      parseChars "-9_223_372_036_854_775_808".toList = some (.integer Int64.minValue) := by
  have digits : DigitText 10 "9_223_372_036_854_775_808".toList
      [9, 2, 2, 3, 3, 7, 2, 0, 3, 6, 8, 5, 4, 7, 7, 5, 8, 0, 8] :=
    ⟨by decide, by decide, by decide, by decide⟩
  have reads := (parse_integer_exact.1 ['-'] [] _ true 10 _ (by decide) (by decide) digits).1
  exact ⟨digits, ⟨by decide, by decide⟩, (reads Int64.minValue).mpr (by decide)⟩

end TextTemplate.Literal
