import TextTemplate.Literal
import TextTemplate.Proofs.Text.Trimming

/-!
# Literals without brackets

Strings, numbers and constants as texts of their own. The readers take exactly such a text off the
front; a number or a constant extends as far as its characters do, so something else has to follow
it (`Stops`).
-/

namespace TextTemplate.Literal

open TextTemplate.Text TextTemplate.Number

/-! ## What may follow a number or a word -/

/-- No number and no word goes on in the text. -/
def Stops (rest : List Char) : Prop :=
  ∀ c ∈ rest.head?, isWordPart c = false ∧ c ≠ '.' ∧ c ≠ '+' ∧ c ≠ '-'

@[simp] theorem stops_nil : Stops [] := nofun

@[simp] theorem stops_cons {c : Char} {rest : List Char} :
    Stops (c :: rest) ↔ isWordPart c = false ∧ c ≠ '.' ∧ c ≠ '+' ∧ c ≠ '-' := by
  simp [Stops]

/-- The tables of letters and numbers. -/
def wordTables : List (List (Nat × Nat)) :=
  [letterRanges, alphabeticMarkRanges, enclosedLetterRanges, digitRanges, letterNumberRanges,
    otherNumberRanges]

/-- No range of the tables holds a blank. -/
def isBlankless (tables : List (List (Nat × Nat))) : Bool :=
  tables.all fun ranges => ranges.all fun r => blankRanges.all fun b => r.2.blt b.1 || b.2.blt r.1

theorem not_covers_of_isBlankless {tables : List (List (Nat × Nat))} (apart : isBlankless tables = true)
    {c : Char} (h : isBlank c = true) : ∀ ranges ∈ tables, covers ranges c = false := by
  obtain ⟨b, hb, low, high⟩ := covers_iff.mp h
  intro ranges hranges
  by_contra covered
  obtain ⟨r, hr, low', high'⟩ := covers_iff.mp (Bool.of_not_eq_false covered)
  have outside := List.all_eq_true.mp (List.all_eq_true.mp (List.all_eq_true.mp apart ranges hranges) r hr)
    b hb
  simp only [Bool.or_eq_true, Nat.blt_eq] at outside
  omega

theorem not_covers_of_isBlank {c : Char} (h : isBlank c = true) :
    ∀ ranges ∈ wordTables, covers ranges c = false := by
  have apart : isBlankless wordTables = true := by decide +kernel
  exact not_covers_of_isBlankless apart h

theorem not_isAlphanum_of_isBlank {c : Char} (h : isBlank c = true) :
    c.isAlpha = false ∧ c.isDigit = false := by
  have outside : ∀ b ∈ blankRanges, b.2 ≤ 0x20 ∨ 0x80 ≤ b.1 := by decide
  obtain ⟨b, hb, low, high⟩ := covers_iff.mp h
  have codes : c.val.toNat ≤ 0x20 ∨ 0x80 ≤ c.val.toNat := (outside b hb).imp high.trans (·.trans low)
  have letters : 'A'.val.toNat = 65 ∧ 'Z'.val.toNat = 90 ∧ 'a'.val.toNat = 97 ∧ 'z'.val.toNat = 122 :=
    ⟨rfl, rfl, rfl, rfl⟩
  have digits : '0'.val.toNat = 48 ∧ '9'.val.toNat = 57 := ⟨rfl, rfl⟩
  simp only [Char.isAlpha, Char.isUpper, Char.isLower, Char.isDigit, Bool.or_eq_false_iff,
    Bool.and_eq_false_iff, decide_eq_false_iff_not, UInt32.le_iff_toNat_le, ge_iff_le]
  omega

theorem not_isWordPart_of_isBlank {c : Char} (h : isBlank c = true) : isWordPart c = false := by
  have tables := not_covers_of_isBlank h
  simp only [wordTables, List.forall_mem_cons] at tables
  have ascii := not_isAlphanum_of_isBlank h
  have other : c ≠ '_' := by
    rintro rfl
    cases h
  simp [isWordPart, isAlphanumeric, isAlphabetic, isNumeric, tables, ascii, other]

theorem Stops.of_blank {c : Char} (h : isBlank c = true) (rest : List Char) : Stops (c :: rest) := by
  refine stops_cons.mpr ⟨not_isWordPart_of_isBlank h, ?_, ?_, ?_⟩ <;>
    · rintro rfl
      cases h

/-- The signs that separate and close the members of brackets. -/
def marks : List Char := [',', ':', ']', ')', '\x7d']

theorem isBlank_of_mem_marks : ∀ c ∈ marks, isBlank c = false := by
  simp [marks, isBlank, covers, blankRanges]

theorem not_isWordPart_marks : marks.all (fun c => !isWordPart c) = true := by decide

theorem Stops.of_mark {c : Char} (h : c ∈ marks) (rest : List Char) : Stops (c :: rest) := by
  have noPart := List.all_eq_true.mp not_isWordPart_marks c h
  refine stops_cons.mpr ⟨by simpa using noPart, ?_, ?_, ?_⟩ <;>
    · rintro rfl
      simp [marks] at h

/-- A character that does not stop a number or a word is neither a blank nor a mark. -/
theorem filled_of_not_stops {c : Char} {rest : List Char} (h : ¬ Stops (c :: rest)) :
    isBlank c = false ∧ c ∉ marks := by
  refine ⟨?_, fun mark => h (.of_mark mark rest)⟩
  by_contra blank
  exact h (.of_blank (by simpa using blank) rest)

/-- Blanks stop a number or a word if what follows them does. -/
theorem Stops.blanks_append {gap rest : List Char} (blank : Blanks gap) (h : Stops rest) :
    Stops (gap ++ rest) := by
  cases gap with
  | nil => exact h
  | cons c gap => exact .of_blank (blanks_cons.mp blank).1 _

theorem isWordPart_of_isAlphanum {c : Char} (h : c.isAlphanum = true) : isWordPart c = true := by
  have parts : c.isAlpha = true ∨ c.isDigit = true := by simpa [Char.isAlphanum] using h
  rcases parts with h | h <;> simp [isWordPart, isAlphanumeric, isAlphabetic, isNumeric, h]

/-! ## Strings -/

/-- What stands between the quotes of a string, and what it stands for. -/
inductive StringText (quote : Char) : List Char → List Char → Prop
  | nil : StringText quote [] []
  | escape (differs : '\\' ≠ quote) (c : Char) {inside content : List Char}
      (rest : StringText quote inside content) :
      StringText quote ('\\' :: c :: inside) (unescape c ++ content)
  | plain {c : Char} (hquote : c ≠ quote) (hescape : c ≠ '\\') {inside content : List Char}
      (rest : StringText quote inside content) : StringText quote (c :: inside) (c :: content)

/-- A string is read up to its closing quote. -/
theorem stringBody_eq_some {quote : Char} {cs content rest : List Char} :
    stringBody quote cs = some (content, rest) ↔
      ∃ inside, StringText quote inside content ∧ cs = inside ++ quote :: rest := by
  constructor
  · intro h
    fun_induction stringBody quote cs generalizing content rest with
    | case1 => cases h
    | case2 =>
        cases h
        exact ⟨[], .nil, rfl⟩
    | case3 => cases h
    | case4 c behind differs ih =>
        obtain ⟨⟨s, r⟩, hs, same⟩ := Option.map_eq_some_iff.mp h
        cases same
        obtain ⟨inside, text, rfl⟩ := ih hs
        exact ⟨'\\' :: c :: inside, .escape differs c text, rfl⟩
    | case5 c behind hquote hescape ih =>
        obtain ⟨⟨s, r⟩, hs, same⟩ := Option.map_eq_some_iff.mp h
        cases same
        obtain ⟨inside, text, rfl⟩ := ih hs
        exact ⟨c :: inside, .plain hquote hescape text, rfl⟩
  · rintro ⟨inside, text, rfl⟩
    induction text with
    | nil => cases rest <;> simp [stringBody]
    | escape differs c _ ih => simp [stringBody, differs, ih]
    | @plain c hquote hescape inside content _ ih =>
        cases hbehind : inside ++ quote :: rest <;> simp_all [stringBody]

/-! ## Numbers -/

theorem takeSign_append {cs : List Char} (h : cs ≠ []) (rest : List Char) :
    takeSign (cs ++ rest) = ((takeSign cs).1, (takeSign cs).2 ++ rest) := by
  cases cs with
  | nil => exact absurd rfl h
  | cons c cs =>
      by_cases minus : c = '-'
      · rw [minus]
        rfl
      · by_cases plus : c = '+'
        · rw [plus]
          rfl
        · simp [takeSign, minus, plus]

theorem exists_sign (cs : List Char) :
    ∃ sign ∈ [[], ['-'], ['+']], cs = sign ++ (takeSign cs).2 := by
  cases cs with
  | nil => exact ⟨[], by simp, rfl⟩
  | cons c cs =>
      by_cases minus : c = '-'
      · exact ⟨['-'], by simp, by rw [minus]; rfl⟩
      · by_cases plus : c = '+'
        · exact ⟨['+'], by simp, by rw [plus]; rfl⟩
        · exact ⟨[], by simp, by simp [takeSign, minus, plus]⟩

theorem numberChars_of_stops (hexadecimal : Bool) (previous : Char) {rest : List Char}
    (h : Stops rest) : numberChars hexadecimal previous rest = ([], rest) := by
  cases rest with
  | nil => rfl
  | cons c rest =>
      obtain ⟨noPart, hdot, hplus, hminus⟩ := stops_cons.mp h
      have noAlphanum : c.isAlphanum = false := by
        by_contra h
        rw [isWordPart_of_isAlphanum (by simpa using h)] at noPart
        cases noPart
      have noUnderscore : c ≠ '_' := by
        rintro rfl
        simp [isWordPart] at noPart
      simp [numberChars, noAlphanum, noUnderscore, hdot, hplus, hminus]

/-- What is split off as a number is split off in front of any other text that stops it. -/
theorem numberChars_append {hexadecimal : Bool} {previous : Char} {cs raw rest : List Char}
    (h : numberChars hexadecimal previous cs = (raw, rest)) :
    cs = raw ++ rest ∧ ∀ other, Stops other →
      numberChars hexadecimal previous (raw ++ other) = (raw, other) := by
  induction cs generalizing previous raw with
  | nil =>
      cases h
      exact ⟨rfl, fun other stops => numberChars_of_stops _ _ stops⟩
  | cons c cs ih =>
      rw [numberChars] at h
      dsimp only at h
      split at h
      · next goesOn =>
          rcases hmore : numberChars hexadecimal c cs with ⟨raw', rest'⟩
          rw [hmore] at h
          cases h
          obtain ⟨same, reads⟩ := ih hmore
          refine ⟨by rw [same]; rfl, fun other stops => ?_⟩
          rw [List.cons_append, numberChars]
          dsimp only
          rw [if_pos goesOn, reads other stops]
      · cases h
        exact ⟨rfl, fun other stops => numberChars_of_stops _ _ stops⟩

/-- The value of the characters of an unsigned number. -/
def numeral (negative : Bool) (raw : List Char) : Option Value :=
  match integer? negative raw with
  | some i => some (.integer i)
  | none => (double? negative raw).map .float

/-- Whether a number is read as a hexadecimal one. -/
def isHexadecimal (digits : List Char) : Bool := ['0', 'x'].isPrefixOf digits

theorem number_run (cs : List Char) :
    number cs =
      let (raw, rest) := numberChars (isHexadecimal (takeSign cs).2) ' ' (takeSign cs).2
      (numeral (takeSign cs).1 raw).map fun v => (v, rest) := by
  unfold number numeral isHexadecimal
  dsimp only
  cases integer? (takeSign cs).1
      (numberChars (['0', 'x'].isPrefixOf (takeSign cs).2) ' ' (takeSign cs).2).1 with
  | some i => rfl
  | none => simp [Function.comp_def]

/-- A number is hexadecimal or not by its own characters. -/
theorem isHexadecimal_append {raw rest : List Char} (nonempty : raw ≠ []) (stops : Stops rest) :
    isHexadecimal (raw ++ rest) = isHexadecimal raw := by
  match raw with
  | [c] =>
      cases rest with
      | nil => rfl
      | cons d rest =>
          have other : d ≠ 'x' := by
            rintro rfl
            have noPart := (stops_cons.mp stops).1
            rw [isWordPart_of_isAlphanum (by decide)] at noPart
            cases noPart
          simp [isHexadecimal, List.isPrefixOf, Ne.symm other]
  | c :: d :: raw => simp [isHexadecimal, List.isPrefixOf]

/-- The characters that are split off show whether the number is hexadecimal. -/
theorem isHexadecimal_numberChars {digits raw rest : List Char}
    (h : numberChars (isHexadecimal digits) ' ' digits = (raw, rest)) :
    isHexadecimal raw = isHexadecimal digits := by
  obtain ⟨same, -⟩ := numberChars_append h
  cases hdigits : isHexadecimal digits with
  | true =>
      obtain ⟨behind, rfl⟩ := List.isPrefixOf_iff_prefix.mp hdigits
      rw [hdigits] at h
      have marked : (numberChars true ' ' (['0', 'x'] ++ behind)).1 =
          '0' :: 'x' :: (numberChars true 'x' behind).1 := by
        simp [numberChars, show '0'.isAlphanum = true by decide, show 'x'.isAlphanum = true by decide]
      rw [h] at marked
      rw [show raw = _ from marked]
      rfl
  | false =>
      by_contra hraw
      have front : ['0', 'x'] <+: raw := by simpa [isHexadecimal] using hraw
      have whole : isHexadecimal digits = true :=
        List.isPrefixOf_iff_prefix.mpr (front.trans ⟨rest, same.symm⟩)
      rw [hdigits] at whole
      cases whole

/-- What is read as a number is read in front of any other text that stops it. -/
theorem number_append {cs rest : List Char} {v : Value} (h : number cs = some (v, rest)) :
    ∃ text, text ≠ [] ∧ cs = text ++ rest ∧
      ∀ other, Stops other → number (text ++ other) = some (v, other) := by
  rw [number_run] at h
  rcases hchars : numberChars (isHexadecimal (takeSign cs).2) ' ' (takeSign cs).2 with ⟨raw, rest'⟩
  rw [hchars] at h
  obtain ⟨v', hv, same⟩ := Option.map_eq_some_iff.mp h
  cases same
  have nonempty : raw ≠ [] := by
    rintro rfl
    cases hv
  obtain ⟨hraw, reads⟩ := numberChars_append hchars
  have marked := isHexadecimal_numberChars hchars
  obtain ⟨sign, -, hsign⟩ := exists_sign cs
  have whole : cs = sign ++ raw ++ rest := by rw [List.append_assoc, ← hraw, ← hsign]
  have filled : sign ++ raw ≠ [] := List.append_ne_nil_of_right_ne_nil _ nonempty
  -- The sign of the text is that of all the characters, and the digits behind it are `raw`.
  have signed := takeSign_append filled rest
  rw [← whole] at signed
  have digits : (takeSign (sign ++ raw)).2 = raw := by
    rw [signed] at hraw
    exact List.append_cancel_right hraw
  refine ⟨sign ++ raw, filled, whole, fun other stops => ?_⟩
  rw [number_run, takeSign_append filled, digits]
  dsimp only
  rw [isHexadecimal_append nonempty stops, marked, reads other stops]
  rw [signed] at hv
  dsimp only at hv ⊢
  rw [hv]
  rfl

/-- The characters of numbers. -/
def isNumberChar (c : Char) : Bool := c.isAlphanum || c = '_' || c = '.' || c = '+' || c = '-'

theorem not_stops_of_isNumberChar {c : Char} (h : isNumberChar c = true) (rest : List Char) :
    ¬ Stops (c :: rest) := by
  rw [stops_cons]
  rintro ⟨noPart, hdot, hplus, hminus⟩
  simp only [isNumberChar, Bool.or_eq_true, decide_eq_true_eq] at h
  rcases h with (((h | rfl) | h) | h) | h
  · rw [isWordPart_of_isAlphanum h] at noPart
    cases noPart
  · simp [isWordPart] at noPart
  · exact hdot h
  · exact hplus h
  · exact hminus h

theorem isNumberChar_of_numberChars {hexadecimal : Bool} {previous : Char} {cs raw rest : List Char}
    (h : numberChars hexadecimal previous cs = (raw, rest)) : ∀ c ∈ raw, isNumberChar c = true := by
  induction cs generalizing previous raw with
  | nil =>
      cases h
      exact nofun
  | cons c cs ih =>
      rw [numberChars] at h
      dsimp only at h
      split at h
      · next goesOn =>
          rcases hmore : numberChars hexadecimal c cs with ⟨raw', rest'⟩
          rw [hmore] at h
          cases h
          refine List.forall_mem_cons.mpr ⟨?_, ih hmore⟩
          simp only [Bool.or_eq_true, Bool.and_eq_true] at goesOn
          simp only [isNumberChar, Bool.or_eq_true]
          tauto
      · cases h
        exact nofun

theorem isNumberChar_of_number {cs : List Char} {v : Value} (h : number cs = some (v, [])) :
    ∀ c ∈ cs, isNumberChar c = true := by
  rw [number_run] at h
  rcases hchars : numberChars (isHexadecimal (takeSign cs).2) ' ' (takeSign cs).2 with ⟨raw, rest⟩
  rw [hchars] at h
  obtain ⟨v', -, same⟩ := Option.map_eq_some_iff.mp h
  cases same
  obtain ⟨sign, hsign, whole⟩ := exists_sign cs
  rw [(numberChars_append hchars).1, List.append_nil] at whole
  have signs : ∀ sign ∈ [[], ['-'], ['+']], ∀ c ∈ sign, isNumberChar c = true := by
    simp [isNumberChar]
  rw [whole]
  exact List.forall_mem_append.mpr ⟨signs sign hsign, isNumberChar_of_numberChars hchars⟩

theorem not_stops_of_number {cs : List Char} {v : Value} (reads : number cs = some (v, [])) :
    ∀ c ∈ cs, ¬ Stops [c] :=
  fun c hc => not_stops_of_isNumberChar (isNumberChar_of_number reads c hc) []

/-! ## Constants -/

/-- The words for constants. -/
def constantWords : List (List Char) :=
  ["True", "true", "False", "false", "None", "none", "null"].map String.toList

theorem mem_constantWords {word : List Char} {v : Value}
    (h : constant? (String.ofList word) = some v) : word ∈ constantWords := by
  have named : String.ofList word ∈ ["True", "true", "False", "false", "None", "none", "null"] := by
    unfold constant? at h
    split at h <;> simp_all
  rw [← String.toList_ofList (l := word)]
  exact List.mem_map_of_mem named

theorem isWordPart_constantWords : ∀ word ∈ constantWords, word.all isWordPart = true := by
  decide

theorem constant_append {word rest : List Char} {v : Value}
    (h : constant? (String.ofList word) = some v) (stops : Stops rest) :
    constant (word ++ rest) = some (v, rest) := by
  have parts : ∀ c ∈ word, isWordPart c = true :=
    List.all_eq_true.mp (isWordPart_constantWords word (mem_constantWords h))
  have stopped : rest.takeWhile isWordPart = [] ∧ rest.dropWhile isWordPart = rest := by
    cases rest with
    | nil => exact ⟨rfl, rfl⟩
    | cons c rest => simp [(stops_cons.mp stops).1]
  rw [constant, List.takeWhile_append_of_pos parts, List.dropWhile_append_of_pos parts, stopped.1,
    stopped.2, List.append_nil, h]
  rfl

theorem not_stops_of_constant {word : List Char} {v : Value} (means : constant? (String.ofList word) = some v) :
    ∀ c ∈ word, ¬ Stops [c] := by
  have parts := isWordPart_constantWords word (mem_constantWords means)
  intro c hc stops
  have part := List.all_eq_true.mp parts c hc
  rw [(stops_cons.mp stops).1] at part
  cases part

/-! ## All of them -/

/-- A text that is a string, a number or a constant, and its value. -/
inductive Atom : List Char → Value → Prop
  | string {quote : Char} {inside content : List Char} (hquote : quote = '\'' ∨ quote = '"')
      (text : StringText quote inside content) :
      Atom (quote :: (inside ++ [quote])) (.string (String.ofList content))
  | number {c : Char} {cs : List Char} {v : Value}
      (start : c.isDigit = true ∨ c = '-' ∨ c = '+' ∨ c = '.')
      (reads : number (c :: cs) = some (v, [])) : Atom (c :: cs) v
  | constant {word : List Char} {v : Value} (means : constant? (String.ofList word) = some v) :
      Atom word v

end TextTemplate.Literal
