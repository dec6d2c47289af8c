import TextTemplate.Proofs.Literal.Integer

/-!
# Literals of values

The text of a value inside a container is a literal of the grammar, so it reads back as the value
(`parse_literalText`). The keys of maps are the exception: they stand between quotes as they are, so
they read back only if they stand for themselves there.
-/

namespace TextTemplate

namespace Literal

open TextTemplate.Text TextTemplate.Number

/-! ## Strings -/

/-- The characters that mean something else behind a backslash. -/
def escapes : List Char := ['n', 'r', 't', '0', '\\', '\'', '"']

theorem unescape_of_not_mem {c : Char} (h : c ∉ escapes) : unescape c = ['\\', c] := by
  unfold unescape
  split <;> simp_all [escapes]

/-- What is written for a string between its quotes. -/
theorem stringText_stringLiteral (cs : List Char) :
    StringText '\'' (cs.flatMap fun c => if c = '\\' || c = '\'' then ['\\', c] else [c]) cs := by
  induction cs with
  | nil => exact .nil
  | cons c cs ih =>
      rw [List.flatMap_cons]
      by_cases special : c = '\\' ∨ c = '\''
      · have escaped : StringText '\'' _ _ := .escape (by decide) c ih
        have meant : unescape c = [c] := by rcases special with rfl | rfl <;> rfl
        rw [meant] at escaped
        rwa [if_pos (by simpa using special)]
      · rw [if_neg (by simpa using special)]
        exact .plain (fun h => special (.inr h)) (fun h => special (.inl h)) ih

/-- Between single quotes the text stands for itself: it holds no quote, and each backslash in it
stands in front of a character that means nothing else behind a backslash. -/
inductive Verbatim : List Char → Prop
  | nil : Verbatim []
  | plain {c : Char} {key : List Char} (unquoted : c ≠ '\'') (unescaped : c ≠ '\\')
      (rest : Verbatim key) : Verbatim (c :: key)
  | backslash {c : Char} {key : List Char} (meaningless : c ∉ escapes) (rest : Verbatim key) :
      Verbatim ('\\' :: c :: key)

theorem stringText_verbatim {key : List Char} (h : Verbatim key) : StringText '\'' key key := by
  induction h with
  | nil => exact .nil
  | plain unquoted unescaped _ ih => exact .plain unquoted unescaped ih
  | @backslash c key meaningless _ ih =>
      have escaped : StringText '\'' _ _ := .escape (by decide) c ih
      rwa [unescape_of_not_mem meaningless] at escaped

theorem length_unescape_le (c : Char) : (unescape c).length ≤ 2 := by
  unfold unescape
  split <;> simp

theorem not_mem_escapes {c : Char} (h : (unescape c).length = 2) : c ∉ escapes := by
  intro mem
  simp only [escapes, List.mem_cons, List.not_mem_nil, or_false] at mem
  rcases mem with rfl | rfl | rfl | rfl | rfl | rfl | rfl <;> cases h

/-- A string is at least as long as what it stands for, and as long only if it stands for itself. -/
theorem length_stringText {inside content : List Char} (h : StringText '\'' inside content) :
    content.length ≤ inside.length ∧ (inside.length ≤ content.length → Verbatim content) := by
  induction h with
  | nil => exact ⟨le_rfl, fun _ => .nil⟩
  | escape _ c _ ih =>
      obtain ⟨le, verbatim⟩ := ih
      have short := length_unescape_le c
      simp only [List.length_cons, List.length_append]
      refine ⟨by omega, fun long => ?_⟩
      have meaningless := not_mem_escapes (c := c) (by omega)
      rw [unescape_of_not_mem meaningless]
      exact .backslash meaningless (verbatim (by omega))
  | plain hquote hescape _ ih =>
      obtain ⟨le, verbatim⟩ := ih
      simp only [List.length_cons]
      exact ⟨by omega, fun long => .plain hquote hescape (verbatim (by omega))⟩

/-- A text between quotes reads back exactly if it stands for itself there. -/
theorem stringBody_key_iff {key : List Char} :
    stringBody '\'' (key ++ ['\'']) = some (key, []) ↔ Verbatim key := by
  rw [stringBody_eq_some]
  constructor
  · rintro ⟨inside, text, same⟩
    obtain rfl := List.append_cancel_right same
    exact (length_stringText text).2 le_rfl
  · exact fun h => ⟨key, stringText_verbatim h, rfl⟩

/-! ## Values -/

/-- Values made of none, booleans, integers, strings, lists and maps, nested at most `depth` deep, with
keys of the given kind. -/
inductive PlainData (key : String → Prop) : Nat → Value → Prop
  | none (depth : Nat) : PlainData key depth .none
  | bool (depth : Nat) (b : Bool) : PlainData key depth (.bool b)
  | integer (depth : Nat) (i : Int64) : PlainData key depth (.integer i)
  | string (depth : Nat) (s : String) : PlainData key depth (.string s)
  | list {depth : Nat} {items : List Value} (hitems : ∀ v ∈ items, PlainData key depth v) :
      PlainData key (depth + 1) (.list items)
  | map {depth : Nat} {entries : List (String × Value)} (sorted : NameMap.Sorted entries)
      (hkeys : ∀ e ∈ entries, key e.1) (hvalues : ∀ e ∈ entries, PlainData key depth e.2) :
      PlainData key (depth + 1) (.map entries)

theorem members_join {α : Type} {member : List Char → α → Prop} {texts : List (List Char)}
    {as : List α} (h : List.Forall₂ member texts as) :
    ∃ comma, Members member (joinChars [',', ' '] texts) as comma := by
  suffices ∀ lead, Blanks lead → ∃ comma,
      Members member (lead ++ joinChars [',', ' '] texts) as comma from this [] blanks_nil
  induction h with
  | nil => exact fun lead blank => ⟨false, by simpa [joinChars] using .none blank⟩
  | @cons text a texts as here others ih =>
      intro lead blank
      cases texts with
      | nil =>
          cases others
          exact ⟨false, by simpa [joinChars] using Members.last blank here blanks_nil⟩
      | cons text' texts =>
          obtain ⟨comma, members⟩ := ih [' '] blanks_space
          refine ⟨true, ?_⟩
          simpa [joinChars] using Members.more blank here blanks_nil members

theorem itemLiterals_eq (items : List Value) :
    Value.itemLiterals items = items.map Value.literal := by
  induction items with
  | nil => rfl
  | cons v items ih => rw [Value.itemLiterals, ih, List.map_cons]

theorem entryLiterals_eq (entries : List (String × Value)) :
    Value.entryLiterals entries =
      entries.map fun e => '\'' :: e.1.toList ++ ['\'', ':', ' '] ++ e.2.literal := by
  induction entries with
  | nil => rfl
  | cons e entries ih => rw [Value.entryLiterals, ih, List.map_cons]

theorem written_stringLiteral (s : String) (depth : Nat) :
    Written depth (Value.stringLiteral s.toList) (.string s) := by
  have atom : Atom (Value.stringLiteral s.toList) (.string (String.ofList s.toList)) :=
    .string (.inl rfl) (stringText_stringLiteral s.toList)
  rw [String.ofList_toList] at atom
  exact .of_atom atom

theorem written_key {key : String} (h : Verbatim key.toList) (depth : Nat) :
    Written depth ('\'' :: (key.toList ++ ['\''])) (.string key) := by
  have atom : Atom ('\'' :: (key.toList ++ ['\''])) (.string (String.ofList key.toList)) :=
    .string (.inl rfl) (stringText_verbatim h)
  rw [String.ofList_toList] at atom
  exact .of_atom atom

/-- The text of a value inside a container is a literal with that value. -/
theorem written_literal {depth : Nat} {v : Value}
    (h : PlainData (fun key => Verbatim key.toList) depth v) : Written depth v.literal v := by
  induction h with
  | none depth => exact .of_atom (.constant rfl)
  | bool depth b => exact .of_atom (.constant (by cases b <;> rfl))
  | integer depth i => exact .of_atom (atom_integer i)
  | string depth s => exact written_stringLiteral s depth
  | @list depth items _ ih =>
      have texts : List.Forall₂ (Written depth) (Value.itemLiterals items) items := by
        rw [itemLiterals_eq, List.forall₂_map_left_iff, List.forall₂_same]
        exact ih
      obtain ⟨comma, members⟩ := members_join texts
      rw [Value.literal]
      exact .inr (.list members)
  | @map depth entries sorted hkeys _ ih =>
      have texts : List.Forall₂ (Entry (Written depth)) (Value.entryLiterals entries) entries := by
        rw [entryLiterals_eq, List.forall₂_map_left_iff, List.forall₂_same]
        intro e he
        simpa using Entry.mk (written_key (hkeys e he) depth) rfl blanks_nil blanks_space (ih e he)
      obtain ⟨comma, members⟩ := members_join texts
      rw [Value.literal]
      have written : Bracketed (Written depth) _ _ := .dict members
      rw [NameMap.ofEntries_of_sorted sorted] at written
      exact .inr written

/-! ## Reading back -/

/-- The text of a value inside a container, which is also what a print tag writes for a list or a map,
reads back as the value, for values made of none, booleans, integers, strings, lists and maps that are
nested at most as deep as brackets may be, if each key of a map stands for itself between quotes. -/
theorem parse_literalText {v : Value}
    (h : PlainData (fun key => Verbatim key.toList) maxNesting v) :
    parse v.literalText = some v ∧
      ((∃ items, v = .list items) ∨ (∃ entries, v = .map entries) → parse v.display = some v) := by
  have read : parseChars v.literal = some v := by
    have members : Members (Written maxNesting) ([] ++ v.literal ++ []) [v] false :=
      .last blanks_nil (written_literal h) blanks_nil
    rw [List.nil_append, List.append_nil] at members
    exact parseChars_eq_some.mpr ⟨_, _, members, rfl⟩
  constructor
  · rwa [parse, Value.literalText, String.toList_ofList]
  · rintro (⟨items, rfl⟩ | ⟨entries, rfl⟩)
    · rwa [parse, Value.display, String.toList_ofList]
    · rwa [parse, Value.display, String.toList_ofList]

/-- A dict with a list, and a key with a backslash in front of a `d`. -/
def mixedValue : Value :=
  .map [("\\d", .list [.none, .bool true, .integer (-5), .string "it's \\ \n"]), ("k", .map [])]

theorem plainData_mixedValue : PlainData (fun key => Verbatim key.toList) maxNesting mixedValue := by
  have verbatim_d : Verbatim ['\\', 'd'] := .backslash (by decide) .nil
  have verbatim_k : Verbatim ['k'] := .plain (by decide) (by decide) .nil
  have lt : "\\d" < "k" := by decide
  refine .map (by simpa [NameMap.Sorted] using lt) ?_ ?_
  · simp only [List.forall_mem_cons]
    exact ⟨verbatim_d, verbatim_k, nofun⟩
  · simp only [List.forall_mem_cons]
    refine ⟨.list ?_, .map .nil nofun nofun, nofun⟩
    simp only [List.forall_mem_cons]
    exact ⟨.none _, .bool _ _, .integer _ _, .string _ _, nofun⟩

theorem parse_literalText_mixedValue :
    PlainData (fun key => Verbatim key.toList) maxNesting mixedValue ∧
      parse mixedValue.literalText = some mixedValue ∧
      parse mixedValue.display = some mixedValue :=
  ⟨plainData_mixedValue, (parse_literalText plainData_mixedValue).1,
    (parse_literalText plainData_mixedValue).2 (.inr ⟨_, rfl⟩)⟩

/-- A key with a quote does not read back: the quote ends the key. -/
theorem parse_quoted_key : parse (Value.map [("it's", .integer 1)]).literalText = none := by
  decide +kernel

end Literal

end TextTemplate
