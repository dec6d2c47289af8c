import Mathlib
import TextTemplate.Value.Serial

/-!
# What a serializer accepts

A description is a sequence of calls. Some calls offend by themselves: an integer that no value
holds, a key without an obvious text, a value without a key, data that fails. A description has a
value if and only if no call offends, and then its value is its meaning; else the first offending
call is the error (`toValue_represents`). The meaning is said without regard to errors, and the
offences without regard to values.
-/

namespace TextTemplate

/-! ## Integers of all widths -/

namespace IntegerWidth

/-- The integers of this width. -/
def holds (n : Int) : IntegerWidth → Bool
  | .i8 => -2 ^ 7 ≤ n && n < 2 ^ 7
  | .i16 => -2 ^ 15 ≤ n && n < 2 ^ 15
  | .i32 => -2 ^ 31 ≤ n && n < 2 ^ 31
  | .i64 => -2 ^ 63 ≤ n && n < 2 ^ 63
  | .i128 => -2 ^ 127 ≤ n && n < 2 ^ 127
  | .u8 => 0 ≤ n && n < 2 ^ 8
  | .u16 => 0 ≤ n && n < 2 ^ 16
  | .u32 => 0 ≤ n && n < 2 ^ 32
  | .u64 => 0 ≤ n && n < 2 ^ 64
  | .u128 => 0 ≤ n && n < 2 ^ 128

end IntegerWidth

namespace Serial

/-! ## Calls and offences -/

/-- A call on the serializer. -/
inductive Call where
  /-- A part describes itself, as the key of a map or as anything else. -/
  | describe (position : MapPart) (part : Serial)
  /-- The value of a map comes without a key in front of it. -/
  | keyless

mutual

/-- The calls that a description makes if none of them offends. -/
def calls (position : MapPart) : Serial → List Call
  | .present content => .describe position (.present content) :: content.calls position
  | .newtypeStruct content => .describe position (.newtypeStruct content) :: content.calls position
  | .newtypeVariant name content =>
    .describe position (.newtypeVariant name content) :: content.calls .value
  | .sequence items => .describe position (.sequence items) :: itemCalls items
  | .tupleVariant name items => .describe position (.tupleVariant name items) :: itemCalls items
  | .mapParts parts => .describe position (.mapParts parts) :: partCalls false parts
  | .struct fields => .describe position (.struct fields) :: fieldCalls fields
  | .structVariant name fields =>
    .describe position (.structVariant name fields) :: fieldCalls fields
  | s => [.describe position s]

def itemCalls : List Serial → List Call
  | [] => []
  | item :: rest => item.calls .value ++ itemCalls rest

/-- The calls of the parts of a map; `waiting` says whether a key waits for its value. -/
def partCalls (waiting : Bool) : List (MapPart × Serial) → List Call
  | [] => []
  | (.key, key) :: rest => key.calls .key ++ partCalls true rest
  | (.value, value) :: rest =>
    (if waiting then [] else [.keyless]) ++ (value.calls .value ++ partCalls false rest)

def fieldCalls : List (String × Serial) → List Call
  | [] => []
  | (_, value) :: rest => value.calls .value ++ fieldCalls rest

end

/-- The kinds of data that can be the key of a map, or enclose one. -/
def isKey : Serial → Bool
  | .bool _ | .integer .. | .char _ | .string _ | .unitVariant _ => true
  | .present _ | .newtypeStruct _ => true
  | _ => false

/-- Why a call fails, whatever was called before. -/
def Call.offence? : Call → Option String
  | .keyless => some "map value serialized before its key"
  | .describe _ (.failure reason) => some reason
  | .describe _ (.integer .i128 _) => some "i128 is not supported"
  | .describe _ (.integer .u128 _) => some "u128 is not supported"
  | .describe .value (.integer .u64 n) =>
    if Int64.maxValue.toInt < n then some "out of range integral type conversion attempted"
    else none
  | .describe .value _ => none
  | .describe .key part => if part.isKey then none else some "map key must be a string"

/-- Every integer is one of its width. -/
def Call.fits : Call → Bool
  | .describe _ (.integer width n) => width.holds n
  | _ => true

/-- All integers in the description are integers of their widths. -/
abbrev Fits (s : Serial) : Prop := ∀ call ∈ s.calls .value, call.fits

/-! ## Meanings -/

/-- The text of a key. -/
def keyName : Serial → String
  | .bool b => if b then "true" else "false"
  | .integer _ n => String.ofList (Number.integerText n)
  | .char c => String.singleton c
  | .string s => s
  | .present content => content.keyName
  | .newtypeStruct content => content.keyName
  | .unitVariant name => name
  | _ => ""

mutual

/-- The value that a description stands for. -/
def meaning : Serial → Value
  | .bool b => .bool b
  | .integer _ n => .integer (Int64.ofInt n)
  | .single x => .float (Number.roundTo .single x)
  | .double x => .float x
  | .char c => .string (String.singleton c)
  | .string s => .string s
  | .bytes data => .list (data.map fun b => .integer (Int64.ofInt b.toNat))
  | .absent | .unit | .unitStruct | .failure _ => .none
  | .present content => content.meaning
  | .unitVariant name => .string name
  | .newtypeStruct content => content.meaning
  | .newtypeVariant name content => .map [(name, content.meaning)]
  | .sequence items => .list (itemMeanings items)
  | .tupleVariant name items => .map [(name, .list (itemMeanings items))]
  | .mapParts parts => .map (NameMap.ofEntries (partEntries none parts))
  | .struct fields => .map (NameMap.ofEntries (fieldEntries fields))
  | .structVariant name fields => .map [(name, .map (NameMap.ofEntries (fieldEntries fields)))]

def itemMeanings : List Serial → List Value
  | [] => []
  | item :: rest => item.meaning :: itemMeanings rest

/-- The entries of a map: each value goes with the key in front of it. -/
def partEntries (waiting : Option String) : List (MapPart × Serial) → List (String × Value)
  | [] => []
  | (.key, key) :: rest => partEntries (some key.keyName) rest
  | (.value, value) :: rest =>
    waiting.toList.map (fun name => (name, value.meaning)) ++ partEntries none rest

def fieldEntries : List (String × Serial) → List (String × Value)
  | [] => []
  | (name, value) :: rest => (name, value.meaning) :: fieldEntries rest

end

/-! ## Verdicts -/

/-- What calls come to that would give `a`: the first offence, or `a`. -/
def verdict {α : Type} (calls : List Call) (a : α) : Except Cause α :=
  match calls.findSome? Call.offence? with
  | some reason => refuse reason
  | none => .ok a

section

variable {α β : Type}

theorem verdict_nil (a : α) : verdict [] a = .ok a := rfl

theorem verdict_cons {call : Call} (h : call.offence? = none) (calls : List Call) (a : α) :
    verdict (call :: calls) a = verdict calls a := by
  rw [verdict, List.findSome?_cons, h, verdict]

theorem verdict_offence {call : Call} {reason : String} (h : call.offence? = some reason)
    (calls : List Call) (a : α) : verdict (call :: calls) a = refuse reason := by
  rw [verdict, List.findSome?_cons, h]

theorem verdict_map (calls : List Call) (a : α) (f : α → β) :
    (verdict calls a).map f = verdict calls (f a) := by
  unfold verdict
  cases calls.findSome? Call.offence? <;> rfl

theorem verdict_bind {first rest : List Call} {a : α} {next : α → Except Cause β} {b : β}
    (h : next a = verdict rest b) : (verdict first a).bind next = verdict (first ++ rest) b := by
  rw [verdict, verdict, List.findSome?_append]
  cases first.findSome? Call.offence? with
  | some reason => rfl
  | none => exact h

theorem verdict_eq_ok {calls : List Call} {a b : α} :
    verdict calls a = .ok b ↔ (∀ call ∈ calls, call.offence? = none) ∧ b = a := by
  unfold verdict
  rw [← List.findSome?_eq_none_iff]
  cases calls.findSome? Call.offence? with
  | none => simp [eq_comm]
  | some reason => simp [refuse]

theorem verdict_eq_error {calls : List Call} {a : α} {cause : Cause} :
    verdict calls a = .error cause ↔ ∃ before call after reason,
      calls = before ++ call :: after ∧ (∀ earlier ∈ before, earlier.offence? = none) ∧
        call.offence? = some reason ∧ cause = .unserializable reason := by
  constructor
  · intro h
    unfold verdict at h
    split at h
    · next reason found =>
        obtain ⟨before, call, after, split, offends, harmless⟩ :=
          List.findSome?_eq_some_iff.mp found
        exact ⟨before, call, after, reason, split, harmless, offends, (Except.error.inj h).symm⟩
    · cases h
  · rintro ⟨before, call, after, reason, rfl, harmless, offends, rfl⟩
    have found : (before ++ call :: after).findSome? Call.offence? = some reason :=
      List.findSome?_eq_some_iff.mpr ⟨before, call, after, rfl, offends, harmless⟩
    rw [verdict, found]
    rfl

end

/-! ## Describing parts -/

theorem keyText_eq : ∀ key : Serial, key.keyText = verdict (key.calls .key) key.keyName
  | .present content => keyText_eq content
  | .newtypeStruct content => keyText_eq content
  | .integer width n => by cases width <;> rfl
  | .bool _ | .char _ | .string _ | .unitVariant _ => rfl
  | .single _ | .double _ | .bytes _ | .absent | .unit | .unitStruct | .newtypeVariant .. => rfl
  | .sequence _ | .tupleVariant .. | .mapParts _ | .struct _ | .structVariant .. => rfl
  | .failure _ => rfl

/-- The integers that a value holds. -/
theorem integerValue_of_le {width : IntegerWidth} (supported : width.isSupported = true) {n : Int}
    (lower : -2 ^ 63 ≤ n) (upper : n < 2 ^ 63) :
    integerValue width n = .ok (.integer (Int64.ofInt n)) := by
  have least : Int64.minValue.toInt = -2 ^ 63 := rfl
  have greatest : Int64.maxValue.toInt = 2 ^ 63 - 1 := rfl
  have within :
      (decide (Int64.minValue.toInt ≤ n) && decide (n ≤ Int64.maxValue.toInt)) = true := by
    rw [Bool.and_eq_true, decide_eq_true_eq, decide_eq_true_eq, least, greatest]
    exact ⟨lower, Int.le_sub_one_of_lt upper⟩
  rw [integerValue, supported, if_pos within]
  rfl

theorem integerValue_eq {width : IntegerWidth} {n : Int} (h : width.holds n = true) :
    integerValue width n =
      verdict [.describe .value (.integer width n)] (.integer (Int64.ofInt n)) := by
  have greatest : Int64.maxValue.toInt = 2 ^ 63 - 1 := rfl
  cases width with
  | i128 | u128 => rfl
  | u64 =>
      simp only [IntegerWidth.holds, Bool.and_eq_true, decide_eq_true_eq] at h
      by_cases large : Int64.maxValue.toInt < n
      · have offends : (Call.describe .value (.integer .u64 n)).offence? =
            some "out of range integral type conversion attempted" := if_pos large
        have outside : (decide (Int64.minValue.toInt ≤ n) &&
            decide (n ≤ Int64.maxValue.toInt)) = false := by
          rw [decide_eq_false (Int.not_le.mpr large), Bool.and_false]
        rw [verdict_offence offends, integerValue, outside]
        rfl
      · have harmless : (Call.describe .value (.integer .u64 n)).offence? = none := if_neg large
        rw [verdict_cons harmless, verdict_nil]
        exact integerValue_of_le rfl (by omega) (by omega)
  | _ =>
      simp only [IntegerWidth.holds, Bool.and_eq_true, decide_eq_true_eq] at h
      rw [verdict_cons rfl, verdict_nil]
      exact integerValue_of_le rfl (by omega) (by omega)

mutual

theorem toValue_eq : ∀ s : Serial, s.Fits → s.toValue = verdict (s.calls .value) s.meaning
  | .integer width n, fits => by
      rw [toValue, integerValue_eq (fits _ List.mem_cons_self)]
      rfl
  | .bool _, _ | .single _, _ | .double _, _ | .char _, _ | .string _, _ | .bytes _, _ => rfl
  | .absent, _ | .unit, _ | .unitStruct, _ | .unitVariant _, _ | .failure _, _ => rfl
  | .present content, fits => by
      rw [toValue, toValue_eq content (List.forall_mem_cons.mp fits).2]
      rfl
  | .newtypeStruct content, fits => by
      rw [toValue, toValue_eq content (List.forall_mem_cons.mp fits).2]
      rfl
  | .newtypeVariant name content, fits => by
      rw [toValue, toValue_eq content (List.forall_mem_cons.mp fits).2, verdict_map]
      rfl
  | .sequence items, fits => by
      rw [toValue, itemValues_eq items (List.forall_mem_cons.mp fits).2, verdict_map]
      rfl
  | .tupleVariant name items, fits => by
      rw [toValue, itemValues_eq items (List.forall_mem_cons.mp fits).2, verdict_map]
      rfl
  | .mapParts parts, fits => by
      rw [toValue, partValues_eq none [] parts (List.forall_mem_cons.mp fits).2, verdict_map]
      rfl
  | .struct fields, fits => by
      rw [toValue, fieldValues_eq [] fields (List.forall_mem_cons.mp fits).2, verdict_map]
      rfl
  | .structVariant name fields, fits => by
      rw [toValue, fieldValues_eq [] fields (List.forall_mem_cons.mp fits).2, verdict_map]
      rfl

theorem itemValues_eq : ∀ items : List Serial, (∀ call ∈ itemCalls items, call.fits) →
    itemValues items = verdict (itemCalls items) (itemMeanings items)
  | [], _ => rfl
  | item :: rest, fits => by
      obtain ⟨first, others⟩ := List.forall_mem_append.mp fits
      rw [itemValues, toValue_eq item first]
      exact verdict_bind (by rw [itemValues_eq rest others, verdict_map]; rfl)

theorem partValues_eq (waiting : Option String) (m : NameMap Value) :
    ∀ parts : List (MapPart × Serial), (∀ call ∈ partCalls waiting.isSome parts, call.fits) →
      partValues waiting m parts =
        verdict (partCalls waiting.isSome parts) (m.union (partEntries waiting parts))
  | [], _ => rfl
  | (.key, key) :: rest, fits => by
      obtain ⟨-, others⟩ := List.forall_mem_append.mp fits
      rw [partValues, keyText_eq]
      exact verdict_bind (partValues_eq (some key.keyName) m rest others)
  | (.value, value) :: rest, fits => by
      obtain ⟨-, inside⟩ := List.forall_mem_append.mp fits
      obtain ⟨first, others⟩ := List.forall_mem_append.mp inside
      cases waiting with
      | none => rfl
      | some name =>
          rw [partValues, toValue_eq value first]
          exact verdict_bind (partValues_eq none (m.insert name value.meaning) rest others)

theorem fieldValues_eq (m : NameMap Value) :
    ∀ fields : List (String × Serial), (∀ call ∈ fieldCalls fields, call.fits) →
      fieldValues m fields = verdict (fieldCalls fields) (m.union (fieldEntries fields))
  | [], _ => rfl
  | (name, value) :: rest, fits => by
      obtain ⟨first, others⟩ := List.forall_mem_append.mp fits
      rw [fieldValues, toValue_eq value first]
      exact verdict_bind (fieldValues_eq (m.insert name value.meaning) rest others)

end

/-! ## Acceptance -/

/-- An integer that is accepted as a value is neither cut off nor wrapped around. -/
theorem toInt_of_accepted {width : IntegerWidth} {n : Int} (h : width.holds n = true)
    (accepted : (Call.describe .value (.integer width n)).offence? = none) :
    (Int64.ofInt n).toInt = n := by
  have greatest : Int64.maxValue.toInt = 2 ^ 63 - 1 := rfl
  cases width with
  | i128 | u128 => cases accepted
  | u64 =>
      have small : ¬ Int64.maxValue.toInt < n := fun large => by
        rw [Call.offence?, if_pos large] at accepted
        cases accepted
      simp only [IntegerWidth.holds, Bool.and_eq_true, decide_eq_true_eq] at h
      exact Int64.toInt_ofInt_of_le (by omega) (by omega)
  | _ =>
      simp only [IntegerWidth.holds, Bool.and_eq_true, decide_eq_true_eq] at h
      exact Int64.toInt_ofInt_of_le (by omega) (by omega)

/-- A description has a value if and only if none of its calls offends, and its value then is its
meaning: no integer in it is cut off, and of several entries with one name the last stays. Otherwise
the error is the first offence, and of the kind for data. -/
theorem toValue_represents {s : Serial} (h : s.Fits) :
    ((∃ v, s.toValue = .ok v) ↔ ∀ call ∈ s.calls .value, call.offence? = none) ∧
      (∀ v, s.toValue = .ok v → v = s.meaning) ∧
      (∀ cause, s.toValue = .error cause ↔ ∃ before call after reason,
        s.calls .value = before ++ call :: after ∧
          (∀ earlier ∈ before, earlier.offence? = none) ∧
          call.offence? = some reason ∧ cause = .unserializable reason) ∧
      (∀ cause, s.toValue = .error cause → cause.kind = .data) ∧
      (∀ width n, .describe .value (.integer width n) ∈ s.calls .value →
        (Call.describe .value (.integer width n)).offence? = none → (Int64.ofInt n).toInt = n) ∧
      ∀ (entries : List (String × Value)) (name : String),
        (NameMap.ofEntries entries).find? name =
          (entries.reverse.find? fun e => e.1 == name).map (·.2) := by
  have run : s.toValue = verdict (s.calls .value) s.meaning := toValue_eq s h
  have refused : ∀ cause, s.toValue = .error cause ↔ ∃ before call after reason,
      s.calls .value = before ++ call :: after ∧
        (∀ earlier ∈ before, earlier.offence? = none) ∧
        call.offence? = some reason ∧ cause = .unserializable reason := fun cause => by
    rw [run]
    exact verdict_eq_error
  refine ⟨?accepted, ?value, refused, ?kind, ?whole, NameMap.find?_ofEntries⟩
  case accepted =>
    rw [run]
    exact ⟨fun ⟨_, ok⟩ => (verdict_eq_ok.mp ok).1,
      fun harmless => ⟨s.meaning, verdict_eq_ok.mpr ⟨harmless, rfl⟩⟩⟩
  case value =>
    intro v ok
    exact (verdict_eq_ok.mp (run.symm.trans ok)).2
  case kind =>
    intro cause failed
    obtain ⟨_, _, _, reason, _, _, _, rfl⟩ := (refused cause).mp failed
    rfl
  case whole =>
    intro width n called harmless
    exact toInt_of_accepted (h _ called) harmless

/-- Widths, keys that are not strings, and two entries with one name. -/
def assorted : Serial :=
  .struct [("counts", .map [(.integer .u64 (2 ^ 64 - 1), .integer .i8 (-2 ^ 7)),
      (.present (.bool true), .integer .u64 (2 ^ 63 - 1))]),
    ("counts", .tupleVariant "Pair" [.bytes [0, 255], .newtypeStruct (.char 'x')])]

theorem toValue_represents_assorted :
    assorted.Fits ∧ (∀ call ∈ assorted.calls .value, call.offence? = none) ∧
      assorted.toValue = .ok (.map [("counts",
        .map [("Pair", .list [.list [.integer 0, .integer 255], .string "x"])])]) := by
  have fits : assorted.Fits := by decide +kernel
  have harmless : ∀ call ∈ assorted.calls .value, call.offence? = none := by decide +kernel
  have ⟨accepted, value, _⟩ := toValue_represents fits
  obtain ⟨v, ok⟩ := accepted.mpr harmless
  exact ⟨fits, harmless, by rw [ok, value v ok]; rfl⟩

end Serial

end TextTemplate
