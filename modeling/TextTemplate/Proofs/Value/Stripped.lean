import TextTemplate.Proofs.Result
import TextTemplate.Render.Template

/-!
# Values taken apart and put together

A value that is taken apart as data and put together again is stripped: what data cannot hold is gone,
and everything else is where it was (`reserialized_eq`). Stripping is a projection onto the values
that consist of data, so rendering a value as data is rendering what is left of it.
-/

namespace TextTemplate

namespace Value

/-- A property that passes from the members of lists and maps to the whole holds of all values. -/
theorem memberwise {motive : Value → Prop}
    (list : ∀ items, (∀ v ∈ items, motive v) → motive (.list items))
    (map : ∀ entries : NameMap Value, (∀ e ∈ entries, motive e.2) → motive (.map entries))
    (other : ∀ v, (∀ items, v ≠ .list items) → (∀ entries, v ≠ .map entries) → motive v)
    (v : Value) : motive v := by
  cases v with
  | list items =>
      refine list items fun v mem => ?_
      have smaller : sizeOf v < sizeOf items := List.sizeOf_lt_of_mem mem
      exact memberwise list map other v
  | map entries =>
      refine map entries fun e mem => ?_
      have smaller : sizeOf e < sizeOf entries := List.sizeOf_lt_of_mem mem
      have pair : sizeOf e = 1 + sizeOf e.1 + sizeOf e.2 := rfl
      exact memberwise list map other e.2
  | _ => exact other _ nofun nofun
termination_by sizeOf v
decreasing_by all_goals simp_wf; omega

/-! ## What is left of a value -/

mutual

/-- What is left of a value as data: absent values and callables are nothing, an object is its text. -/
def stripped : Value → Value
  | .undefined | .none | .callable .. => .none
  | .object _ display _ _ _ => .string display
  | .bool b => .bool b
  | .integer i => .integer i
  | .float x => .float x
  | .string s => .string s
  | .list items => .list (strippedItems items)
  | .map entries => .map (strippedEntries entries)

def strippedItems : List Value → List Value
  | [] => []
  | v :: rest => v.stripped :: strippedItems rest

def strippedEntries : List (String × Value) → List (String × Value)
  | [] => []
  | (k, v) :: rest => (k, v.stripped) :: strippedEntries rest

end

theorem strippedItems_eq (items : List Value) : strippedItems items = items.map stripped := by
  induction items with
  | nil => rfl
  | cons v rest ih => rw [strippedItems, ih, List.map_cons]

theorem strippedEntries_eq (entries : NameMap Value) :
    strippedEntries entries = entries.mapValues stripped := by
  induction entries with
  | nil => rfl
  | cons e rest ih =>
      rw [strippedEntries, ih]
      rfl

/-- A list keeps its length and the order of its items. -/
@[simp] theorem stripped_list (items : List Value) :
    (Value.list items).stripped = .list (items.map stripped) := by
  rw [stripped, strippedItems_eq]

/-- A map keeps its keys. -/
@[simp] theorem stripped_map (entries : NameMap Value) :
    (Value.map entries).stripped = .map (entries.mapValues stripped) := by
  rw [stripped, strippedEntries_eq]

/-- The values that data can hold: there is no absent value, no object and no callable in them. -/
inductive IsData : Value → Prop
  | none : IsData .none
  | bool (b : Bool) : IsData (.bool b)
  | integer (i : Int64) : IsData (.integer i)
  | float (x : Float) : IsData (.float x)
  | string (s : String) : IsData (.string s)
  | list {items : List Value} (members : ∀ v ∈ items, IsData v) : IsData (.list items)
  | map {entries : NameMap Value} (members : ∀ e ∈ entries, IsData e.2) : IsData (.map entries)

theorem isData_stripped (v : Value) : v.stripped.IsData := by
  induction v using memberwise with
  | list items ih =>
      rw [stripped_list]
      refine .list ?_
      rwa [List.forall_mem_map]
  | map entries ih =>
      rw [stripped_map]
      refine .map ?_
      rwa [NameMap.mapValues, List.forall_mem_map]
  | other v noList noMap =>
      cases v with
      | list items => exact absurd rfl (noList items)
      | map entries => exact absurd rfl (noMap entries)
      | _ => rw [stripped]; constructor

theorem IsData.stripped_eq {v : Value} (h : v.IsData) : v.stripped = v := by
  induction h with
  | list _ ih => rw [stripped_list, List.map_congr_left ih, List.map_id']
  | map _ ih =>
      have same := List.map_congr_left fun e he => congrArg (Prod.mk e.1) (ih e he)
      rw [stripped_map]
      exact congrArg Value.map (same.trans (List.map_id' _))
  | _ => rw [stripped]

/-- Exactly the values that data can hold stay as they are. -/
theorem stripped_eq_self_iff {v : Value} : v.stripped = v ↔ v.IsData :=
  ⟨fun same => same ▸ isData_stripped v, IsData.stripped_eq⟩

theorem stripped_stripped (v : Value) : v.stripped.stripped = v.stripped :=
  (isData_stripped v).stripped_eq

/-! ## Taking apart and putting together -/

/-- The keys of every map in the value are in strictly increasing order, as in every value that is
made of maps. What an object holds does not matter. -/
inductive Ordered : Value → Prop
  | list {items : List Value} (members : ∀ v ∈ items, Ordered v) : Ordered (.list items)
  | map {entries : NameMap Value} (sorted : entries.Sorted)
      (members : ∀ e ∈ entries, Ordered e.2) : Ordered (.map entries)
  | other {v : Value} (noList : ∀ items, v ≠ .list items) (noMap : ∀ entries, v ≠ .map entries) :
      Ordered v

end Value

/-- A value all maps of which are in order. Values nest their maps, so that maps cannot carry the order
themselves. -/
abbrev OrderedValue := { v : Value // v.Ordered }

/-! Whatever is put together from data is in order. -/

/-- A map in order, with members in order. -/
def NameMap.Ordered (m : NameMap Value) : Prop := m.Sorted ∧ ∀ e ∈ m, e.2.Ordered

theorem NameMap.Ordered.insert {m : NameMap Value} (h : m.Ordered) (name : String) {v : Value}
    (hv : v.Ordered) : (m.insert name v).Ordered := by
  refine ⟨h.1.insert name v, fun e he => ?_⟩
  rcases NameMap.mem_insert he with rfl | he
  · exact hv
  · exact h.2 e he

theorem NameMap.Ordered.map {m : NameMap Value} (h : m.Ordered) : (Value.map m).Ordered := .map h.1 h.2

theorem NameMap.ordered_nil : NameMap.Ordered [] := ⟨NameMap.sorted_nil, nofun⟩

namespace Serial

theorem ordered_variant (name : String) {v : Value} (h : v.Ordered) : (variant name v).Ordered :=
  (NameMap.ordered_nil.insert name h).map

theorem ordered_integerValue {width : IntegerWidth} {n : Int} {v : Value}
    (h : integerValue width n = .ok v) : v.Ordered := by
  unfold integerValue at h
  split at h
  · cases h
  · split at h
    · cases h
      exact .other nofun nofun
    · cases h

mutual

/-- The value of a description is in order. -/
theorem ordered_toValue : ∀ {s : Serial} {v : Value}, s.toValue = .ok v → v.Ordered
  | .integer .., _, h => ordered_integerValue (by rwa [toValue] at h)
  | .bool _, _, h | .single _, _, h | .double _, _, h | .char _, _, h | .string _, _, h
  | .absent, _, h | .unit, _, h | .unitStruct, _, h | .unitVariant _, _, h => by
      cases h
      exact .other nofun nofun
  | .bytes data, _, h => by
      cases h
      exact .list (List.forall_mem_map.mpr fun _ _ => .other nofun nofun)
  | .present _, _, h | .newtypeStruct _, _, h => ordered_toValue (by rwa [toValue] at h)
  | .newtypeVariant name _, _, h => by
      rw [toValue] at h
      obtain ⟨v, hv, rfl⟩ := exists_of_map_eq_ok h
      exact ordered_variant name (ordered_toValue hv)
  | .sequence _, _, h => by
      rw [toValue] at h
      obtain ⟨vs, hvs, rfl⟩ := exists_of_map_eq_ok h
      exact .list (ordered_itemValues hvs)
  | .tupleVariant name _, _, h => by
      rw [toValue] at h
      obtain ⟨vs, hvs, rfl⟩ := exists_of_map_eq_ok h
      exact ordered_variant name (.list (ordered_itemValues hvs))
  | .mapParts _, _, h => by
      rw [toValue] at h
      obtain ⟨m, hm, rfl⟩ := exists_of_map_eq_ok h
      exact (ordered_partValues NameMap.ordered_nil hm).map
  | .struct _, _, h => by
      rw [toValue] at h
      obtain ⟨m, hm, rfl⟩ := exists_of_map_eq_ok h
      exact (ordered_fieldValues NameMap.ordered_nil hm).map
  | .structVariant name _, _, h => by
      rw [toValue] at h
      obtain ⟨m, hm, rfl⟩ := exists_of_map_eq_ok h
      exact ordered_variant name (ordered_fieldValues NameMap.ordered_nil hm).map

theorem ordered_itemValues : ∀ {items : List Serial} {vs : List Value},
    itemValues items = .ok vs → ∀ v ∈ vs, v.Ordered
  | [], _, h => by
      cases h
      exact nofun
  | item :: rest, _, h => by
      rw [itemValues] at h
      obtain ⟨v, hv, h⟩ := exists_of_bind_eq_ok h
      obtain ⟨vs, hvs, rfl⟩ := exists_of_map_eq_ok h
      exact List.forall_mem_cons.mpr ⟨ordered_toValue hv, ordered_itemValues hvs⟩

theorem ordered_partValues : ∀ {waiting : Option String} {m m' : NameMap Value}
    {parts : List (MapPart × Serial)}, m.Ordered → partValues waiting m parts = .ok m' → m'.Ordered
  | _, _, _, [], hm, h => by
      cases h
      exact hm
  | _, _, _, (.key, _) :: _, hm, h => by
      rw [partValues] at h
      obtain ⟨_, _, h⟩ := exists_of_bind_eq_ok h
      exact ordered_partValues hm h
  | none, _, _, (.value, _) :: _, _, h => nomatch h
  | some k, _, _, (.value, value) :: _, hm, h => by
      rw [partValues] at h
      obtain ⟨v, hv, h⟩ := exists_of_bind_eq_ok h
      exact ordered_partValues (hm.insert k (ordered_toValue hv)) h

theorem ordered_fieldValues : ∀ {m m' : NameMap Value} {fields : List (String × Serial)},
    m.Ordered → fieldValues m fields = .ok m' → m'.Ordered
  | _, _, [], hm, h => by
      cases h
      exact hm
  | _, _, (name, value) :: _, hm, h => by
      rw [fieldValues] at h
      obtain ⟨v, hv, h⟩ := exists_of_bind_eq_ok h
      exact ordered_fieldValues (hm.insert name (ordered_toValue hv)) h

end

end Serial

namespace Value

theorem integerValue_toInt (i : Int64) :
    Serial.integerValue .i64 i.toInt = .ok (.integer i) := by
  have least : Int64.minValue.toInt ≤ i.toInt := i.minValue_le_toInt
  have greatest : i.toInt ≤ Int64.maxValue.toInt := i.toInt_le
  have within : (decide (Int64.minValue.toInt ≤ i.toInt) &&
      decide (i.toInt ≤ Int64.maxValue.toInt)) = true := by
    rw [decide_eq_true least, decide_eq_true greatest, Bool.and_self]
  rw [Serial.integerValue, if_neg (by decide), if_pos within, Int64.ofInt_toInt]

theorem itemValues_itemSerials {items : List Value}
    (h : ∀ v ∈ items, v.serial.toValue = .ok v.stripped) :
    Serial.itemValues (itemSerials items) = .ok (items.map stripped) := by
  induction items with
  | nil => rfl
  | cons v rest ih =>
      obtain ⟨first, others⟩ := List.forall_mem_cons.1 h
      rw [itemSerials, Serial.itemValues, first, ih others]
      rfl

/-- The entries of a map come in order, so each goes behind those that are there. -/
theorem partValues_entrySerials {entries : NameMap Value}
    (h : ∀ e ∈ entries, e.2.serial.toValue = .ok e.2.stripped) {front : NameMap Value}
    (sorted : (front ++ entries.mapValues stripped).Sorted) :
    Serial.partValues Option.none front
      ((entrySerials entries).flatMap fun (key, value) => [(.key, key), (.value, value)]) =
        .ok (front ++ entries.mapValues stripped) := by
  induction entries generalizing front with
  | nil => rw [entrySerials, List.flatMap_nil, Serial.partValues]; simp [NameMap.mapValues]
  | cons e rest ih =>
      obtain ⟨k, v⟩ := e
      obtain ⟨first, others⟩ := List.forall_mem_cons.1 h
      have lt : ∀ e ∈ front, e.1 < k := fun e he =>
        (List.pairwise_append.1 sorted).2.2 e he (k, v.stripped) List.mem_cons_self
      have split : front ++ NameMap.mapValues stripped ((k, v) :: rest) =
          front ++ [(k, v.stripped)] ++ NameMap.mapValues stripped rest := by
        simp [NameMap.mapValues]
      rw [split] at sorted ⊢
      rw [entrySerials, List.flatMap_cons]
      change (v.serial.toValue.bind fun v => Serial.partValues Option.none (front.insert k v)
        ((entrySerials rest).flatMap _)) = _
      rw [first]
      change Serial.partValues Option.none (front.insert k v.stripped) _ = _
      rw [NameMap.insert_of_lt lt, ih others sorted]

/-- A value that is taken apart and put together is what is left of it as data. -/
theorem reserialized_eq {v : Value} (h : v.Ordered) : v.reserialized = .ok v.stripped := by
  induction h with
  | list _ ih =>
      rw [reserialized, serial, Serial.toValue, itemValues_itemSerials ih, stripped_list]
      rfl
  | @map entries sorted _ ih =>
      have sorted : (entries.mapValues stripped).Sorted := List.pairwise_map.2 sorted
      rw [reserialized, serial, Serial.toValue, partValues_entrySerials ih sorted, stripped_map]
      rfl
  | @other v noList noMap =>
      cases v with
      | list items => exact absurd rfl (noList items)
      | map entries => exact absurd rfl (noMap entries)
      | integer i => exact integerValue_toInt i
      | _ => rfl

/-- Rendering a value as data is rendering what is left of it. -/
theorem renderSerial_serial {v : Value} (h : v.Ordered) (p : Program) (e : Engine) (world : World)
    (memory : Memory) :
    p.renderSerial e world memory v.serial = p.render e world memory v.stripped := by
  have data : v.serial.toValue = .ok v.stripped := reserialized_eq h
  rw [Program.renderSerial, data]

/-- Taking a value apart as data and putting it together again always succeeds and is a projection: it
leaves the value that stripping leaves, stripping it once more changes nothing, and exactly the values
that data can hold stay as they are. A program renders both values alike. -/
theorem reserialized_projects (v : OrderedValue) :
    v.val.reserialized = .ok v.val.stripped ∧
      v.val.stripped.reserialized = .ok v.val.stripped ∧
      v.val.stripped.stripped = v.val.stripped ∧
      (v.val.stripped = v.val ↔ v.val.IsData) ∧
      ∀ (p : Program) (e : Engine) (world : World) (memory : Memory),
        p.renderSerial e world memory v.val.serial = p.render e world memory v.val.stripped := by
  obtain ⟨v, h⟩ := v
  have left : v.stripped.Ordered := Serial.ordered_toValue (reserialized_eq h)
  have again : v.stripped.reserialized = .ok v.stripped := by
    rw [reserialized_eq left, stripped_stripped]
  exact ⟨reserialized_eq h, again, stripped_stripped v, stripped_eq_self_iff, renderSerial_serial h⟩

/-- A map with a callable, a list with an absent value and an object, and a map inside. -/
def assorted : Value :=
  .map [("call", .callable (.shared "now") .now),
    ("items", .list [.undefined, .integer 2, .object (.supplied 0) "(1, 2)" "Point" true []]),
    ("user", .map [("active", .bool true), ("name", "A")])]

theorem ordered_assorted : assorted.Ordered := by
  refine .map (by unfold NameMap.Sorted; decide) ?_
  simp only [List.forall_mem_cons]
  refine ⟨.other nofun nofun, .list ?_, .map (by unfold NameMap.Sorted; decide) ?_, nofun⟩
  · simp only [List.forall_mem_cons]
    exact ⟨.other nofun nofun, .other nofun nofun, .other nofun nofun, nofun⟩
  · simp only [List.forall_mem_cons]
    exact ⟨.other nofun nofun, .other nofun nofun, nofun⟩

theorem reserialized_projects_assorted :
    assorted.Ordered ∧
      assorted.reserialized = .ok (.map [("call", .none),
        ("items", .list [.none, .integer 2, .string "(1, 2)"]),
        ("user", .map [("active", .bool true), ("name", "A")])]) ∧
      assorted.stripped.reserialized = .ok assorted.stripped :=
  ⟨ordered_assorted, (reserialized_projects ⟨assorted, ordered_assorted⟩).1,
    (reserialized_projects ⟨assorted, ordered_assorted⟩).2.1⟩

end Value

end TextTemplate
