/-!
# Maps from names

A map from names is a list of entries in strictly increasing order of their names, names being
ordered by code points. `insert` keeps the order and replaces an entry of the same name, so two maps
with the same entries are the same list.
-/

namespace TextTemplate

abbrev NameMap (α : Type u) := List (String × α)

namespace NameMap

variable {α : Type u} {β : Type v}

/-- The value under `name`. -/
def find? (m : NameMap α) (name : String) : Option α :=
  match m with
  | [] => none
  | (k, v) :: rest => if k = name then some v else find? rest name

def contains (m : NameMap α) (name : String) : Bool := (m.find? name).isSome

/-- Binds `name` to `value`, replacing what it was bound to. -/
def insert (m : NameMap α) (name : String) (value : α) : NameMap α :=
  match m with
  | [] => [(name, value)]
  | (k, v) :: rest =>
    if k = name then (name, value) :: rest
    else if name < k then (name, value) :: (k, v) :: rest
    else (k, v) :: insert rest name value

def erase (m : NameMap α) (name : String) : NameMap α := m.filter (·.1 != name)

/-- The map with the given entries; of two entries with one name the later wins. -/
def ofEntries (entries : List (String × α)) : NameMap α :=
  entries.foldl (fun m (k, v) => m.insert k v) []

/-- All entries of both maps, those of `other` winning. -/
def union (m other : NameMap α) : NameMap α :=
  other.foldl (fun m (k, v) => m.insert k v) m

def names (m : NameMap α) : List String := m.map (·.1)

def mapValues (f : α → β) (m : NameMap α) : NameMap β := m.map fun (k, v) => (k, f v)

@[simp] theorem find?_nil (name : String) : find? ([] : NameMap α) name = none := rfl

theorem find?_insert_self (m : NameMap α) (name : String) (value : α) :
    (m.insert name value).find? name = some value := by
  induction m with
  | nil => simp [insert, find?]
  | cons e rest ih =>
    obtain ⟨k, v⟩ := e
    simp only [insert]
    split
    · simp [find?]
    · split
      · simp [find?]
      · simp_all [find?]

theorem find?_insert_of_ne (m : NameMap α) {name other : String} (value : α) (h : name ≠ other) :
    (m.insert name value).find? other = m.find? other := by
  induction m with
  | nil => simp [insert, find?, h]
  | cons e rest ih =>
    obtain ⟨k, v⟩ := e
    simp only [insert]
    split
    · next hk => subst hk; simp [find?, h]
    · split <;> simp_all [find?]

theorem find?_insert (m : NameMap α) (name other : String) (value : α) :
    (m.insert name value).find? other = if name = other then some value else m.find? other := by
  by_cases same : name = other
  · rw [if_pos same, ← same, find?_insert_self]
  · rw [if_neg same, find?_insert_of_ne m value same]

/-- What is found after an insertion is the new value or was there before. -/
theorem of_find?_insert {m : NameMap α} {name other : String} {value found : α}
    (h : (m.insert name value).find? other = some found) :
    name = other ∧ value = found ∨ m.find? other = some found := by
  rw [find?_insert] at h
  by_cases same : name = other
  · rw [if_pos same] at h
    exact .inl ⟨same, Option.some.inj h⟩
  · rw [if_neg same] at h
    exact .inr h

/-- The value of the last of the entries with this name. -/
def last? (entries : List (String × α)) (name : String) : Option α :=
  (entries.reverse.find? fun e => e.1 == name).map (·.2)

theorem last?_cons (e : String × α) (entries : List (String × α)) (name : String) :
    last? (e :: entries) name = (last? entries name).or (if e.1 = name then some e.2 else none) := by
  rw [last?, last?, List.reverse_cons, List.find?_append]
  cases entries.reverse.find? fun e => e.1 == name with
  | some found => rfl
  | none =>
    by_cases same : e.1 = name
    · simp [same]
    · simp [same]

/-- Of several entries with one name the last is found. -/
theorem find?_union (m : NameMap α) (other : List (String × α)) (name : String) :
    (m.union other).find? name = (last? other name).or (m.find? name) := by
  unfold union
  induction other generalizing m with
  | nil => rfl
  | cons e rest ih =>
    rw [List.foldl_cons, ih, find?_insert, last?_cons, Option.or_assoc]
    by_cases same : e.1 = name
    · rw [if_pos same, if_pos same, Option.some_or]
    · rw [if_neg same, if_neg same, Option.none_or]

theorem find?_ofEntries (entries : List (String × α)) (name : String) :
    (ofEntries entries).find? name = last? entries name :=
  (find?_union [] entries name).trans (Option.or_none)

theorem mem_of_find? {m : NameMap α} {name : String} {value : α} (h : m.find? name = some value) :
    (name, value) ∈ m := by
  induction m with
  | nil => cases h
  | cons e rest ih =>
    obtain ⟨k, v⟩ := e
    simp only [find?] at h
    split at h
    · next hk =>
      cases h
      exact hk ▸ List.mem_cons_self
    · exact List.mem_cons_of_mem _ (ih h)

/-! ## The order of the names -/

/-- The names are strictly increasing. -/
def Sorted (m : NameMap α) : Prop := m.Pairwise fun a b => a.1 < b.1

@[simp] theorem sorted_nil : Sorted ([] : NameMap α) := List.Pairwise.nil

theorem mem_insert {m : NameMap α} {name : String} {value : α} {e : String × α}
    (h : e ∈ m.insert name value) : e = (name, value) ∨ e ∈ m := by
  induction m with
  | nil => simpa [insert] using h
  | cons x rest ih =>
    obtain ⟨k, v⟩ := x
    simp only [insert] at h
    split at h
    · rcases List.mem_cons.1 h with h | h
      · exact .inl h
      · exact .inr (List.mem_cons_of_mem _ h)
    · split at h
      · exact List.mem_cons.1 h
      · rcases List.mem_cons.1 h with h | h
        · exact .inr (h ▸ List.mem_cons_self)
        · exact (ih h).imp_right (List.mem_cons_of_mem _)

theorem mem_union {m : NameMap α} {other : List (String × α)} {e : String × α}
    (h : e ∈ m.union other) : e ∈ m ∨ e ∈ other := by
  unfold union at h
  induction other generalizing m with
  | nil => exact .inl h
  | cons x rest ih =>
    rcases ih h with h | h
    · rcases mem_insert h with rfl | h
      · exact .inr List.mem_cons_self
      · exact .inl h
    · exact .inr (List.mem_cons_of_mem _ h)

theorem mem_ofEntries {entries : List (String × α)} {e : String × α} (h : e ∈ ofEntries entries) :
    e ∈ entries :=
  (mem_union (m := []) h).resolve_left List.not_mem_nil

theorem Sorted.insert {m : NameMap α} (h : m.Sorted) (name : String) (value : α) :
    (m.insert name value).Sorted := by
  induction m with
  | nil => exact List.pairwise_singleton _ _
  | cons x rest ih =>
    obtain ⟨k, v⟩ := x
    obtain ⟨above, sorted⟩ := List.pairwise_cons.1 h
    simp only [NameMap.insert]
    split
    · next hk => subst hk; exact List.pairwise_cons.2 ⟨above, sorted⟩
    · next hk =>
      split
      · next lt =>
        refine List.pairwise_cons.2 ⟨fun e he => ?_, h⟩
        rcases List.mem_cons.1 he with rfl | he
        · exact lt
        · exact String.lt_trans lt (above e he)
      · next ge =>
        refine List.pairwise_cons.2 ⟨fun e he => ?_, ih sorted⟩
        rcases mem_insert he with rfl | he
        · exact Decidable.byContradiction fun not =>
            hk (String.le_antisymm (String.not_lt.1 ge) (String.not_lt.1 not))
        · exact above e he

theorem Sorted.union {m : NameMap α} (h : m.Sorted) (other : NameMap α) :
    (m.union other).Sorted := by
  unfold NameMap.union
  induction other generalizing m with
  | nil => exact h
  | cons e rest ih => exact ih (h.insert e.1 e.2)

theorem sorted_ofEntries (entries : List (String × α)) : (ofEntries entries).Sorted :=
  sorted_nil.union entries

theorem insert_of_lt {m : NameMap α} {name : String} (h : ∀ e ∈ m, e.1 < name) (value : α) :
    m.insert name value = m ++ [(name, value)] := by
  induction m with
  | nil => rfl
  | cons e rest ih =>
      obtain ⟨k, v⟩ := e
      have lt : k < name := h (k, v) List.mem_cons_self
      rw [insert, if_neg (String.ne_of_lt lt), if_neg (String.lt_asymm lt),
        ih fun e he => h e (List.mem_cons_of_mem _ he), List.cons_append]

/-- Entries in order are a map as they stand. -/
theorem ofEntries_of_sorted {m : NameMap α} (h : m.Sorted) : ofEntries m = m := by
  suffices ∀ front rest : NameMap α, Sorted (front ++ rest) →
      rest.foldl (fun m (k, v) => m.insert k v) front = front ++ rest from this [] m h
  intro front rest
  induction rest generalizing front with
  | nil => simp
  | cons e rest ih =>
      obtain ⟨k, v⟩ := e
      intro sorted
      have lt : ∀ e ∈ front, e.1 < k :=
        fun e he => (List.pairwise_append.mp sorted).2.2 e he (k, v) List.mem_cons_self
      rw [List.append_cons] at sorted ⊢
      rw [List.foldl_cons]
      dsimp only
      rw [insert_of_lt lt, ih _ sorted]

end NameMap

end TextTemplate
