import TextTemplate.Render.Scopes

/-!
# The name of all scopes

Unless something is bound to it, `context` stands for all scopes together: a path behind it leads where it
leads by itself, and `context` alone is the map of all bindings that can be seen. Looking a name up goes
from the innermost scope outwards, and the map is put together from the outermost scope inwards; both find
the innermost binding (`context_sees_all`).
-/

namespace TextTemplate

/-! ## Paths behind a name -/

namespace Text

/-- A text without the mark is the first part of a text that goes on with the mark. -/
theorem segments_append_mark {mark : Char} {cs : List Char} (h : mark ∉ cs) (rest : List Char) :
    segments mark (cs ++ mark :: rest) = cs :: segments mark rest := by
  induction cs with
  | nil => rw [List.nil_append, segments, if_pos rfl]
  | cons c cs ih =>
      rw [List.mem_cons, not_or] at h
      rw [List.cons_append, segments, if_neg (Ne.symm h.1), ih h.2]

end Text

namespace Scopes

/-- A path with `context` this many times in front. -/
def fromContext : Nat → String → String
  | 0, path => path
  | times + 1, path => "context." ++ fromContext times path

theorem segmentsOf_context (path : String) :
    Text.segmentsOf '.' ("context." ++ path) = "context" :: Text.segmentsOf '.' path := by
  have split : ("context." ++ path).toList = "context".toList ++ '.' :: path.toList :=
    String.toList_append
  rw [Text.segmentsOf, split, Text.segments_append_mark (by decide), List.map_cons, String.ofList_toList]
  rfl

/-- No scope binds `context`. -/
def Unbound (scopes : Scopes) : Prop := ∀ scope ∈ scopes, scope.find? "context" = none

theorem Unbound.get {scopes : Scopes} (free : scopes.Unbound) : scopes.get "context" = none :=
  List.findSome?_eq_none_iff.mpr free

theorem resolve_context_dot {scopes : Scopes} (free : scopes.Unbound) (path : String) :
    scopes.resolve ("context." ++ path) = scopes.resolve path := by
  rw [resolve, resolve, segmentsOf_context]
  have nonempty : Text.segmentsOf '.' path ≠ [] :=
    mt List.map_eq_nil_iff.mp (Text.segments_ne_nil '.' path.toList)
  obtain ⟨first, rest, parts⟩ := List.exists_cons_of_ne_nil nonempty
  rw [parts, resolveSegments.eq_def]
  simp only [free.get, if_true]

theorem resolve_fromContext {scopes : Scopes} (free : scopes.Unbound) (times : Nat) (path : String) :
    scopes.resolve (fromContext times path) = scopes.resolve path := by
  induction times with
  | zero => rfl
  | succ times ih => rw [fromContext, resolve_context_dot free, ih]

theorem resolve_context {scopes : Scopes} (free : scopes.Unbound) :
    scopes.resolve "context" = .map scopes.visible := by
  have single : Text.segmentsOf '.' "context" = ["context"] := by decide
  rw [resolve, single, resolveSegments.eq_def]
  simp only [free.get, if_true]

/-- A path whose first name is bound is followed from the value of that name. -/
theorem resolve_of_bound {scopes : Scopes} {path first : String} {rest : List String} {value : Value}
    (parts : Text.segmentsOf '.' path = first :: rest) (bound : scopes.get first = some value) :
    scopes.resolve path = value.follow rest := by
  rw [resolve, parts, resolveSegments.eq_def]
  simp only [bound]

/-! ## The map of all bindings -/

/-- Of a map in order an entry is found from both ends alike. -/
theorem last?_eq_find? {m : NameMap Value} (sorted : m.Sorted) (name : String) :
    NameMap.last? m name = m.find? name := by
  rw [← NameMap.find?_ofEntries, NameMap.ofEntries_of_sorted sorted]

/-- The innermost binding wins in the map of all bindings, as it does when a name is looked up. -/
theorem find?_visible {scopes : Scopes} (sorted : ∀ scope ∈ scopes, scope.Sorted) (name : String) :
    scopes.visible.find? name = scopes.get name := by
  induction scopes with
  | nil => rfl
  | cons scope outer ih =>
      obtain ⟨here, others⟩ := List.forall_mem_cons.mp sorted
      rw [visible, NameMap.find?_union, last?_eq_find? here, ih others]
      unfold get
      rw [List.findSome?_cons]
      cases scope.find? name with
      | none => rfl
      | some value => rfl

theorem sorted_visible (scopes : Scopes) : scopes.visible.Sorted := by
  induction scopes with
  | nil => exact NameMap.sorted_nil
  | cons scope outer ih => exact ih.union scope

/-- Scopes further in that do not bind the name, and those further out, do not matter. -/
theorem get_append_cons {inner outer : Scopes} {scope : NameMap Value} {name : String} {value : Value}
    (passed : ∀ scope ∈ inner, scope.find? name = none) (bound : scope.find? name = some value) :
    Scopes.get (inner ++ scope :: outer) name = some value := by
  rw [get, List.findSome?_append, List.findSome?_eq_none_iff.mpr passed, Option.none_or,
    List.findSome?_cons, bound]

/-- In scopes that do not bind `context`, a path leads to the same value with `context` in front of it any
number of times. By itself `context` is a map of exactly the names that are bound, each with its innermost
value; so a path whose first name is bound leads through the map to the value to which it leads directly. -/
theorem context_sees_all {scopes : Scopes} (sorted : ∀ scope ∈ scopes, scope.Sorted)
    (free : scopes.Unbound) :
    (∀ times path, scopes.resolve (fromContext times path) = scopes.resolve path) ∧
    ∃ m : NameMap Value, scopes.resolve "context" = .map m ∧ m.Sorted ∧
      (∀ name, m.contains name = scopes.contains name ∧ m.find? name = scopes.get name) ∧
      (∀ inner scope outer name value, scopes = inner ++ scope :: outer →
        (∀ scope ∈ inner, scope.find? name = none) → scope.find? name = some value →
        m.find? name = some value) ∧
      ∀ path first rest, Text.segmentsOf '.' path = first :: rest → scopes.contains first = true →
        (Value.map m).follow (first :: rest) = scopes.resolve path := by
  have looked : ∀ name, scopes.visible.find? name = scopes.get name := find?_visible sorted
  refine ⟨resolve_fromContext free, scopes.visible, resolve_context free, sorted_visible scopes,
    ?names, ?innermost, ?paths⟩
  case names =>
    intro name
    exact ⟨congrArg Option.isSome (looked name), looked name⟩
  case innermost =>
    intro inner scope outer name value split passed bound
    rw [looked name, split]
    exact get_append_cons passed bound
  case paths =>
    intro path first rest parts bound
    obtain ⟨value, here⟩ := Option.isSome_iff_exists.mp bound
    rw [resolve_of_bound parts here, Value.follow, Value.lookup, looked first, here]

/-- A name is bound twice, and the path goes on into the inner value. -/
theorem context_sees_all_shadowed :
    let scopes : Scopes := [
      [("user", .map [("name", .string "Ann")])],
      [("site", .integer 1), ("user", .none)],
      language]
    (∀ scope ∈ scopes, scope.Sorted) ∧ scopes.Unbound ∧
      scopes.resolve "context.context.user.name" = scopes.resolve "user.name" ∧
      ∃ m : NameMap Value, scopes.resolve "context" = .map m ∧
        m.find? "user" = some (.map [("name", .string "Ann")]) ∧
        (Value.map m).follow ["user", "name"] = scopes.resolve "user.name" := by
  intro scopes
  have sorted : ∀ scope ∈ scopes, scope.Sorted := by
    simp only [scopes, language, NameMap.Sorted]
    decide
  have free : scopes.Unbound := by
    simp only [scopes, language, Unbound]
    decide
  obtain ⟨paths, m, same, -, -, innermost, through⟩ := context_sees_all sorted free
  refine ⟨sorted, free, paths 2 "user.name", m, same, ?_, ?_⟩
  · exact innermost [] _ _ "user" _ rfl nofun rfl
  · exact through "user.name" "user" ["name"] (by decide) (by decide)

end Scopes

end TextTemplate
