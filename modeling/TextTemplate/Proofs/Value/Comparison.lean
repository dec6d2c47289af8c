import Mathlib
import TextTemplate.Expression.Basic
import TextTemplate.Proofs.Value.Stripped

/-!
# Equality and order of values

On values without floats, equality is symmetric and transitive, and exactly the values that contain
an undefined value differ from themselves. The order is partial, but where two values can be
compared it behaves like one order: turning the sides around turns the result around, a result says
`equal` exactly for equal values, and comparisons in one direction can be put together
(`comparison_lawful`).
-/

namespace TextTemplate

namespace Value

/-! ## Properties of all parts of a value -/

/-- The items of a list and the values of a map. -/
def members : Value → List Value
  | .list items => items
  | .map entries => entries.map (·.2)
  | _ => []

/-- The property holds of the value and of all values inside. What an object holds is not inside. -/
inductive Throughout (p : Value → Prop) : Value → Prop
  | intro {v : Value} (here : p v) (inside : ∀ w ∈ v.members, Throughout p w) : Throughout p v

namespace Throughout

variable {p : Value → Prop}

theorem here {v : Value} (h : v.Throughout p) : p v := by
  cases h with
  | intro here _ => exact here

theorem items {items : List Value} (h : (Value.list items).Throughout p) :
    ∀ v ∈ items, v.Throughout p := by
  cases h with
  | intro _ inside => exact inside

theorem entries {entries : NameMap Value} (h : (Value.map entries).Throughout p) :
    ∀ e ∈ entries, e.2.Throughout p := by
  cases h with
  | intro _ inside => exact fun e he => inside e.2 (List.mem_map_of_mem he)

end Throughout

/-- A property that passes from the members of a value to the value holds of all values. -/
theorem insideOut {motive : Value → Prop}
    (step : ∀ v, (∀ w ∈ v.members, motive w) → motive v) (v : Value) : motive v := by
  induction v using memberwise with
  | list items ih => exact step _ ih
  | map entries ih => exact step _ (List.forall_mem_map.mpr ih)
  | other v noList noMap =>
      refine step v fun w hw => ?_
      cases v with
      | list items => exact absurd rfl (noList items)
      | map entries => exact absurd rfl (noMap entries)
      | _ => cases hw

/-- There is no float in the value. -/
abbrev Floatless (v : Value) : Prop := v.Throughout fun w => ∀ x, w ≠ .float x

/-- There is no undefined value in the value. -/
abbrev Determined (v : Value) : Prop := v.Throughout (· ≠ .undefined)

/-! ## Equality -/

section

variable {α : Type} {R : α → α → Prop} {as bs cs : List α}

theorem forall₂_symm (h : List.Forall₂ R as bs) (symm : ∀ a ∈ as, ∀ b ∈ bs, R a b → R b a) :
    List.Forall₂ R bs as := by
  induction h with
  | nil => exact .nil
  | cons first _ ih =>
      refine .cons (symm _ List.mem_cons_self _ List.mem_cons_self first) (ih ?_)
      exact fun a ha b hb => symm a (List.mem_cons_of_mem _ ha) b (List.mem_cons_of_mem _ hb)

theorem forall₂_trans (h : List.Forall₂ R as bs) (k : List.Forall₂ R bs cs)
    (trans : ∀ a ∈ as, ∀ b ∈ bs, ∀ c ∈ cs, R a b → R b c → R a c) : List.Forall₂ R as cs := by
  induction h generalizing cs with
  | nil => exact k
  | cons first _ ih =>
      cases k with
      | cons second others =>
          refine .cons (trans _ List.mem_cons_self _ List.mem_cons_self _ List.mem_cons_self
            first second) (ih others ?_)
          exact fun a ha b hb c hc => trans a (List.mem_cons_of_mem _ ha) b
            (List.mem_cons_of_mem _ hb) c (List.mem_cons_of_mem _ hc)

end

theorem same_list {as bs : List Value} :
    (Value.list as).same (.list bs) = true ↔ List.Forall₂ (fun a b => a.same b = true) as bs := by
  rw [same]
  induction as generalizing bs with
  | nil => cases bs <;> simp [sameItems]
  | cons a as ih => cases bs <;> simp [sameItems, ih]

theorem same_map {as bs : NameMap Value} :
    (Value.map as).same (.map bs) = true ↔
      List.Forall₂ (fun a b => a.1 = b.1 ∧ a.2.same b.2 = true) as bs := by
  rw [same]
  induction as generalizing bs with
  | nil => cases bs <;> simp [sameEntries]
  | cons a as ih => cases bs <;> simp [sameEntries, ih]

theorem same_symm {a b : Value} (ha : a.Floatless) (hb : b.Floatless) (h : a.same b = true) :
    b.same a = true := by
  induction a using memberwise generalizing b with
  | list as ih =>
      cases b with
      | list bs =>
          refine same_list.mpr (forall₂_symm (same_list.mp h) fun a hmem b hmem' same => ?_)
          exact ih a hmem (ha.items a hmem) (hb.items b hmem') same
      | _ => cases h
  | map as ih =>
      cases b with
      | map bs =>
          refine same_map.mpr (forall₂_symm (same_map.mp h) fun a hmem b hmem' same => ?_)
          exact ⟨same.1.symm, ih a hmem (ha.entries a hmem) (hb.entries b hmem') same.2⟩
      | _ => cases h
  | other a noList noMap =>
      cases a with
      | list as => exact absurd rfl (noList as)
      | map as => exact absurd rfl (noMap as)
      | float x => exact absurd rfl (ha.here x)
      | _ => cases b <;> simp_all [same]

theorem same_comm {a b : Value} (ha : a.Floatless) (hb : b.Floatless) : a.same b = b.same a :=
  Bool.eq_iff_iff.mpr ⟨same_symm ha hb, same_symm hb ha⟩

theorem same_trans {a b c : Value} (ha : a.Floatless) (hb : b.Floatless) (hc : c.Floatless)
    (hab : a.same b = true) (hbc : b.same c = true) : a.same c = true := by
  induction a using memberwise generalizing b c with
  | list as ih =>
      cases b with
      | list bs =>
          cases c with
          | list cs =>
              refine same_list.mpr (forall₂_trans (same_list.mp hab) (same_list.mp hbc) ?_)
              exact fun a ma b mb c mc => ih a ma (ha.items a ma) (hb.items b mb) (hc.items c mc)
          | _ => cases hbc
      | _ => cases hab
  | map as ih =>
      cases b with
      | map bs =>
          cases c with
          | map cs =>
              refine same_map.mpr (forall₂_trans (same_map.mp hab) (same_map.mp hbc) ?_)
              exact fun a ma b mb c mc hab hbc => ⟨hab.1.trans hbc.1,
                ih a ma (ha.entries a ma) (hb.entries b mb) (hc.entries c mc) hab.2 hbc.2⟩
          | _ => cases hbc
      | _ => cases hab
  | other a noList noMap =>
      cases a with
      | list as => exact absurd rfl (noList as)
      | map as => exact absurd rfl (noMap as)
      | float x => exact absurd rfl (ha.here x)
      | _ =>
        cases b with
        | float x => exact absurd rfl (hb.here x)
        | _ => cases c <;> simp_all [same]

/-- A value without floats equals itself unless something in it is undefined. -/
theorem same_self_iff {a : Value} (ha : a.Floatless) : a.same a = true ↔ a.Determined := by
  induction a using memberwise with
  | list as ih =>
      rw [same_list, List.forall₂_same]
      constructor
      · exact fun h => .intro nofun fun v hv => (ih v hv (ha.items v hv)).mp (h v hv)
      · exact fun h v hv => (ih v hv (ha.items v hv)).mpr (h.items v hv)
  | map as ih =>
      rw [same_map, List.forall₂_same]
      constructor
      · intro h
        refine .intro nofun fun v hv => ?_
        obtain ⟨e, he, rfl⟩ := List.mem_map.mp hv
        exact (ih e he (ha.entries e he)).mp (h e he).2
      · exact fun h e he => ⟨rfl, (ih e he (ha.entries e he)).mpr (h.entries e he)⟩
  | other a noList noMap =>
      cases a with
      | list as => exact absurd rfl (noList as)
      | map as => exact absurd rfl (noMap as)
      | float x => exact absurd rfl (ha.here x)
      | undefined => exact ⟨nofun, fun h => absurd rfl h.here⟩
      | _ => exact ⟨fun _ => .intro nofun nofun, fun _ => by simp [same]⟩

/-! ## Order -/

/-- The ways in which two values without floats can be compared. -/
inductive Compares : Value → Value → Ordering → Prop
  | integers (i j : Int64) : Compares (.integer i) (.integer j) (Ord.compare i.toInt j.toInt)
  | bools (s t : Bool) : Compares (.bool s) (.bool t) (Ord.compare s.toNat t.toNat)
  | strings (s t : String) : Compares (.string s) (.string t) (Ord.compare s t)
  | lists {as bs : List Value} {o : Ordering} (h : compareItems as bs = .ok o) :
      Compares (.list as) (.list bs) o

theorem compares_of_ok {a b : Value} (ha : a.Floatless) (hb : b.Floatless) {o : Ordering}
    (h : a.compare b = .ok o) : Compares a b o := by
  cases a with
  | float x => exact absurd rfl (ha.here x)
  | integer i =>
      cases b with
      | integer j => cases h; exact .integers i j
      | float x => exact absurd rfl (hb.here x)
      | _ => cases h
  | bool s =>
      cases b with
      | bool t => cases h; exact .bools s t
      | _ => cases h
  | string s =>
      cases b with
      | string t => cases h; exact .strings s t
      | _ => cases h
  | list as =>
      cases b with
      | list bs => exact .lists h
      | _ => cases h
  | _ => cases b <;> cases h

/-- Lists are compared by their first items, and by the others if these are equal. -/
theorem compareItems_cons {a b : Value} {as bs : List Value} {o : Ordering} :
    compareItems (a :: as) (b :: bs) = .ok o ↔
      a.compare b = .ok .eq ∧ compareItems as bs = .ok o ∨ a.compare b = .ok o ∧ o ≠ .eq := by
  rw [compareItems]
  rcases a.compare b with reason | first
  · simp
  · cases first <;> cases o <;> simp

theorem compareItems_swap {as bs : List Value} {o : Ordering}
    (swap : ∀ a ∈ as, ∀ b ∈ bs, ∀ o, a.compare b = .ok o → b.compare a = .ok o.swap)
    (h : compareItems as bs = .ok o) : compareItems bs as = .ok o.swap := by
  induction as generalizing bs with
  | nil => cases bs <;> cases h <;> rfl
  | cons a as ih =>
      cases bs with
      | nil => cases h; rfl
      | cons b bs =>
          have first := swap a List.mem_cons_self b List.mem_cons_self
          obtain ⟨equal, rest⟩ | ⟨differ, ne⟩ := compareItems_cons.mp h
          · refine compareItems_cons.mpr (.inl ⟨first _ equal, ih (fun a ha b hb => ?_) rest⟩)
            exact swap a (List.mem_cons_of_mem _ ha) b (List.mem_cons_of_mem _ hb)
          · exact compareItems_cons.mpr (.inr ⟨first _ differ, by cases o <;> simp_all⟩)

theorem compare_swap {a b : Value} (ha : a.Floatless) (hb : b.Floatless) {o : Ordering}
    (h : a.compare b = .ok o) : b.compare a = .ok o.swap := by
  induction a using insideOut generalizing b o with
  | step a ih =>
      cases compares_of_ok ha hb h with
      | integers i j => rw [← Std.OrientedCmp.eq_swap, compare]
      | bools s t => rw [← Std.OrientedCmp.eq_swap, compare]
      | strings s t => rw [← Std.OrientedCmp.eq_swap, compare]; rfl
      | lists items =>
          rw [compare]
          exact compareItems_swap (fun a hmem b hmem' o =>
            ih a hmem (ha.items a hmem) (hb.items b hmem')) items

theorem compareItems_eq_iff {as bs : List Value} {o : Ordering}
    (same : ∀ a ∈ as, ∀ b ∈ bs, ∀ o, a.compare b = .ok o → (o = .eq ↔ a.same b = true))
    (h : compareItems as bs = .ok o) :
    o = .eq ↔ List.Forall₂ (fun a b => a.same b = true) as bs := by
  induction as generalizing bs with
  | nil => cases bs <;> cases h <;> simp
  | cons a as ih =>
      cases bs with
      | nil => cases h; simp
      | cons b bs =>
          have first := same a List.mem_cons_self b List.mem_cons_self
          rw [List.forall₂_cons]
          obtain ⟨equal, rest⟩ | ⟨differ, ne⟩ := compareItems_cons.mp h
          · rw [ih (fun a ha b hb => ?_) rest]
            · simp [(first _ equal).mp rfl]
            · exact same a (List.mem_cons_of_mem _ ha) b (List.mem_cons_of_mem _ hb)
          · simp [ne, ← first _ differ]

/-- The result of a comparison is `equal` exactly for equal values. -/
theorem compare_eq_iff {a b : Value} (ha : a.Floatless) (hb : b.Floatless) {o : Ordering}
    (h : a.compare b = .ok o) : o = .eq ↔ a.same b = true := by
  induction a using insideOut generalizing b o with
  | step a ih =>
      cases compares_of_ok ha hb h with
      | integers i j => simp [same, Int64.toInt_inj]
      | bools s t => cases s <;> cases t <;> decide
      | strings s t => simp [same]
      | lists items =>
          rw [same_list]
          exact compareItems_eq_iff (fun a hmem b hmem' o =>
            ih a hmem (ha.items a hmem) (hb.items b hmem')) items

/-- Two comparisons in one direction make one, which says `less` if either does. -/
theorem then_of_isLE {α : Type} [Ord α] [Std.TransOrd α] [Std.LawfulEqOrd α] {a b c : α}
    (hab : (Ord.compare a b).isLE) (hbc : (Ord.compare b c).isLE) :
    Ord.compare a c = (Ord.compare a b).then (Ord.compare b c) := by
  cases first : Ord.compare a b with
  | lt => exact Std.TransCmp.lt_of_lt_of_isLE first hbc
  | eq => rw [Std.LawfulEqCmp.eq_of_compare first, Ordering.eq_then]
  | gt => simp [first] at hab

theorem eq_lt_of_isLE {o : Ordering} (h : o.isLE) (ne : o ≠ .eq) : o = .lt := by
  cases o with
  | lt => rfl
  | eq => exact absurd rfl ne
  | gt => cases h

theorem then_lt_of_isLE {o : Ordering} (h : o.isLE) : o.then .lt = .lt := by
  cases o with
  | gt => cases h
  | _ => rfl

theorem compareItems_trans {as bs cs : List Value} {o p : Ordering}
    (trans : ∀ a ∈ as, ∀ b ∈ bs, ∀ c ∈ cs, ∀ o p, a.compare b = .ok o → b.compare c = .ok p →
      o.isLE → p.isLE → a.compare c = .ok (o.then p))
    (hab : compareItems as bs = .ok o) (hbc : compareItems bs cs = .ok p)
    (ho : o.isLE) (hp : p.isLE) : compareItems as cs = .ok (o.then p) := by
  induction as generalizing bs cs with
  | nil =>
      cases bs with
      | nil => cases hab; exact hbc
      | cons b bs =>
          cases hab
          cases cs with
          | nil => cases hbc; cases hp
          | cons c cs => rfl
  | cons a as ih =>
      cases bs with
      | nil => cases hab; cases ho
      | cons b bs =>
          cases cs with
          | nil => cases hbc; cases hp
          | cons c cs =>
              have first := trans a List.mem_cons_self b List.mem_cons_self c List.mem_cons_self
              -- The first difference of the outer lists is the first one on the way.
              obtain ⟨equal, rest⟩ | ⟨differ, ne⟩ := compareItems_cons.mp hab
              · obtain ⟨equal', rest'⟩ | ⟨differ', ne'⟩ := compareItems_cons.mp hbc
                · refine compareItems_cons.mpr (.inl ⟨first _ _ equal equal' rfl rfl, ?_⟩)
                  exact ih (fun a ha b hb c hc => trans a (List.mem_cons_of_mem _ ha) b
                    (List.mem_cons_of_mem _ hb) c (List.mem_cons_of_mem _ hc)) rest rest'
                · obtain rfl := eq_lt_of_isLE hp ne'
                  rw [then_lt_of_isLE ho]
                  exact compareItems_cons.mpr (.inr ⟨first _ _ equal differ' rfl hp, nofun⟩)
              · obtain rfl := eq_lt_of_isLE ho ne
                have less : a.compare c = .ok .lt := by
                  obtain ⟨equal', -⟩ | ⟨differ', -⟩ := compareItems_cons.mp hbc
                  · exact first _ _ differ equal' ho rfl
                  · exact first _ _ differ differ' ho hp
                exact compareItems_cons.mpr (.inr ⟨less, nofun⟩)

theorem compare_trans {a b c : Value} (ha : a.Floatless) (hb : b.Floatless) (hc : c.Floatless)
    {o p : Ordering} (hab : a.compare b = .ok o) (hbc : b.compare c = .ok p)
    (ho : o.isLE) (hp : p.isLE) : a.compare c = .ok (o.then p) := by
  induction a using insideOut generalizing b c o p with
  | step a ih =>
      cases compares_of_ok ha hb hab with
      | integers i j =>
          cases compares_of_ok hb hc hbc with
          | integers _ k => rw [compare, then_of_isLE ho hp]
      | bools s t =>
          cases compares_of_ok hb hc hbc with
          | bools _ u => rw [compare, then_of_isLE ho hp]
      | strings s t =>
          cases compares_of_ok hb hc hbc with
          | strings _ u => rw [compare, ← then_of_isLE ho hp]; rfl
      | lists items =>
          cases compares_of_ok hb hc hbc with
          | lists items' =>
              rw [compare]
              exact compareItems_trans (fun a ma b mb c mc o p =>
                ih a ma (ha.items a ma) (hb.items b mb) (hc.items c mc)) items items' ho hp

/-- On values that can be compared, the operators say what the comparison says: exactly one of `<`,
`==` and `>` holds, and `<=` and `>=` are put together from these. -/
theorem operators_of_compare {a b : Value} (ha : a.Floatless) (hb : b.Floatless) {o : Ordering}
    (h : a.compare b = .ok o) : ∃ less equal greater : Bool,
      Operator.lt.apply a b = .ok less ∧ Operator.eq.apply a b = .ok equal ∧
      Operator.gt.apply a b = .ok greater ∧
      [less, equal, greater].count true = 1 ∧
      Operator.le.apply a b = .ok (less || equal) ∧
      Operator.ge.apply a b = .ok (greater || equal) := by
  have same : a.same b = (o == .eq) := by
    rw [Bool.eq_iff_iff, ← compare_eq_iff ha hb h, beq_iff_eq]
  refine ⟨o == .lt, o == .eq, o == .gt, ?_, ?_, ?_, ?_, ?_, ?_⟩
  · rw [Operator.apply, h]; rfl
  · rw [Operator.apply, same]
  · rw [Operator.apply, h]; rfl
  · cases o <;> rfl
  · rw [Operator.apply, h]; cases o <;> rfl
  · rw [Operator.apply, h]; cases o <;> rfl

/-- Equality and order of values without floats. Equality is symmetric and transitive, and a value
equals itself unless something in it is undefined. Comparing the other way around gives the reverse
result; the result is `equal` exactly for equal values; two comparisons in one direction make one,
which says `less` if either does; and the operators say what the comparison says. -/
theorem comparison_lawful {a b c : Value} (ha : a.Floatless) (hb : b.Floatless)
    (hc : c.Floatless) :
    a.same b = b.same a ∧
      (a.same b = true → b.same c = true → a.same c = true) ∧
      (a.same a = true ↔ a.Determined) ∧
      (∀ o, a.compare b = .ok o ↔ b.compare a = .ok o.swap) ∧
      (∀ o, a.compare b = .ok o → (o = .eq ↔ a.same b = true)) ∧
      (∀ o p, a.compare b = .ok o → b.compare c = .ok p → o.isLE → p.isLE →
        a.compare c = .ok (o.then p)) ∧
      ∀ o, a.compare b = .ok o → ∃ less equal greater : Bool,
        Operator.lt.apply a b = .ok less ∧ Operator.eq.apply a b = .ok equal ∧
        Operator.gt.apply a b = .ok greater ∧
        [less, equal, greater].count true = 1 ∧
        Operator.le.apply a b = .ok (less || equal) ∧
        Operator.ge.apply a b = .ok (greater || equal) := by
  have swap (o : Ordering) : a.compare b = .ok o ↔ b.compare a = .ok o.swap :=
    ⟨compare_swap ha hb, fun h => o.swap_swap ▸ compare_swap hb ha h⟩
  exact ⟨same_comm ha hb, same_trans ha hb hc, same_self_iff ha, swap,
    fun _ => compare_eq_iff ha hb, fun _ _ => compare_trans ha hb hc,
    fun _ => operators_of_compare ha hb⟩

/-- The comparison of two lists ends at their first difference: what is behind it need not be of
matching kinds, and may be undefined. -/
theorem comparison_lawful_lists :
    let a : Value := .list [.integer 1, .string "x", .none]
    let b : Value := .list [.integer 1, .string "y", .undefined]
    let c : Value := .list [.integer 2]
    (a.Floatless ∧ b.Floatless ∧ c.Floatless) ∧
      a.compare b = .ok .lt ∧ b.compare c = .ok .lt ∧ a.compare c = .ok .lt ∧
      b.compare a = .ok .gt ∧ ¬ b.same b = true := by
  intro a b c
  have ha : a.Floatless := .intro nofun fun w hw => by
    fin_cases hw <;> exact .intro nofun nofun
  have hb : b.Floatless := .intro nofun fun w hw => by
    fin_cases hw <;> exact .intro nofun nofun
  have hc : c.Floatless := .intro nofun fun w hw => by
    fin_cases hw
    exact .intro nofun nofun
  have hab : a.compare b = .ok .lt := by decide
  have hbc : b.compare c = .ok .lt := by decide
  obtain ⟨-, -, -, swap, -, trans, -⟩ := comparison_lawful ha hb hc
  exact ⟨⟨ha, hb, hc⟩, hab, hbc, trans _ _ hab hbc rfl rfl, (swap _).mp hab, by decide⟩

end Value

end TextTemplate
