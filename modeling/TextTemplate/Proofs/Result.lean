import Mathlib

/-!
# Computations that may fail

What a successful run of steps in sequence, or of one step for each member of a list, says about the
single steps.
-/

namespace TextTemplate

theorem exists_of_bind_eq_ok {ε α β : Type} {act : Except ε α} {next : α → Except ε β} {b : β}
    (h : act >>= next = .ok b) : ∃ a, act = .ok a ∧ next a = .ok b := by
  cases act with
  | error e => cases h
  | ok a => exact ⟨a, rfl, h⟩

theorem exists_of_map_eq_ok {ε α β : Type} {act : Except ε α} {f : α → β} {b : β}
    (h : act.map f = .ok b) : ∃ a, act = .ok a ∧ f a = b := by
  cases act with
  | error e => cases h
  | ok a => exact ⟨a, rfl, Except.ok.inj h⟩

theorem forall_mem_of_forall₂ {α β : Type} {R : α → β → Prop} {P : α → Prop} {as : List α}
    {bs : List β} (h : List.Forall₂ R as bs) (holds : ∀ a b, R a b → P a) : ∀ a ∈ as, P a :=
  ((List.forall₂_and_left as bs).mp (h.imp fun a b r => ⟨holds a b r, r⟩)).1

theorem mapM_eq_ok {α β ε : Type} {f : α → Except ε β} {as : List α} {bs : List β}
    (h : List.Forall₂ (fun a b => f a = .ok b) as bs) : as.mapM f = .ok bs := by
  induction h with
  | nil => rfl
  | cons here _ ih =>
      rw [List.mapM_cons, here, ih]
      rfl

theorem forall_mem_of_mapM {α β ε : Type} {f : α → Except ε β} {as : List α} {bs : List β}
    (h : as.mapM f = .ok bs) : ∀ a ∈ as, ∃ b, f a = .ok b := by
  induction as generalizing bs with
  | nil => exact nofun
  | cons a as ih =>
      rw [List.mapM_cons] at h
      obtain ⟨b, here, h⟩ := exists_of_bind_eq_ok h
      obtain ⟨bs', others, -⟩ := exists_of_bind_eq_ok h
      exact List.forall_mem_cons.mpr ⟨⟨b, here⟩, ih others⟩

end TextTemplate
