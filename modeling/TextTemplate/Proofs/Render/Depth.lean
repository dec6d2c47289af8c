import TextTemplate.Proofs.Render.Coupling

/-!
# Rendering deeper

A render that was not stopped by its depth comes to the same at every greater depth: the depth is
only a bound. This is the coupling in which both sides are the same, except that the left one may
run out of depth.
-/

namespace TextTemplate

namespace Render

/-- Nothing differs, but the left side may run out of depth where the right side goes on. -/
def deeper (χ : Type) : Coupling fun _ => χ := .ofChains Eq (· = .tooDeep)

namespace deeper

variable {χ : Type}

theorem lawful : (deeper χ).Lawful := Coupling.ofChains.lawful

theorem states_refl (s : RenderState χ) : (deeper χ).States () s s :=
  ⟨rfl, Coupling.ofChains.cycles_refl _, List.forall₂_same.mpr fun _ _ => rfl, rfl, rfl, rfl, rfl⟩

theorem states_eq {s t : RenderState χ} (h : (deeper χ).States () s t) : s = t := by
  have hcycles := Coupling.ofChains.cycles_eq h
  have hchains : s.chains = t.chains := List.forall₂_eq_eq_eq ▸ h.chains
  obtain ⟨scopes, cycles, chains, includeDepth, made, memory, out⟩ := s
  obtain ⟨scopes', cycles', chains', includeDepth', made', memory', out'⟩ := t
  obtain ⟨rfl, -, -, rfl, rfl, rfl, rfl⟩ := h
  cases hcycles
  cases hchains
  rfl

end deeper

variable {χ : Type} {α : Type}

/-- A computation at a greater depth does as one at a smaller depth does, unless that runs out of
depth. -/
def Rising (act : Family (fun _ : Nat => χ) α) : Prop :=
  ∀ d d', d ≤ d' → ∀ s, act d s = .error .tooDeep ∨ act d' s = act d s

theorem Rising.const (act : RenderM χ α) : Rising fun _ => act := fun _ _ _ _ => .inr rfl

theorem deeper.matches_iff {r r' : Except Stop (Except Error α × RenderState χ)} :
    (deeper χ).Matches () r r' ↔ r = .error .tooDeep ∨ r' = r := by
  match r, r' with
  | .error reason, other => simp [Coupling.Matches, deeper, Coupling.ofChains]
  | .ok (a, s), .ok (b, t) =>
      constructor
      · rintro ⟨rfl, _, _, hst⟩
        rw [states_eq hst]
        exact .inr rfl
      · rintro (h | h)
        · cases h
        · cases h
          exact ⟨rfl, (), trivial, states_refl _⟩
  | .ok _, .error _ => simp [Coupling.Matches]

theorem rising_iff_coupled {act : Family (fun _ : Nat => χ) α} :
    Rising act ↔ ∀ d d', d ≤ d' → (deeper χ).Coupled () fun i => act (i.pick d d') := by
  constructor
  · intro h d d' hd v _ s t hst
    cases deeper.states_eq hst
    exact deeper.matches_iff.mpr (h d d' hd s)
  · intro h d d' hd s
    exact deeper.matches_iff.mp (h d d' hd () trivial s s (deeper.states_refl s))

theorem Rising.of_uniform {act : Family (fun _ : Nat => χ) α}
    (h : Uniform (fun _ act => Rising act) act) : Rising act :=
  rising_iff_coupled.mpr fun d d' hd => .of_uniform deeper.lawful
    (h.reindex (Side.pick d d') fun _ _ hact => rising_iff_coupled.mp hact d d' hd)

section

variable {c : RenderContext χ} {inner : Side → Renderer χ}

theorem deeper.enterCoupled (block : Block) :
    (deeper χ).EnterCoupled () (fun _ => c) fun _ => block := by
  unfold Coupling.EnterCoupled
  cases c.blocks.enter block with
  | none => trivial
  | some chain => exact rfl

variable (hinner : ∀ nodes, (deeper χ).Coupled () fun i => inner i nodes)

include hinner

theorem deeper.nextCoupled : (deeper χ).NextCoupled () (fun _ => c) inner := by
  rintro _ _ chain _ rfl
  refine ⟨rfl, ?_⟩
  cases (c.blocks.next chain).1 with
  | none => trivial
  | some block => exact hinner block.body

theorem deeper.loadCoupled (names : List String) :
    (deeper χ).LoadCoupled () (fun _ => c) inner names := by
  rintro _ _ memory _ rfl
  rcases c.load names memory with ⟨e | p, m⟩
  · exact ⟨rfl, (), trivial, rfl⟩
  · exact ⟨(), trivial, rfl, hinner p.root⟩

theorem deeper.nodeSteps :
    NodeSteps (fun _ act => (deeper χ).Coupled () act) (fun _ => c) inner (.same Side) where
  clock := ⟨_, fun _ => rfl⟩
  functions := ⟨_, fun _ => rfl⟩
  super := .captured (.given (Coupling.coupled_renderNext lawful (nextCoupled hinner)))
  bodies := by
    rintro _ ⟨body, rfl⟩
    exact .given (hinner body)
  cycleAt := by
    rintro _ ⟨id, rfl⟩
    exact .given (.cycleAt lawful rfl)
  putCycle := by
    rintro _ state ⟨id, rfl⟩
    refine .given (.putCycle lawful ?_ state)
    rfl
  blocks := by
    rintro _ ⟨block, rfl⟩
    exact .given (Coupling.coupled_renderBlock lawful (nextCoupled hinner) (enterCoupled block))
  includes _ names := .given (Coupling.coupled_includeTemplate lawful (fun _ _ => congrArg _)
    (loadCoupled hinner names))
  others _ h := h.elim

end

/-- The depth is only a bound. -/
theorem rising_render (c : RenderContext χ) (nodes : List Node) :
    Rising fun depth => render c depth nodes := by
  rw [rising_iff_coupled]
  intro d
  induction d generalizing nodes with
  | zero => exact fun d' _ _ _ _ _ _ => .of_lax rfl rfl
  | succ d ih =>
      intro d' hd
      obtain ⟨d', rfl⟩ := Nat.exists_eq_add_of_lt hd
      have steps := deeper.nodeSteps (c := c) fun nodes => ih nodes (d + d') (Nat.le_add_right ..)
      have all := Coupling.Coupled.of_uniform deeper.lawful (steps.renderAll (.same nodes))
      exact fun v hv s t hst => all v hv s t hst

theorem rising_renderNext (c : RenderContext χ) :
    Rising fun depth => renderNext c (render c depth) :=
  rising_iff_coupled.mpr fun d d' hd => Coupling.coupled_renderNext deeper.lawful
    (deeper.nextCoupled fun nodes => rising_iff_coupled.mp (rising_render c nodes) d d' hd)

theorem rising_renderBlock (c : RenderContext χ) (block : Block) :
    Rising fun depth => renderBlock c (render c depth) block :=
  rising_iff_coupled.mpr fun d d' hd => Coupling.coupled_renderBlock deeper.lawful
    (deeper.nextCoupled fun nodes => rising_iff_coupled.mp (rising_render c nodes) d d' hd)
    (deeper.enterCoupled block)

theorem rising_includeTemplate (c : RenderContext χ) (names : List String) :
    Rising fun depth => includeTemplate c (render c depth) names :=
  rising_iff_coupled.mpr fun d d' hd => Coupling.coupled_includeTemplate deeper.lawful
    (fun _ _ => congrArg _)
    (deeper.loadCoupled (fun nodes => rising_iff_coupled.mp (rising_render c nodes) d d' hd) names)

/-- A render that was not stopped by its depth comes to the same at every greater depth. -/
theorem render_eq_of_le (c : RenderContext χ) {depth deeper : Nat} (h : depth ≤ deeper)
    (nodes : List Node) (s : RenderState χ) (ends : render c depth nodes s ≠ .error .tooDeep) :
    render c deeper nodes s = render c depth nodes s :=
  (rising_render c nodes depth deeper h s).resolve_left ends

end Render

end TextTemplate
