import TextTemplate.Proofs.Render.Uniform

/-!
# What renders preserve

A relation between the states before and after holds of every render that ends, with success or with
an error, if it holds of the single steps and survives putting back what was changed for a while.
`Invariant` lists what has to be shown of the steps.
-/

namespace TextTemplate

namespace Render

variable {χ α β : Type}

/-- Wherever the computation ends with a result, the states before and after are related. -/
def Preserves (R : RenderState χ → RenderState χ → Prop) (act : RenderM χ α) : Prop :=
  ∀ s result t, act s = .ok (result, t) → R s t

/-- The relation holds of every step of a render. -/
structure Invariant (c : RenderContext χ) (R : RenderState χ → RenderState χ → Prop) : Prop where
  refl : ∀ s, R s s
  trans : ∀ {s t u}, R s t → R t u → R s u
  write : ∀ s text, R s { s with out := s.out ++ text }
  newIdentity : ∀ s, R s { s with made := s.made + 1 }
  putCycle : ∀ s id state, R s { s with cycles := setCycle s.cycles id state }
  load : ∀ s names, R s { s with memory := (c.load names s.memory).2 }
  next : ∀ s chain chains, s.chains = chain :: chains →
    R s { s with chains := (c.blocks.next chain).2 :: chains }
  withScope : ∀ s t scope, R { s with scopes := scope :: s.scopes } t →
    R s { t with scopes := t.scopes.drop 1 }
  withChain : ∀ s t chain, R { s with chains := chain :: s.chains } t →
    R s { t with chains := t.chains.drop 1 }
  withInclude : ∀ s t, R { s with includeDepth := s.includeDepth + 1 } t →
    R s { t with includeDepth := t.includeDepth - 1 }
  captured : ∀ s t, R { s with out := "" } t → R s { t with out := s.out }

namespace Preserves

section

variable {R : RenderState χ → RenderState χ → Prop}

theorem pure_of_refl (refl : ∀ s, R s s) (a : α) : Preserves R (Pure.pure a : RenderM χ α) := by
  rintro s result t h
  cases h
  exact refl _

theorem fail_of_refl (refl : ∀ s, R s s) (e : Error) :
    Preserves R (Render.fail e : RenderM χ α) := by
  intro s result t h
  rw [fail_run] at h
  split at h
  · cases h
  · cases h
    exact refl _

theorem scopes_of_refl (refl : ∀ s, R s s) : Preserves R Render.scopes := by
  rintro s result t h
  cases h
  exact refl _

theorem bind_of_trans (trans : ∀ s t u, R s t → R t u → R s u) {act : RenderM χ α}
    {next : α → RenderM χ β} (first : Preserves R act) (rest : ∀ a, Preserves R (next a)) :
    Preserves R (act >>= next) := by
  intro s result t h
  rw [bind_run] at h
  obtain ⟨r, u, hact, h⟩ := andThen_ok.mp h
  cases r with
  | error e =>
      cases h
      exact first _ _ _ hact
  | ok a => exact trans _ _ _ (first _ _ _ hact) (rest a _ _ _ h)

theorem tryCatch_of_trans (trans : ∀ s t u, R s t → R t u → R s u) {act : RenderM χ α}
    {handle : Error → RenderM χ α} (first : Preserves R act) (rest : ∀ e, Preserves R (handle e)) :
    Preserves R (MonadExcept.tryCatch act handle) := by
  intro s result t h
  rw [tryCatch_run] at h
  obtain ⟨r, u, hact, h⟩ := andThen_ok.mp h
  cases r with
  | error e => exact trans _ _ _ (first _ _ _ hact) (rest e _ _ _ h)
  | ok a =>
      cases h
      exact first _ _ _ hact

end

variable {c : RenderContext χ} {R : RenderState χ → RenderState χ → Prop} (hR : Invariant c R)

include hR

theorem pure (a : α) : Preserves R (Pure.pure a : RenderM χ α) := pure_of_refl hR.refl a

theorem fail (e : Error) : Preserves R (Render.fail e : RenderM χ α) := fail_of_refl hR.refl e

theorem bind {act : RenderM χ α} {next : α → RenderM χ β} (first : Preserves R act)
    (rest : ∀ a, Preserves R (next a)) : Preserves R (act >>= next) :=
  bind_of_trans (R := R) (fun _ _ _ => hR.trans) first rest

theorem tryCatch {act : RenderM χ α} {handle : Error → RenderM χ α} (first : Preserves R act)
    (rest : ∀ e, Preserves R (handle e)) : Preserves R (MonadExcept.tryCatch act handle) :=
  tryCatch_of_trans (R := R) (fun _ _ _ => hR.trans) first rest

theorem scopes : Preserves R Render.scopes := scopes_of_refl hR.refl

theorem write (text : String) : Preserves R (Render.write text) := by
  rintro s result t h
  cases h
  exact hR.write s text

theorem newIdentity : Preserves R Render.newIdentity := by
  rintro s result t h
  cases h
  exact hR.newIdentity s

theorem cycleAt (id : Nat) : Preserves R (Render.cycleAt id) := by
  rintro s result t h
  cases h
  exact hR.refl _

theorem putCycle (id : Nat) (state : CycleState) : Preserves R (Render.putCycle id state) := by
  rintro s result t h
  cases h
  exact hR.putCycle s id state

theorem loadTemplate (names : List String) : Preserves R (Render.loadTemplate c names) := by
  intro s result t h
  have loaded := hR.load s names
  rw [loadTemplate_run] at h
  revert h loaded
  rcases c.load names s.memory with ⟨e | p, memory⟩
  · exact fun h loaded => hR.trans loaded (fail hR e _ _ _ h)
  · intro h loaded
    cases h
    exact loaded

theorem withScope (scope : NameMap Value) {act : RenderM χ α} (inside : Preserves R act) :
    Preserves R (Render.withScope scope act) := by
  intro s result t run
  obtain ⟨r, u, hact, h⟩ := andThen_ok.mp ((within_run ..).symm.trans run)
  cases h
  exact hR.withScope s u scope (inside _ _ _ hact)

theorem withChain (chain : χ) {act : RenderM χ α} (inside : Preserves R act) :
    Preserves R (Render.withChain chain act) := by
  intro s result t run
  obtain ⟨r, u, hact, h⟩ := andThen_ok.mp ((within_run ..).symm.trans run)
  cases h
  exact hR.withChain s u chain (inside _ _ _ hact)

theorem withInclude {act : RenderM χ α} (inside : Preserves R act) :
    Preserves R (Render.withInclude act) := by
  intro s result t run
  obtain ⟨r, u, hact, h⟩ := andThen_ok.mp ((within_run ..).symm.trans run)
  cases h
  exact hR.withInclude s u (inside _ _ _ hact)

theorem captured {act : RenderM χ Unit} (inside : Preserves R act) :
    Preserves R (Render.captured act) := by
  intro s result t run
  obtain ⟨r, u, hact, h⟩ := andThen_ok.mp ((captured_run ..).symm.trans run)
  cases h
  exact hR.captured s u (inside _ _ _ hact)

/-- What is put together from computations that preserve the relation preserves it. -/
theorem of_uniform {ι : Type} {act : Family (fun _ : ι => χ) α}
    (h : Uniform (fun _ act => ∀ i, Preserves R (act i)) act) (i : ι) : Preserves R (act i) := by
  induction h with
  | given h => exact h i
  | pure a => exact pure hR a
  | bind _ _ first rest => exact bind hR first rest
  | failWith cause => exact fail hR _
  | tryCatch _ _ first rest => exact tryCatch hR first rest
  | scopes => exact scopes hR
  | write text => exact write hR text
  | newIdentity => exact newIdentity hR
  | withScope _ _ inside => exact withScope hR _ inside
  | captured _ inside => exact captured hR inside

theorem nextInChain : Preserves R (Render.nextInChain c) := by
  intro s result t h
  cases hchains : s.chains with
  | nil =>
      rw [nextInChain_nil c hchains] at h
      cases h
      exact hR.refl _
  | cons chain chains =>
      rw [nextInChain_cons c hchains] at h
      cases h
      exact hR.next s chain chains hchains

section

variable {inner : Renderer χ} (hinner : ∀ nodes, Preserves R (inner nodes))

include hinner

theorem renderNext : Preserves R (Render.renderNext c inner) := by
  refine (nextInChain hR).bind hR fun next => ?_
  cases next with
  | none => exact pure hR _
  | some block => exact withScope hR _ (hinner _)

theorem renderBlock (block : Block) : Preserves R (Render.renderBlock c inner block) := by
  unfold Render.renderBlock
  cases c.blocks.enter block with
  | none => exact pure hR _
  | some chain => exact withChain hR _ (renderNext hR hinner)

theorem includeTemplate (names : List String) :
    Preserves R (Render.includeTemplate c inner names) := by
  intro s result t h
  rw [includeTemplate_run] at h
  cases hmay : c.mayInclude s.includeDepth with
  | error cause =>
      rw [hmay] at h
      exact fail hR _ _ _ _ h
  | ok _ =>
      rw [hmay] at h
      exact withInclude hR ((loadTemplate hR names).bind hR fun p => hinner _) _ _ _ h

theorem nodeSteps :
    NodeSteps (fun _ act => ∀ i, Preserves R (act i)) (fun _ : Unit => c) (fun _ => inner)
      (.same Unit) where
  clock := ⟨_, fun _ => rfl⟩
  functions := ⟨_, fun _ => rfl⟩
  super := .captured (.given fun _ => renderNext hR hinner)
  bodies _ _ := .given fun _ => hinner _
  cycleAt _ _ := .given fun _ => cycleAt hR _
  putCycle _ _ _ := .given fun _ => putCycle hR _ _
  blocks _ _ := .given fun _ => renderBlock hR hinner _
  includes _ _ := .given fun _ => includeTemplate hR hinner _
  others _ h := h.elim

theorem renderNode (node : Node) : Preserves R (Render.renderNode c inner node) :=
  of_uniform hR ((nodeSteps hR hinner).renderNode (.same node)) ()

end

theorem render (depth : Nat) (nodes : List Node) : Preserves R (Render.render c depth nodes) := by
  induction depth generalizing nodes with
  | zero =>
      rintro s result t h
      cases h
  | succ depth ih => exact of_uniform hR ((nodeSteps hR ih).renderAll (.same nodes)) ()

end Preserves

end Render

end TextTemplate
