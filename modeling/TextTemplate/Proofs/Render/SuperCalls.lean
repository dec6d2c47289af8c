import TextTemplate.Proofs.Render.Preserved

/-!
# The calls of `super`

Each call of `super` takes the next definition of the innermost block. `SuperCalls` lists what the
calls of a run take, in the order in which they are made, wherever they stand: in conditions, in
loops, and in definitions that an earlier call renders. Nothing else takes a definition. A block
inside takes its own and leaves those of the blocks around it alone. So every run has such a list
(`Records.render`).
-/

namespace TextTemplate

namespace Render

variable {χ α β : Type}

/-- The computation ends like this, and in it the calls of `super` take these definitions of the
innermost block; a call that finds none left takes none. -/
inductive SuperCalls (c : RenderContext χ) :
    {α : Type} → RenderM χ α → RenderState χ → Except Error α → RenderState χ →
      List (Option Block) → Prop
  /-- What leaves the chains alone has taken nothing. -/
  | quiet {α : Type} {act : RenderM χ α} {s t : RenderState χ} {result : Except Error α}
      (run : act s = .ok (result, t)) (same : t.chains = s.chains) :
      SuperCalls c act s result t []
  | bind {α β : Type} {act : RenderM χ α} {next : α → RenderM χ β} {s t u : RenderState χ} {a : α}
      {result : Except Error β} {calls calls' : List (Option Block)}
      (first : SuperCalls c act s (.ok a) t calls)
      (rest : SuperCalls c (next a) t result u calls') :
      SuperCalls c (act >>= next) s result u (calls ++ calls')
  | failed {α β : Type} {act : RenderM χ α} {next : α → RenderM χ β} {s t : RenderState χ}
      {e : Error} {calls : List (Option Block)} (first : SuperCalls c act s (.error e) t calls) :
      SuperCalls c (act >>= next) s (.error e) t calls
  | caught {α : Type} {act : RenderM χ α} {handle : Error → RenderM χ α} {s t u : RenderState χ}
      {e : Error} {result : Except Error α} {calls calls' : List (Option Block)}
      (first : SuperCalls c act s (.error e) t calls)
      (rest : SuperCalls c (handle e) t result u calls') :
      SuperCalls c (tryCatch act handle) s result u (calls ++ calls')
  | passed {α : Type} {act : RenderM χ α} {handle : Error → RenderM χ α} {s t : RenderState χ}
      {a : α} {calls : List (Option Block)} (first : SuperCalls c act s (.ok a) t calls) :
      SuperCalls c (tryCatch act handle) s (.ok a) t calls
  | within {α : Type} {act : RenderM χ α} {enter leave : RenderState χ → RenderState χ}
      {s t : RenderState χ} {result : Except Error α} {calls : List (Option Block)}
      (entered : ∀ s, (enter s).chains = s.chains) (left : ∀ s, (leave s).chains = s.chains)
      (inside : SuperCalls c act (enter s) result t calls) :
      SuperCalls c (within enter leave act) s result (leave t) calls
  | captured {act : RenderM χ Unit} {s t : RenderState χ} {result : Except Error Unit}
      {calls : List (Option Block)} (inside : SuperCalls c act { s with out := "" } result t calls) :
      SuperCalls c (captured act) s (result.map fun _ => t.out) { t with out := s.out } calls
  /-- The definition that a call takes may call `super` again. -/
  | definition {depth : Nat} {s t : RenderState χ} {chain left : χ} {chains : List χ}
      {block : Block} {result : Except Error Unit} {calls : List (Option Block)}
      (around : s.chains = chain :: chains) (next : c.blocks.next chain = (some block, left))
      (inside : SuperCalls c (render c depth block.body)
        { s with scopes := blockScope :: s.scopes, chains := left :: chains, out := "" } result t
        calls) :
      SuperCalls c (renderSuper c (render c depth)) s (result.map fun _ => t.out)
        { t with scopes := t.scopes.drop 1, out := s.out } (some block :: calls)
  | exhausted {depth : Nat} {s : RenderState χ} {chain left : χ} {chains : List χ}
      (around : s.chains = chain :: chains) (next : c.blocks.next chain = (none, left)) :
      SuperCalls c (renderSuper c (render c depth)) s (.ok "") { s with chains := left :: chains }
        [none]

/-! ## What blocks around wait with -/

/-- Only the innermost of the blocks being rendered has had definitions taken. -/
inductive Waiting : List χ → List χ → Prop
  | outside : Waiting [] []
  | inside (chain left : χ) (chains : List χ) : Waiting (chain :: chains) (left :: chains)

theorem Waiting.refl : ∀ chains : List χ, Waiting chains chains
  | [] => .outside
  | chain :: chains => .inside chain chain chains

theorem Waiting.trans {before middle after : List χ} (h : Waiting before middle)
    (h' : Waiting middle after) : Waiting before after := by
  cases h with
  | outside => exact h'
  | inside chain left chains =>
      cases h' with
      | inside _ left' _ => exact .inside chain left' chains

theorem Waiting.around {chain : χ} {chains after : List χ} (h : Waiting (chain :: chains) after) :
    after.drop 1 = chains := by
  cases h with
  | inside _ left _ => rfl

theorem waiting_invariant (c : RenderContext χ) :
    Invariant c fun s t => Waiting s.chains t.chains where
  refl s := .refl s.chains
  trans := Waiting.trans
  write s _ := .refl s.chains
  newIdentity s := .refl s.chains
  putCycle s _ _ := .refl s.chains
  load s _ := .refl s.chains
  next s chain chains around := by
    rw [around]
    exact .inside chain _ chains
  withScope _ _ _ waiting := waiting
  withChain s t chain waiting := by
    rw [waiting.around]
    exact .refl s.chains
  withInclude _ _ waiting := waiting
  captured _ _ waiting := waiting

/-! ## Every run has its calls -/

/-- Wherever the computation ends, the chains are what they were. -/
abbrev Quiet (act : RenderM χ α) : Prop := Preserves (fun s t => t.chains = s.chains) act

theorem quiet_fail (e : Error) : Quiet (fail e : RenderM χ α) :=
  Preserves.fail_of_refl (R := fun s t => t.chains = s.chains) (fun _ => rfl) e

/-- A block takes its own definitions only and puts back the chains around it. -/
theorem quiet_renderBlock {c : RenderContext χ} {inner : Renderer χ}
    (h : ∀ nodes, Preserves (fun s t => Waiting s.chains t.chains) (inner nodes)) (block : Block) :
    Quiet (renderBlock c inner block) := by
  intro s result t run
  rw [renderBlock] at run
  cases entered : c.blocks.enter block with
  | none =>
      rw [entered] at run
      cases run
      rfl
  | some chain =>
      rw [entered] at run
      obtain ⟨r, u, hnext, run⟩ := andThen_ok.mp ((within_run ..).symm.trans run)
      cases run
      exact (Preserves.renderNext (waiting_invariant c) h _ _ _ hnext).around

/-- Every run of the computation that comes to an end has a list of calls. -/
def Records (c : RenderContext χ) (act : RenderM χ α) : Prop :=
  ∀ s result t, act s = .ok (result, t) → ∃ calls, SuperCalls c act s result t calls

namespace Records

section

variable {c : RenderContext χ}

theorem of_quiet {act : RenderM χ α} (h : Quiet act) : Records c act :=
  fun s result t run => ⟨[], .quiet run (h s result t run)⟩

/-- A step that ends wherever it is run and leaves the chains alone. -/
theorem step {act : RenderM χ α}
    (h : ∀ s, ∃ result t, act s = .ok (result, t) ∧ t.chains = s.chains) : Records c act := by
  refine of_quiet fun s result t run => ?_
  obtain ⟨_, _, run', same⟩ := h s
  cases run'.symm.trans run
  exact same

theorem bind {act : RenderM χ α} {next : α → RenderM χ β} (first : Records c act)
    (rest : ∀ a, Records c (next a)) : Records c (act >>= next) := by
  intro s result u run
  rw [bind_run] at run
  obtain ⟨r, t, hact, run⟩ := andThen_ok.mp run
  obtain ⟨calls, hcalls⟩ := first s r t hact
  cases r with
  | error e =>
      cases run
      exact ⟨calls, .failed hcalls⟩
  | ok a =>
      obtain ⟨calls', hcalls'⟩ := rest a t result u run
      exact ⟨calls ++ calls', .bind hcalls hcalls'⟩

theorem tryCatch {act : RenderM χ α} {handle : Error → RenderM χ α} (first : Records c act)
    (rest : ∀ e, Records c (handle e)) : Records c (MonadExcept.tryCatch act handle) := by
  intro s result u run
  rw [tryCatch_run] at run
  obtain ⟨r, t, hact, run⟩ := andThen_ok.mp run
  obtain ⟨calls, hcalls⟩ := first s r t hact
  cases r with
  | error e =>
      obtain ⟨calls', hcalls'⟩ := rest e t result u run
      exact ⟨calls ++ calls', .caught hcalls hcalls'⟩
  | ok a =>
      cases run
      exact ⟨calls, .passed hcalls⟩

theorem within {act : RenderM χ α} {enter leave : RenderState χ → RenderState χ}
    (entered : ∀ s, (enter s).chains = s.chains) (left : ∀ s, (leave s).chains = s.chains)
    (inside : Records c act) : Records c (Render.within enter leave act) := by
  intro s result u run
  obtain ⟨r, t, hact, run⟩ := andThen_ok.mp ((within_run ..).symm.trans run)
  cases run
  obtain ⟨calls, hcalls⟩ := inside _ _ _ hact
  exact ⟨calls, .within entered left hcalls⟩

theorem withScope (scope : NameMap Value) {act : RenderM χ α} (inside : Records c act) :
    Records c (Render.withScope scope act) :=
  within (fun _ => rfl) (fun _ => rfl) inside

theorem withInclude {act : RenderM χ α} (inside : Records c act) :
    Records c (Render.withInclude act) :=
  within (fun _ => rfl) (fun _ => rfl) inside

theorem captured {act : RenderM χ Unit} (inside : Records c act) :
    Records c (Render.captured act) := by
  intro s result u run
  obtain ⟨r, t, hact, run⟩ := andThen_ok.mp ((captured_run ..).symm.trans run)
  cases run
  obtain ⟨calls, hcalls⟩ := inside _ _ _ hact
  exact ⟨calls, .captured hcalls⟩

theorem of_uniform {ι : Type} {act : Family (fun _ : ι => χ) α}
    (h : Uniform (fun _ act => ∀ i, Records c (act i)) act) (i : ι) : Records c (act i) := by
  induction h with
  | given h => exact h i
  | pure a => exact step fun s => ⟨_, _, rfl, rfl⟩
  | bind _ _ first rest => exact bind first rest
  | failWith cause => exact of_quiet (quiet_fail _)
  | tryCatch _ _ first rest => exact tryCatch first rest
  | scopes => exact step fun s => ⟨_, _, scopes_run s, rfl⟩
  | write text => exact step fun s => ⟨_, _, write_run text s, rfl⟩
  | newIdentity => exact step fun s => ⟨_, _, newIdentity_run s, rfl⟩
  | withScope _ _ inside => exact withScope _ inside
  | captured _ inside => exact captured inside

theorem loadTemplate (names : List String) : Records c (Render.loadTemplate c names) := by
  refine of_quiet fun s result t run => ?_
  rw [loadTemplate_run] at run
  revert run
  rcases c.load names s.memory with ⟨e | p, memory⟩
  · exact quiet_fail e { s with memory } result t
  · intro run
    cases run
    rfl

end

section

variable {c : RenderContext χ} {depth : Nat}
  (hinner : ∀ nodes, Records c (Render.render c depth nodes))

include hinner

theorem renderSuper : Records c (renderSuper c (Render.render c depth)) := by
  intro s result u run
  cases around : s.chains with
  | nil =>
      have called := run
      rw [renderSuper_nil c _ around] at called
      cases called
      exact ⟨[], .quiet run rfl⟩
  | cons chain chains =>
      rw [renderSuper_cons c _ around] at run
      rcases next : c.blocks.next chain with ⟨_ | block, left⟩
      · rw [next] at run
        cases run
        exact ⟨[none], .exhausted around next⟩
      · rw [next] at run
        obtain ⟨r, t, hbody, run⟩ := andThen_ok.mp run
        cases run
        obtain ⟨calls, hcalls⟩ := hinner block.body _ _ _ hbody
        exact ⟨some block :: calls, .definition around next hcalls⟩

theorem includeTemplate (names : List String) :
    Records c (includeTemplate c (Render.render c depth) names) := by
  have state : Records c (get : RenderM χ (RenderState χ)) := step fun s => ⟨_, _, rfl, rfl⟩
  refine state.bind fun s => ?_
  cases c.mayInclude s.includeDepth with
  | error cause => exact of_quiet (quiet_fail _)
  | ok _ => exact withInclude (bind (loadTemplate names) fun p => hinner p.root)

end

theorem render (c : RenderContext χ) (depth : Nat) (nodes : List Node) :
    Records c (Render.render c depth nodes) := by
  induction depth generalizing nodes with
  | zero =>
      rintro s result t run
      cases run
  | succ depth ih =>
      have steps : NodeSteps (fun _ act => ∀ i, Records c (act i)) (fun _ : Unit => c)
          (fun _ => Render.render c depth) (.same Unit) :=
        { clock := ⟨_, fun _ => rfl⟩
          functions := ⟨_, fun _ => rfl⟩
          super := .given fun _ => renderSuper ih
          bodies := fun _ _ => .given fun _ => ih _
          cycleAt := fun id _ => .given fun i => step fun s => ⟨_, _, cycleAt_run (id i) s, rfl⟩
          putCycle := fun id state _ =>
            .given fun i => step fun s => ⟨_, _, putCycle_run (id i) state s, rfl⟩
          blocks := fun block _ => .given fun i =>
            of_quiet (quiet_renderBlock (Preserves.render (waiting_invariant c) depth) (block i))
          includes := fun _ names => .given fun _ => includeTemplate ih names
          others := fun _ h => h.elim }
      exact of_uniform (steps.renderAll (.same nodes)) ()

end Records

end Render

end TextTemplate
