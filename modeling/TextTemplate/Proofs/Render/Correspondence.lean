import TextTemplate.Proofs.Render.Coupling

/-!
# Corresponding renders

Two renders over the same scopes. What they have in common may depend on the scopes, which every part
of a render leaves as it has found them. So a law may be stated for a place: it holds from all scopes
that the place can have. The two sides may keep their cycles in different ways, take the bodies of
their blocks from different chains, and fail with different errors; a `Correspondence` says with which.
-/

namespace TextTemplate

namespace Render

/-- What corresponds in two renders over the same scopes. -/
structure Correspondence (χ : Side → Type) where
  cycles : List (Nat × CycleState) → List (Nat × CycleState) → Prop
  chains : χ .left → χ .right → Prop
  errors : Error → Error → Prop
  errors_refl : ∀ e, errors e e
  /-- Whether the right side may go on where the left side stops. -/
  lax : Stop → Prop

namespace Correspondence

variable {χ : Side → Type} {K : Correspondence χ} {α α' β β' : Type}

/-- Corresponding states with the given scopes. -/
structure States (K : Correspondence χ) (σ : Scopes) (s : RenderState (χ .left))
    (t : RenderState (χ .right)) : Prop where
  left : s.scopes = σ
  right : t.scopes = σ
  cycles : K.cycles s.cycles t.cycles
  chains : List.Forall₂ K.chains s.chains t.chains
  includeDepth : s.includeDepth = t.includeDepth
  made : s.made = t.made
  memory : s.memory = t.memory
  out : s.out = t.out

/-- Results that are related, or errors that correspond. -/
def Results (K : Correspondence χ) (R : α → β → Prop) : Except Error α → Except Error β → Prop
  | .ok a, .ok b => R a b
  | .error e, .error e' => K.errors e e'
  | _, _ => False

/-- Corresponding ends, with the given scopes. -/
def Matches (K : Correspondence χ) (σ : Scopes) (R : α → β → Prop) :
    Except Stop (Except Error α × RenderState (χ .left)) →
      Except Stop (Except Error β × RenderState (χ .right)) → Prop
  | .error reason, other => K.lax reason ∨ other = .error reason
  | .ok (r, s), .ok (r', t) => K.Results R r r' ∧ K.States σ s t
  | .ok _, .error _ => False

/-- From corresponding states with such scopes both computations come to corresponding ends, with the
scopes that they started with and with related results. -/
def AgreeBy (K : Correspondence χ) (P : Scopes → Prop) (R : α → β → Prop)
    (act : RenderM (χ .left) α) (act' : RenderM (χ .right) β) : Prop :=
  ∀ σ, P σ → ∀ s t, K.States σ s t → K.Matches σ R (act s) (act' t)

/-- The computations come to the same result. -/
abbrev Agree (K : Correspondence χ) (P : Scopes → Prop) (act : RenderM (χ .left) α)
    (act' : RenderM (χ .right) α) : Prop :=
  K.AgreeBy P (· = ·) act act'

/-- Goes on with corresponding results. -/
theorem Matches.andThen {σ τ : Scopes} {R : α → β → Prop} {R' : α' → β' → Prop}
    {next : Except Error α → RenderState (χ .left) →
      Except Stop (Except Error α' × RenderState (χ .left))}
    {next' : Except Error β → RenderState (χ .right) →
      Except Stop (Except Error β' × RenderState (χ .right))} :
    ∀ {r : Except Stop (Except Error α × RenderState (χ .left))}
      {r' : Except Stop (Except Error β × RenderState (χ .right))}, K.Matches σ R r r' →
      (∀ result result' s t, K.Results R result result' → K.States σ s t →
        K.Matches τ R' (next result s) (next' result' t)) →
      K.Matches τ R' (Render.andThen r next) (Render.andThen r' next')
  | .error _, _, h, _ => h.imp_right fun stopped => by rw [stopped]; rfl
  | .ok _, .ok _, ⟨results, hst⟩, rest => rest _ _ _ _ results hst
  | .ok _, .error _, h, _ => h.elim

/-- Two renders stop alike, write the same text, or fail with corresponding errors. -/
inductive ReportsAlike (errors : Error → Error → Prop) :
    Except Stop (Except Error String) → Except Stop (Except Error String) → Prop
  | stopped (reason : Stop) : ReportsAlike errors (.error reason) (.error reason)
  | text (text : String) : ReportsAlike errors (.ok (.ok text)) (.ok (.ok text))
  | failed {e e' : Error} (h : errors e e') : ReportsAlike errors (.ok (.error e)) (.ok (.error e'))

theorem ReportsAlike.eq {r r' : Except Stop (Except Error String)} (h : ReportsAlike (· = ·) r r') :
    r = r' := by
  cases h with
  | stopped reason => rfl
  | text text => rfl
  | failed same => rw [same]

/-- Renders that come to corresponding ends report alike, unless the left one stops where it may. -/
theorem Matches.reports {σ : Scopes} {r : Except Stop (Except Error Unit × RenderState (χ .left))}
    {r' : Except Stop (Except Error Unit × RenderState (χ .right))} (h : K.Matches σ (· = ·) r r')
    (goes : ∀ reason, r = .error reason → ¬ K.lax reason) :
    ReportsAlike K.errors (report r) (report r') := by
  rcases r with reason | ⟨result, s⟩
  · rcases h with may | same
    · exact absurd may (goes reason rfl)
    · rw [same]
      exact .stopped reason
  · rcases r' with reason' | ⟨result', t⟩
    · exact h.elim
    · obtain ⟨results, hst⟩ := h
      rcases result with e | _ <;> rcases result' with e' | _
      · exact .failed results
      · exact results.elim
      · exact results.elim
      · simp only [report, Except.map, hst.out]
        exact .text t.out

/-! ## The rules -/

namespace AgreeBy

variable {P Q : Scopes → Prop} {R : α → β → Prop} {R' : α' → β' → Prop}

theorem mono {act : RenderM (χ .left) α} {act' : RenderM (χ .right) β} (h : K.AgreeBy Q R act act')
    (weaker : ∀ σ, P σ → Q σ) : K.AgreeBy P R act act' :=
  fun σ hσ => h σ (weaker σ hσ)

theorem pure {a : α} {b : β} (h : R a b) : K.AgreeBy P R (Pure.pure a) (Pure.pure b) :=
  fun _ _ _ _ hst => ⟨h, hst⟩

theorem fail (e : Error) : K.AgreeBy P R (Render.fail e) (Render.fail e) := by
  intro σ _ s t hst
  rw [fail_run, fail_run]
  split
  · exact .inr rfl
  · exact ⟨K.errors_refl e, hst⟩

/-- Failures that are not the same correspond as well, unless they break off. -/
theorem fails {e e' : Error} (h : K.errors e e') (goes : e.cause ≠ .aborted)
    (goes' : e'.cause ≠ .aborted) : K.AgreeBy P R (Render.fail e) (Render.fail e') := by
  intro σ _ s t hst
  rw [fail_run, fail_run, if_neg goes, if_neg goes']
  exact ⟨h, hst⟩

theorem bind {act : RenderM (χ .left) α} {act' : RenderM (χ .right) β}
    {next : α → RenderM (χ .left) α'} {next' : β → RenderM (χ .right) β'}
    (first : K.AgreeBy P R act act')
    (rest : ∀ a b, R a b → K.AgreeBy P R' (next a) (next' b)) :
    K.AgreeBy P R' (act >>= next) (act' >>= next') := by
  intro σ hσ s t hst
  rw [bind_run, bind_run]
  refine (first σ hσ s t hst).andThen fun result result' s' t' results hst' => ?_
  match result, result', results with
  | .ok a, .ok b, same => exact rest a b same σ hσ s' t' hst'
  | .error _, .error _, errors => exact ⟨errors, hst'⟩

theorem tryCatch {act : RenderM (χ .left) α} {act' : RenderM (χ .right) β}
    {handle : Error → RenderM (χ .left) α} {handle' : Error → RenderM (χ .right) β}
    (first : K.AgreeBy P R act act')
    (rest : ∀ e e', K.errors e e' → K.AgreeBy P R (handle e) (handle' e')) :
    K.AgreeBy P R (MonadExcept.tryCatch act handle) (MonadExcept.tryCatch act' handle') := by
  intro σ hσ s t hst
  rw [tryCatch_run, tryCatch_run]
  refine (first σ hσ s t hst).andThen fun result result' s' t' results hst' => ?_
  match result, result', results with
  | .ok _, .ok _, same => exact ⟨same, hst'⟩
  | .error e, .error e', errors => exact rest e e' errors σ hσ s' t' hst'

/-- Changes for a while that lead back to the scopes. -/
theorem within {enter leave : RenderState (χ .left) → RenderState (χ .left)}
    {enter' leave' : RenderState (χ .right) → RenderState (χ .right)} {push : Scopes → Scopes}
    {act : RenderM (χ .left) α} {act' : RenderM (χ .right) β} (inside : K.AgreeBy Q R act act')
    (entered : ∀ σ, P σ → Q (push σ))
    (enters : ∀ σ s t, K.States σ s t → K.States (push σ) (enter s) (enter' t))
    (leaves : ∀ σ s t, K.States (push σ) s t → K.States σ (leave s) (leave' t)) :
    K.AgreeBy P R (Render.within enter leave act) (Render.within enter' leave' act') := by
  intro σ hσ s t hst
  rw [within_run, within_run]
  refine (inside _ (entered σ hσ) _ _ (enters σ s t hst)).andThen ?_
  exact fun _ _ s' t' results hst' => ⟨results, leaves σ s' t' hst'⟩

theorem withScope {scope : NameMap Value} {act : RenderM (χ .left) α} {act' : RenderM (χ .right) β}
    (inside : K.AgreeBy Q R act act') (entered : ∀ σ, P σ → Q (scope :: σ)) :
    K.AgreeBy P R (Render.withScope scope act) (Render.withScope scope act') :=
  inside.within entered
    (fun _ _ _ hst => { hst with left := congrArg _ hst.left, right := congrArg _ hst.right })
    fun _ _ _ hst =>
      { hst with left := congrArg (List.drop 1) hst.left, right := congrArg (List.drop 1) hst.right }

theorem withChain {k : χ .left} {l : χ .right} (hkl : K.chains k l) {act : RenderM (χ .left) α}
    {act' : RenderM (χ .right) β} (inside : K.AgreeBy P R act act') :
    K.AgreeBy P R (Render.withChain k act) (Render.withChain l act') :=
  inside.within (fun _ => id) (fun _ _ _ hst => { hst with chains := .cons hkl hst.chains })
    fun _ _ _ hst => { hst with chains := List.forall₂_drop 1 hst.chains }

theorem withInclude {act : RenderM (χ .left) α} {act' : RenderM (χ .right) β}
    (inside : K.AgreeBy P R act act') :
    K.AgreeBy P R (Render.withInclude act) (Render.withInclude act') :=
  inside.within (fun _ => id)
    (fun _ _ _ hst => { hst with includeDepth := congrArg (· + 1) hst.includeDepth })
    fun _ _ _ hst => { hst with includeDepth := congrArg (· - 1) hst.includeDepth }

end AgreeBy

namespace Agree

variable {P Q : Scopes → Prop}

theorem scopes : K.Agree P Render.scopes Render.scopes :=
  fun _ _ _ _ hst => ⟨hst.left.trans hst.right.symm, hst⟩

theorem write (text : String) : K.Agree P (Render.write text) (Render.write text) :=
  fun _ _ _ _ hst => ⟨rfl, { hst with out := congrArg (· ++ text) hst.out }⟩

theorem newIdentity : K.Agree P Render.newIdentity Render.newIdentity :=
  fun _ _ _ _ hst => ⟨congrArg _ hst.made, { hst with made := congrArg (· + 1) hst.made }⟩

/-- Goes on with the same result. -/
theorem bind {act : RenderM (χ .left) α} {act' : RenderM (χ .right) α} {next : α → RenderM (χ .left) β}
    {next' : α → RenderM (χ .right) β} (first : K.Agree P act act')
    (rest : ∀ a, K.Agree P (next a) (next' a)) : K.Agree P (act >>= next) (act' >>= next') :=
  AgreeBy.bind first fun a _ same => same ▸ rest a

theorem captured {act : RenderM (χ .left) Unit} {act' : RenderM (χ .right) Unit}
    (inside : K.Agree P act act') : K.Agree P (Render.captured act) (Render.captured act') := by
  intro σ hσ s t hst
  rw [captured_run, captured_run]
  have entered : K.States σ { s with out := "" } { t with out := "" } := { hst with out := rfl }
  refine (inside σ hσ _ _ entered).andThen fun result result' s' t' results hst' => ?_
  have kept : K.States σ { s' with out := s.out } { t' with out := t.out } :=
    { hst' with out := hst.out }
  match result, result', results with
  | .ok _, .ok _, _ => exact ⟨hst'.out, kept⟩
  | .error _, .error _, errors => exact ⟨errors, kept⟩

/-- Computations that are put together in the same way from ones that agree do so, too, if no other
error corresponds to an error. -/
theorem of_uniform (strict : ∀ {e e'}, K.errors e e' → e = e') {act : Family χ α}
    (h : Uniform (fun _ act => K.Agree (fun _ => True) (act .left) (act .right)) act) :
    K.Agree (fun _ => True) (act .left) (act .right) := by
  induction h with
  | given h => exact h
  | pure a => exact AgreeBy.pure rfl
  | bind _ _ first rest => exact bind first rest
  | failWith cause => exact AgreeBy.fail _
  | tryCatch _ _ first rest => exact AgreeBy.tryCatch first fun e e' same => strict same ▸ rest e
  | scopes => exact scopes
  | write text => exact write text
  | newIdentity => exact newIdentity
  | withScope _ _ inside => exact AgreeBy.withScope inside fun _ _ => trivial
  | captured _ inside => exact captured inside

end Agree

/-! ## Blocks and includes -/

/-- The contexts of both sides load the same templates and have the same functions, and corresponding
chains go on with definitions that agree wherever they stand. -/
structure Contexts (K : Correspondence χ) (c : RenderContext (χ .left)) (c' : RenderContext (χ .right))
    (inner : Renderer (χ .left)) (inner' : Renderer (χ .right)) : Prop where
  load : c.load = c'.load
  mayInclude : c.mayInclude = c'.mayInclude
  world : c.world = c'.world
  left : ∀ {k l}, K.chains k l → K.chains (c.blocks.next k).2 (c'.blocks.next l).2
  next : ∀ {k l}, K.chains k l →
    Option.Rel (fun b b' => K.Agree (fun _ => True) (inner b.body) (inner' b'.body))
      (c.blocks.next k).1 (c'.blocks.next l).1

section

variable {P : Scopes → Prop} {c : RenderContext (χ .left)} {c' : RenderContext (χ .right)}
  {inner : Renderer (χ .left)} {inner' : Renderer (χ .right)} (h : K.Contexts c c' inner inner')

include h

theorem Contexts.renderNext : K.Agree P (Render.renderNext c inner) (Render.renderNext c' inner') := by
  intro σ hσ s t hst
  have hchains := hst.chains
  generalize hs : s.chains = left at hchains
  generalize ht : t.chains = right at hchains
  cases hchains with
  | nil =>
      rw [renderNext_nil _ _ hs, renderNext_nil _ _ ht]
      exact ⟨rfl, hst⟩
  | @cons k l ks ls hkl rest =>
      rw [renderNext_cons _ _ hs, renderNext_cons _ _ ht]
      have hleft := h.left hkl
      have hnext := h.next hkl
      revert hleft hnext
      rcases c.blocks.next k with ⟨b, k'⟩
      rcases c'.blocks.next l with ⟨b', l'⟩
      intro hleft hnext
      have taken : K.States σ { s with chains := k' :: ks } { t with chains := l' :: ls } :=
        { hst with chains := .cons hleft rest }
      cases hnext with
      | none => exact ⟨rfl, taken⟩
      | some bodies =>
          exact bodies.withScope (P := P) (fun _ _ => trivial) σ hσ _ _ taken

theorem Contexts.renderBlock {block block' : Block}
    (hblock : Option.Rel K.chains (c.blocks.enter block) (c'.blocks.enter block')) :
    K.Agree P (Render.renderBlock c inner block) (Render.renderBlock c' inner' block') := by
  unfold Render.renderBlock
  revert hblock
  rcases c.blocks.enter block with _ | k <;> rcases c'.blocks.enter block' with _ | l
  · exact fun _ => AgreeBy.pure rfl
  · exact nofun
  · exact nofun
  · rintro ⟨hkl⟩
    exact h.renderNext.withChain hkl

theorem Contexts.includeTemplate (hroots : ∀ p : Program, K.Agree P (inner p.root) (inner' p.root))
    (names : List String) :
    K.Agree P (Render.includeTemplate c inner names) (Render.includeTemplate c' inner' names) := by
  have loaded : K.Agree P (loadTemplate c names >>= fun p => inner p.root)
      (loadTemplate c' names >>= fun p => inner' p.root) := by
    refine Agree.bind (fun σ hσ s t hst => ?_) hroots
    rw [loadTemplate_run, loadTemplate_run, h.load, hst.memory]
    rcases c'.load names t.memory with ⟨e | p, memory⟩
    · exact AgreeBy.fail e σ hσ _ _ { hst with memory := rfl }
    · exact ⟨rfl, { hst with memory := rfl }⟩
  intro σ hσ s t hst
  rw [includeTemplate_run, includeTemplate_run, h.mayInclude, hst.includeDepth]
  cases c'.mayInclude t.includeDepth with
  | error cause => exact AgreeBy.fail _ σ hσ s t hst
  | ok _ => exact loaded.withInclude σ hσ s t hst

end

end Correspondence

end Render

end TextTemplate
