import TextTemplate.Proofs.Render.Uniform

/-!
# Renders side by side

Two renders that start in corresponding states run in step: they write the same text, fail with the
same error, and reach corresponding states. What corresponds is a parameter. A `Coupling` relates
the numbers of the cycles, the chains of the blocks, the memories and the include depths of the two
sides, possibly depending on a world that grows while the renders run; scopes and text are always
the same. A coupling may be lax and let the left side stop where the right side goes on.
-/

namespace TextTemplate

namespace Render

inductive Side where
  | left
  | right

def Side.pick {α : Type} (left right : α) : Side → α
  | .left => left
  | .right => right

/-- What a render comes to: a text or an error. -/
def report {χ : Type} (r : Except Stop (Except Error Unit × RenderState χ)) :
    Except Stop (Except Error String) :=
  r.map fun (result, s) => result.map fun _ => s.out

theorem report_eq_error {χ : Type} {r : Except Stop (Except Error Unit × RenderState χ)}
    {reason : Stop} : report r = .error reason ↔ r = .error reason := by
  rcases r with other | ⟨result, s⟩ <;> simp [report, Except.map]

/-- What corresponds to each other on the two sides. -/
structure Coupling (χ : Side → Type) where
  World : Type
  Later : World → World → Prop
  ids : World → Nat → Nat → Prop
  chains : World → χ .left → χ .right → Prop
  memories : World → Memory → Memory → Prop
  depths : Nat → Nat → Prop
  /-- Whether the right side may go on where the left side stops. -/
  lax : Stop → Prop

namespace Coupling

variable {χ : Side → Type}

/-- What makes a coupling hold together: what corresponds goes on to correspond, and no number
corresponds to two. -/
structure Lawful (K : Coupling χ) : Prop where
  refl : ∀ w, K.Later w w
  trans : ∀ {u v w}, K.Later u v → K.Later v w → K.Later u w
  ids_later : ∀ {v w i j}, K.Later v w → K.ids v i j → K.ids w i j
  chains_later : ∀ {v w k l}, K.Later v w → K.chains v k l → K.chains w k l
  ids_iff : ∀ {w i j i' j'}, K.ids w i j → K.ids w i' j' → (i = i' ↔ j = j')
  depths_succ : ∀ {m n}, K.depths m n → K.depths (m + 1) (n + 1)
  depths_pred : ∀ {m n}, K.depths m n → K.depths (m - 1) (n - 1)

/-- Corresponding states. -/
structure States (K : Coupling χ) (w : K.World) (s : RenderState (χ .left))
    (t : RenderState (χ .right)) : Prop where
  scopes : s.scopes = t.scopes
  cycles : List.Forall₂ (fun p q => K.ids w p.1 q.1 ∧ p.2 = q.2) s.cycles t.cycles
  chains : List.Forall₂ (K.chains w) s.chains t.chains
  includeDepth : K.depths s.includeDepth t.includeDepth
  made : s.made = t.made
  memory : K.memories w s.memory t.memory
  out : s.out = t.out

/-- Corresponding results. -/
def Matches {α : Type} (K : Coupling χ) (w : K.World) :
    Except Stop (Except Error α × RenderState (χ .left)) →
      Except Stop (Except Error α × RenderState (χ .right)) → Prop
  | .error reason, other => K.lax reason ∨ other = .error reason
  | .ok (a, s), .ok (b, t) => a = b ∧ ∃ v, K.Later w v ∧ K.States v s t
  | .ok _, .error _ => False

/-- The two computations take corresponding states to corresponding results, in all later worlds. -/
def Coupled {α : Type} (K : Coupling χ) (w : K.World) (act : Family χ α) : Prop :=
  ∀ v, K.Later w v → ∀ s t, K.States v s t → K.Matches v (act .left s) (act .right t)

variable {K : Coupling χ} {α β : Type} {w : K.World}

theorem Matches.of_lax {reason : Stop} (hlax : K.lax reason)
    {r : Except Stop (Except Error α × RenderState (χ .left))}
    {r' : Except Stop (Except Error α × RenderState (χ .right))} (h : r = .error reason) :
    K.Matches w r r' := by
  subst h
  exact .inl hlax

/-- A result that corresponds in a later world corresponds. -/
theorem Matches.earlier (hK : K.Lawful) {v : K.World} (hv : K.Later w v) :
    ∀ {r : Except Stop (Except Error α × RenderState (χ .left))}
      {r' : Except Stop (Except Error α × RenderState (χ .right))},
      K.Matches v r r' → K.Matches w r r'
  | .error _, _, h => h
  | .ok _, .ok _, ⟨same, u, hu, hst⟩ => ⟨same, u, hK.trans hv hu, hst⟩
  | .ok _, .error _, h => h

/-- Goes on with corresponding results in the same way. -/
theorem Matches.andThen (hK : K.Lawful)
    {next : Except Error α → RenderState (χ .left) →
      Except Stop (Except Error β × RenderState (χ .left))}
    {next' : Except Error α → RenderState (χ .right) →
      Except Stop (Except Error β × RenderState (χ .right))} :
    ∀ {r : Except Stop (Except Error α × RenderState (χ .left))}
      {r' : Except Stop (Except Error α × RenderState (χ .right))}, K.Matches w r r' →
      (∀ result v, K.Later w v → ∀ s t, K.States v s t →
        K.Matches v (next result s) (next' result t)) →
      K.Matches w (Render.andThen r next) (Render.andThen r' next')
  | .error _, _, h, _ => h.imp_right fun stopped => by rw [stopped]; rfl
  | .ok (_, s), .ok (_, t), ⟨rfl, v, hv, hst⟩, rest => (rest _ v hv s t hst).earlier hK hv
  | .ok _, .error _, h, _ => h.elim

/-! ## The rules -/

namespace Coupled

theorem pure (hK : K.Lawful) (a : α) : K.Coupled w fun _ => Pure.pure a :=
  fun v _ _ _ hst => ⟨rfl, v, hK.refl v, hst⟩

theorem stop (reason : Stop) : K.Coupled (α := α) w fun _ => Render.stop reason :=
  fun _ _ _ _ _ => .inr rfl

theorem fail (hK : K.Lawful) (e : Error) : K.Coupled (α := α) w fun _ => Render.fail e := by
  intro v _ s t hst
  simp only [fail_run]
  split
  · exact .inr rfl
  · exact ⟨rfl, v, hK.refl v, hst⟩

theorem bind (hK : K.Lawful) {act : Family χ α} {next : (i : Side) → α → RenderM (χ i) β}
    (first : K.Coupled w act) (rest : ∀ a, K.Coupled w fun i => next i a) :
    K.Coupled w fun i => act i >>= next i := by
  intro v hv s t hst
  simp only [bind_run]
  refine (first v hv s t hst).andThen hK fun result u hu s' t' hst' => ?_
  cases result with
  | error e => exact ⟨rfl, u, hK.refl u, hst'⟩
  | ok a => exact rest a u (hK.trans hv hu) s' t' hst'

theorem tryCatch (hK : K.Lawful) {act : Family χ α} {handle : (i : Side) → Error → RenderM (χ i) α}
    (first : K.Coupled w act) (rest : ∀ e, K.Coupled w fun i => handle i e) :
    K.Coupled w fun i => MonadExcept.tryCatch (act i) (handle i) := by
  intro v hv s t hst
  simp only [tryCatch_run]
  refine (first v hv s t hst).andThen hK fun result u hu s' t' hst' => ?_
  cases result with
  | error e => exact rest e u (hK.trans hv hu) s' t' hst'
  | ok a => exact ⟨rfl, u, hK.refl u, hst'⟩

theorem scopes (hK : K.Lawful) : K.Coupled w fun _ => Render.scopes :=
  fun v _ _ _ hst => ⟨congrArg _ hst.scopes, v, hK.refl v, hst⟩

theorem write (hK : K.Lawful) (text : String) : K.Coupled w fun _ => Render.write text :=
  fun v _ _ _ hst => ⟨rfl, v, hK.refl v, { hst with out := congrArg (· ++ text) hst.out }⟩

theorem newIdentity (hK : K.Lawful) : K.Coupled w fun _ => Render.newIdentity :=
  fun v _ _ _ hst => ⟨congrArg _ (congrArg _ hst.made), v, hK.refl v,
    { hst with made := congrArg (· + 1) hst.made }⟩

theorem withScope (hK : K.Lawful) (scope : NameMap Value) {act : Family χ α}
    (inside : K.Coupled w act) : K.Coupled w fun i => Render.withScope scope (act i) := by
  intro v hv s t hst
  simp only [Render.withScope, within_run]
  have entered : K.States v { s with scopes := scope :: s.scopes }
      { t with scopes := scope :: t.scopes } := { hst with scopes := congrArg _ hst.scopes }
  refine (inside v hv _ _ entered).andThen hK fun result u _ s' t' hst' => ?_
  exact ⟨rfl, u, hK.refl u, { hst' with scopes := congrArg _ hst'.scopes }⟩

theorem captured (hK : K.Lawful) {act : Family χ Unit} (inside : K.Coupled w act) :
    K.Coupled w fun i => Render.captured (act i) := by
  intro v hv s t hst
  simp only [captured_run]
  have entered : K.States v { s with out := "" } { t with out := "" } := { hst with out := rfl }
  refine (inside v hv _ _ entered).andThen hK fun result u _ s' t' hst' => ?_
  exact ⟨by rw [hst'.out], u, hK.refl u, { hst' with out := hst.out }⟩

/-! Cycles are looked up and changed under corresponding numbers. -/

private theorem findCycle_eq (hK : K.Lawful) {i j : Nat} (h : K.ids w i j) :
    ∀ {cycles cycles' : List (Nat × CycleState)},
      List.Forall₂ (fun p q => K.ids w p.1 q.1 ∧ p.2 = q.2) cycles cycles' →
      findCycle cycles i = findCycle cycles' j
  | [], [], .nil => rfl
  | (i', _) :: _, (j', _) :: _, .cons ⟨hid, hstate⟩ rest => by
      have same : (i' == i) = (j' == j) := by simp [hK.ids_iff hid h]
      have ih := findCycle_eq hK h rest
      unfold findCycle at ih ⊢
      simp only [List.find?_cons, same]
      cases j' == j with
      | true => simpa using hstate
      | false => exact ih

private theorem setCycle_forall (hK : K.Lawful) {i j : Nat} (h : K.ids w i j) (state : CycleState)
    {cycles cycles' : List (Nat × CycleState)}
    (hcycles : List.Forall₂ (fun p q => K.ids w p.1 q.1 ∧ p.2 = q.2) cycles cycles') :
    List.Forall₂ (fun p q => K.ids w p.1 q.1 ∧ p.2 = q.2) (setCycle cycles i state)
      (setCycle cycles' j state) := by
  induction hcycles with
  | nil => exact .cons ⟨h, rfl⟩ .nil
  | @cons p q cycles cycles' hpq hrest ih =>
      have same : (p.1 == i) = (q.1 == j) := by simp [hK.ids_iff hpq.1 h]
      unfold setCycle
      simp only [same]
      cases q.1 == j with
      | true => exact .cons ⟨h, rfl⟩ hrest
      | false => exact .cons hpq ih

theorem cycleAt (hK : K.Lawful) {id : Side → Nat} (hid : K.ids w (id .left) (id .right)) :
    K.Coupled w fun i => Render.cycleAt (id i) := by
  intro v hv s t hst
  simp only [cycleAt_run]
  exact ⟨congrArg _ (findCycle_eq hK (hK.ids_later hv hid) hst.cycles), v, hK.refl v, hst⟩

theorem putCycle (hK : K.Lawful) {id : Side → Nat} (hid : K.ids w (id .left) (id .right))
    (state : CycleState) : K.Coupled w fun i => Render.putCycle (id i) state := by
  intro v hv s t hst
  exact ⟨rfl, v, hK.refl v,
    { hst with cycles := setCycle_forall hK (hK.ids_later hv hid) state hst.cycles }⟩

/-- Computations that are put together in the same way from coupled ones are coupled. -/
theorem of_uniform (hK : K.Lawful) {act : Family χ α}
    (h : Uniform (fun _ act => K.Coupled w act) act) : K.Coupled w act := by
  induction h with
  | given h => exact h
  | pure a => exact pure hK a
  | bind _ _ first rest => exact bind hK first rest
  | failWith cause => exact fail hK _
  | tryCatch _ _ first rest => exact tryCatch hK first rest
  | scopes => exact scopes hK
  | write text => exact write hK text
  | newIdentity => exact newIdentity hK
  | withScope _ _ inside => exact withScope hK _ inside
  | captured _ inside => exact captured hK inside

end Coupled

/-! ## Blocks -/

section

variable {c : (i : Side) → RenderContext (χ i)} {inner : (i : Side) → Renderer (χ i)}

/-- The sides take corresponding definitions from corresponding chains and render them alike. -/
def NextCoupled (K : Coupling χ) (w : K.World) (c : (i : Side) → RenderContext (χ i))
    (inner : (i : Side) → Renderer (χ i)) : Prop :=
  ∀ v, K.Later w v → ∀ k l, K.chains v k l →
    K.chains v ((c .left).blocks.next k).2 ((c .right).blocks.next l).2 ∧
    match ((c .left).blocks.next k).1, ((c .right).blocks.next l).1 with
    | none, none => True
    | some b, some b' => K.Coupled v fun
        | .left => inner .left b.body
        | .right => inner .right b'.body
    | _, _ => False

theorem coupled_renderNext (hK : K.Lawful) (h : K.NextCoupled w c inner) :
    K.Coupled w fun i => renderNext (c i) (inner i) := by
  intro v hv s t hst
  have hchains := hst.chains
  generalize hs : s.chains = left at hchains
  generalize ht : t.chains = right at hchains
  cases hchains with
  | nil =>
      simp only [renderNext_nil _ _ hs, renderNext_nil _ _ ht]
      exact ⟨rfl, v, hK.refl v, hst⟩
  | @cons k l ks ls hkl rest =>
      simp only [renderNext_cons _ _ hs, renderNext_cons _ _ ht]
      have hnext := h v hv k l hkl
      revert hnext
      rcases (c .left).blocks.next k with ⟨_ | b, k'⟩ <;>
        rcases (c .right).blocks.next l with ⟨_ | b', l'⟩
      · rintro ⟨hleft, -⟩
        exact ⟨rfl, v, hK.refl v, { hst with chains := .cons hleft rest }⟩
      · exact fun h => h.2.elim
      · exact fun h => h.2.elim
      · rintro ⟨hleft, hbodies⟩
        have taken : K.States v { s with chains := k' :: ks } { t with chains := l' :: ls } :=
          { hst with chains := .cons hleft rest }
        exact hbodies.withScope hK blockScope v (hK.refl v) _ _ taken

/-- Two blocks start with corresponding chains, or both render nothing. -/
def StartCoupled (K : Coupling χ) (w : K.World) : Option (χ .left) → Option (χ .right) → Prop
  | none, none => True
  | some k, some l => K.chains w k l
  | _, _ => False

def EnterCoupled (K : Coupling χ) (w : K.World) (c : (i : Side) → RenderContext (χ i))
    (block : Side → Block) : Prop :=
  K.StartCoupled w ((c .left).blocks.enter (block .left)) ((c .right).blocks.enter (block .right))

theorem coupled_renderBlock (hK : K.Lawful) (hnext : K.NextCoupled w c inner) {block : Side → Block}
    (henter : K.EnterCoupled w c block) :
    K.Coupled w fun i => renderBlock (c i) (inner i) (block i) := by
  intro v hv s t hst
  simp only [renderBlock]
  unfold EnterCoupled at henter
  match hl : (c .left).blocks.enter (block .left), hr : (c .right).blocks.enter (block .right) with
  | none, none => exact ⟨rfl, v, hK.refl v, hst⟩
  | none, some _ => exact (by simp [hl, hr, StartCoupled] at henter)
  | some _, none => exact (by simp [hl, hr, StartCoupled] at henter)
  | some k, some l =>
      have hkl : K.chains w k l := by simpa [hl, hr, StartCoupled] using henter
      have entered : K.States v { s with chains := k :: s.chains }
          { t with chains := l :: t.chains } :=
        { hst with chains := .cons (hK.chains_later hv hkl) hst.chains }
      simp only [withChain, within_run]
      refine (coupled_renderNext hK hnext v hv _ _ entered).andThen hK fun result u _ s' t' h => ?_
      exact ⟨rfl, u, hK.refl u, { h with chains := List.forall₂_drop 1 h.chains }⟩

/-! ## Includes -/

/-- The sides have loaded templates that render alike, or have failed with the same error. -/
def Loaded (K : Coupling χ) (v : K.World) (inner : (i : Side) → Renderer (χ i)) :
    Except Error Program × Memory → Except Error Program × Memory → Prop
  | (.ok p, m), (.ok p', m') => ∃ u, K.Later v u ∧ K.memories u m m' ∧
      K.Coupled u fun
        | .left => inner .left p.root
        | .right => inner .right p'.root
  | (.error e, m), (.error e', m') => e = e' ∧ ∃ u, K.Later v u ∧ K.memories u m m'
  | _, _ => False

theorem States.later (hK : K.Lawful) {v : K.World} (hv : K.Later w v) {s : RenderState (χ .left)}
    {t : RenderState (χ .right)} (h : K.States w s t) {m m' : Memory} (hm : K.memories v m m') :
    K.States v { s with memory := m } { t with memory := m' } :=
  { h with
    cycles := h.cycles.imp fun _ _ hp => ⟨hK.ids_later hv hp.1, hp.2⟩
    chains := h.chains.imp fun _ _ hk => hK.chains_later hv hk
    memory := hm }

variable {s : RenderState (χ .left)} {t : RenderState (χ .right)} {names names' : List String}

theorem matches_loadTemplate (hK : K.Lawful) (hst : K.States w s t)
    (hload : K.Loaded w inner ((c .left).load names s.memory) ((c .right).load names' t.memory)) :
    K.Matches w ((loadTemplate (c .left) names >>= fun p => inner .left p.root) s)
      ((loadTemplate (c .right) names' >>= fun p => inner .right p.root) t) := by
  simp only [bind_run, loadTemplate_run]
  revert hload
  rcases (c .left).load names s.memory with ⟨e | p, m⟩ <;>
    rcases (c .right).load names' t.memory with ⟨e' | p', m'⟩
  · rintro ⟨rfl, u, hu, hm⟩
    simp only [fail_run]
    split
    · exact .inr rfl
    · exact ⟨rfl, u, hu, hst.later hK hu hm⟩
  · exact False.elim
  · exact False.elim
  · rintro ⟨u, hu, hm, hroots⟩
    exact (hroots u (hK.refl u) _ _ (hst.later hK hu hm)).earlier hK hu

/-- The states one include level further inside. -/
theorem States.included (hK : K.Lawful) (hst : K.States w s t) :
    K.States w { s with includeDepth := s.includeDepth + 1 }
      { t with includeDepth := t.includeDepth + 1 } :=
  { hst with includeDepth := hK.depths_succ hst.includeDepth }

theorem matches_includeTemplate (hK : K.Lawful) (hst : K.States w s t)
    (hmay : (c .left).mayInclude s.includeDepth = (c .right).mayInclude t.includeDepth)
    (hload : (c .right).mayInclude t.includeDepth = .ok () →
      K.Loaded w inner ((c .left).load names s.memory) ((c .right).load names' t.memory)) :
    K.Matches w (includeTemplate (c .left) (inner .left) names s)
      (includeTemplate (c .right) (inner .right) names' t) := by
  simp only [includeTemplate_run]
  rw [hmay]
  cases hright : (c .right).mayInclude t.includeDepth with
  | error cause => exact Coupled.fail hK _ w (hK.refl w) s t hst
  | ok _ =>
      simp only [withInclude, within_run]
      have inside := matches_loadTemplate (c := c) hK (hst.included hK) (hload hright)
      refine inside.andThen hK fun result u _ s' t' hst' => ?_
      exact ⟨rfl, u, hK.refl u, { hst' with includeDepth := hK.depths_pred hst'.includeDepth }⟩

/-- The sides load templates that render alike, or fail with the same error. -/
def LoadCoupled (K : Coupling χ) (w : K.World) (c : (i : Side) → RenderContext (χ i))
    (inner : (i : Side) → Renderer (χ i)) (names : List String) : Prop :=
  ∀ v, K.Later w v → ∀ m m', K.memories v m m' →
    K.Loaded v inner ((c .left).load names m) ((c .right).load names m')

theorem coupled_includeTemplate (hK : K.Lawful)
    (hmay : ∀ m n, K.depths m n → (c .left).mayInclude m = (c .right).mayInclude n)
    (hload : K.LoadCoupled w c inner names) :
    K.Coupled w fun i => includeTemplate (c i) (inner i) names :=
  fun v hv _ _ hst => matches_includeTemplate hK hst (hmay _ _ hst.includeDepth)
    fun _ => hload v hv _ _ hst.memory

end

/-! ## Reports -/

/-- Renders in step come to the same, unless the left one stops where it may. -/
theorem Matches.report_eq {w : K.World} {r : Except Stop (Except Error Unit × RenderState (χ .left))}
    {r' : Except Stop (Except Error Unit × RenderState (χ .right))} (h : K.Matches w r r')
    (goes : ∀ reason, r = .error reason → ¬ K.lax reason) : report r = report r' := by
  rcases r with reason | ⟨result, s⟩ <;> rcases r' with reason' | ⟨result', t⟩
  · obtain hlax | same := h
    · exact absurd hlax (goes reason rfl)
    · rw [same]
      rfl
  · obtain hlax | same := h
    · exact absurd hlax (goes reason rfl)
    · cases same
  · exact h.elim
  · obtain ⟨rfl, v, hv, hst⟩ := h
    have hout : s.out = t.out := hst.out
    simp only [report, Except.map, hout]

/-! ## Couplings of chains -/

/-- Nothing but the chains may differ. -/
def ofChains (chains : χ .left → χ .right → Prop) (lax : Stop → Prop) : Coupling χ where
  World := Unit
  Later _ _ := True
  ids _ i j := i = j
  chains _ := chains
  memories _ m m' := m = m'
  depths m n := m = n
  lax := lax

namespace ofChains

variable {chains : χ .left → χ .right → Prop} {lax : Stop → Prop}

theorem lawful : (ofChains chains lax).Lawful where
  refl _ := trivial
  trans _ _ := trivial
  ids_later _ h := h
  chains_later _ h := h
  ids_iff := by
    rintro _ i j i' j' rfl rfl
    rfl
  depths_succ h := congrArg (· + 1) h
  depths_pred h := congrArg (· - 1) h

theorem cycles_refl (cycles : List (Nat × CycleState)) :
    List.Forall₂ (fun p q => (ofChains chains lax).ids () p.1 q.1 ∧ p.2 = q.2) cycles cycles :=
  List.forall₂_same.mpr fun _ _ => ⟨rfl, rfl⟩

theorem cycles_eq {s : RenderState (χ .left)} {t : RenderState (χ .right)}
    (h : (ofChains chains lax).States () s t) : s.cycles = t.cycles :=
  List.forall₂_eq_eq_eq ▸ h.cycles.imp fun _ _ hpq => Prod.ext hpq.1 hpq.2

end ofChains

end Coupling

end Render

end TextTemplate
