import TextTemplate.Proofs.Engine.Settled
import TextTemplate.Proofs.Render.Alike

/-!
# Watching the includes

A watch looks at each template that a render includes. It stops the render where a limit of including
is reached, and where a marked tag stands whose variable does not hold the name. A render that it does
not stop is not changed by it.
-/

namespace TextTemplate

/-- A variable, and the name that it holds where a marked tag stands. -/
structure Mark where
  reference : Reference
  name : String

namespace Mark

/-- A marked tag gives the name as a literal, as no tag does that was read. -/
def target (k : Mark) : Expr := .literal (.string k.name)

def holds (k : Mark) (scopes : Scopes) : Bool :=
  (scopes.resolve k.reference.path).string? == some k.name

end Mark

/-- The context with the blocks of a document. -/
def RenderContext.of (c : RenderContext (List Block)) (root : List Node) : RenderContext (List Block) :=
  { c with blocks := .ofRegistry (registryOf root) }

namespace Render

section

variable {χ : Type} (c : RenderContext χ) (k : Mark) (reason : Stop) (inner : Renderer χ)

/-- Whether one of the templates may be included without reaching a limit. -/
def permits (names : List String) (s : RenderState χ) : Bool :=
  match c.mayInclude s.includeDepth, (c.load names s.memory).1 with
  | .error _, _ => false
  | .ok _, .error ⟨.compileDepth _, _, _⟩ => false
  | .ok _, _ => true

/-- Whether the watch lets an include tag pass. -/
def passes (target : Expr) (names : List String) (s : RenderState χ) : Bool :=
  permits c names s &&
    match target with
    | .literal _ => k.holds s.scopes
    | .reference _ => true

/-- Goes on with the names that an include tag gives. -/
def withNames (target : Expr) (act : List String → RenderM χ Unit) : RenderM χ Unit := do
  let value ← eval c inner target
  match candidateNames value with
  | [] => failWith (.notATemplateName value.kind)
  | names => act names

/-- Renders the template with one of the names, or stops for the given reason. -/
def includeWatched (target : Expr) (names : List String) : RenderM χ Unit := fun s =>
  if passes c k target names s then includeTemplate c inner names s else .error reason

def watchedNode : Node → RenderM χ Unit
  | .includeBy target => withNames c inner target (includeWatched c k reason inner target)
  | node => renderNode c inner node

variable {c k reason inner}

theorem watchedNode_of_ne {node : Node} (h : ∀ target, node ≠ .includeBy target) :
    watchedNode c k reason inner node = renderNode c inner node := by
  cases node with
  | includeBy target => exact absurd rfl (h target)
  | _ => rfl

theorem permits_iff {names : List String} {s : RenderState χ} :
    permits c names s = true ↔
      c.mayInclude s.includeDepth = .ok () ∧ ¬ Limited (c.load names s.memory).1 := by
  unfold permits
  cases c.mayInclude s.includeDepth with
  | error cause => simp
  | ok _ =>
      rcases (c.load names s.memory).1 with ⟨cause, place, name⟩ | p
      · cases cause <;> simp [limited_error, Cause.Limited]
      · simp [not_limited_ok]

theorem passes_iff {target : Expr} {names : List String} {s : RenderState χ} :
    passes c k target names s = true ↔
      permits c names s = true ∧ ∀ value, target = .literal value → k.holds s.scopes = true := by
  unfold passes
  cases target <;> simp

/-- Where the variable holds the name, including by the variable includes the template of the name. -/
theorem renderInclude_of_holds (hfilters : k.reference.filters = []) {s : RenderState χ}
    (h : k.holds s.scopes = true) :
    renderInclude c inner (.reference k.reference) s = includeTemplate c inner [k.name] s := by
  have resolved : s.scopes.resolve k.reference.path = .string k.name := by
    unfold Mark.holds at h
    revert h
    cases s.scopes.resolve k.reference.path <;> simp [Value.string?]
  have path : evalPath c inner k.reference s = .ok (.ok (.string k.name), s) := by
    rw [evalPath, bind_run, scopes_run]
    simp only [andThen, resolved]
    rfl
  have value : eval c inner (.reference k.reference) s = .ok (.ok (.string k.name), s) := by
    rw [eval, bind_run, path]
    simp only [andThen, hfilters]
    rfl
  rw [renderInclude, bind_run, value]
  rfl

end

/-! ## What the watch lets pass -/

namespace InStep

variable {P : Pairing} {c : Side → RenderContext (List Block)} (h : InStep P c) {w : P.World}
  {inner : Side → Renderer (List Block)} (hinner : h.Inner w inner)

include hinner

/-- Tags with one target render in step if the templates with the names do. -/
theorem coupled_withNames (target : Expr)
    (act : (i : Side) → List String → RenderM (List Block) Unit)
    (hact : ∀ names, P.coupling.Coupled w fun i => act i names) :
    P.coupling.Coupled w fun i => withNames (c i) (inner i) target (act i) := by
  refine .bind h.lawful (h.coupled_eval hinner target) fun value => ?_
  cases candidateNames value with
  | nil => exact .fail h.lawful _
  | cons name names => exact hact _

end InStep

theorem Coupling.matches_includeWatched {χ : Side → Type} {K : Coupling χ} {w : K.World} {k : Mark}
    {reason : Stop} (hlax : K.lax reason) {c : RenderContext (χ .left)} {inner : Renderer (χ .left)}
    (target : Expr) (names : List String) {s : RenderState (χ .left)}
    {r : Except Stop (Except Error Unit × RenderState (χ .right))}
    (h : passes c k target names s = true → K.Matches w (includeTemplate c inner names s) r) :
    K.Matches w (includeWatched c k reason inner target names s) r := by
  unfold includeWatched
  by_cases hpasses : passes c k target names s = true
  · rw [if_pos hpasses]
    exact h hpasses
  · rw [if_neg hpasses]
    exact .of_lax hlax rfl

/-! ## A render with and without the watch -/

/-- The variable may stand for the marked target. -/
def markedLike (k : Mark) : Likeness where
  ids := (· = ·)
  targets target target' := target = target' ∨ target = k.target ∧ target' = .reference k.reference
  inserts _ _ := False

theorem markedLike_targets (k : Mark) (target : Expr) : (markedLike k).targets target target :=
  Or.inl rfl

/-- A watched render beside one that is not. -/
def watching (targets : Expr → Expr → Prop) (reason : Stop) : Pairing where
  World := Unit
  Later _ _ := True
  like _ := ⟨(· = ·), targets, fun _ _ => False⟩
  known _ _ := True
  memories _ m m' := m = m'
  bounded := True
  lax := (· = reason)

section

variable (c : RenderContext (List Block)) {targets : Expr → Expr → Prop} (reason : Stop)
  {marked root : List Node} (h : Alike ⟨(· = ·), targets, fun _ _ => False⟩ marked root)

include h

theorem watching_inStep :
    InStep (watching targets reason) (Side.pick (c.of marked) (c.of root)) where
  refl _ := trivial
  trans _ _ := trivial
  within _ := ⟨id, id, id⟩
  known _ _ := trivial
  unique := by
    rintro _ i j i' j' rfl rfl
    rfl
  clock := ⟨c.world.clock, by rintro (_ | _) <;> rfl⟩
  functions := ⟨c.world.functions, by rintro (_ | _) <;> rfl⟩
  next := by rintro (_ | _) chain <;> rfl
  enter := by
    intro w block block' hblock
    have hnodes : (watching targets reason).Nodes w marked root := ⟨h, fun _ _ => trivial⟩
    refine chainOf_corresponds ?_ hblock (hnodes.titled fun _ _ => False.elim)
    rintro i j i' j' rfl rfl
    rfl

variable {c reason}

omit h in
theorem watching_loaded (hrefl : ∀ target, targets target target) {m m' : Memory} (hm : m = m')
    (names : List String) : (watching targets reason).Loaded () (c.load names m) (c.load names m') := by
  subst hm
  rcases c.load names m with ⟨error | p, n⟩
  · exact ⟨rfl, (), trivial, rfl⟩
  · exact ⟨(), trivial, rfl, .refl hrefl fun _ _ => rfl, fun _ _ => trivial⟩

/-- A watched render comes to the same as one that is not, unless the watch stops it. -/
theorem report_watching {watched : Renderer (List Block) → Node → RenderM (List Block) Unit}
    (hsteps : (watching_inStep c reason h).Steps
      (Side.pick watched (renderNode (c.of root)))) (depth : Nat) (e : Engine) (m : Memory)
    (data : NameMap Value)
    (goes : renderBy watched depth marked (Program.startState e m data) ≠ .error reason) :
    report (renderBy watched depth marked (Program.startState e m data)) =
      report (render (c.of root) depth root (Program.startState e m data)) := by
  have hnodes : (watching targets reason).Nodes () marked root := ⟨h, fun _ _ => trivial⟩
  have coupled := (watching_inStep c reason h).coupled hsteps depth hnodes
  have matched := coupled () trivial _ _
    ((watching targets reason).start (w := ()) (rfl : m = m) e data)
  rw [render_eq_renderBy]
  refine matched.report_eq ?_
  rintro _ hstop rfl
  exact goes hstop

end

section

variable {c : RenderContext (List Block)} {k : Mark} {reason : Stop} {marked root : List Node}

theorem watching_steps (h : Alike (markedLike k) marked root)
    (hfilters : k.reference.filters = []) :
    (watching_inStep c reason h).Steps
      (Side.pick (watchedNode (c.of marked) k reason) (renderNode (c.of root))) where
  node := by
    rintro (_ | _) inner node htarget
    · exact watchedNode_of_ne htarget
    · rfl
  inserts := False.elim
  targets := by
    intro w target target' htarget inner hinner
    have hstep := watching_inStep c reason h
    -- Where the watch lets a tag pass, both sides include the same template.
    have included : ∀ names v, ∀ s t,
        (watching (markedLike k).targets reason).coupling.States v s t →
          (watching (markedLike k).targets reason).coupling.Matches v
            (includeTemplate (c.of marked) (inner .left) names s)
            (includeTemplate (c.of root) (inner .right) names t) := by
      intro names v s t hst
      have hdepth : s.includeDepth = t.includeDepth := hst.includeDepth trivial
      exact hstep.matches_include hinner hst (congrArg _ hdepth) fun _ =>
        watching_loaded (markedLike_targets k) hst.memory names
    rcases htarget with rfl | ⟨rfl, rfl⟩
    · have act := hstep.coupled_withNames hinner target
        (Side.pick (includeWatched (c.of marked) k reason (inner .left) target)
          (includeTemplate (c.of root) (inner .right)))
        fun names v _ s t hst => Coupling.matches_includeWatched rfl target names fun _ =>
          included names v s t hst
      exact act
    · intro v _ s t hst
      refine Coupling.matches_includeWatched rfl k.target [k.name] fun hpasses => ?_
      -- The reference stands in place of the name: the watch passes only where the name is its value.
      have holds := (passes_iff.mp hpasses).2 _ rfl
      have hscopes : s.scopes = t.scopes := hst.scopes
      rw [hscopes] at holds
      change (watching (markedLike k).targets reason).coupling.Matches v _
        (renderInclude (c.of root) (inner .right) (.reference k.reference) t)
      rw [renderInclude_of_holds hfilters holds]
      exact included [k.name] v s t hst

/-- A render that the watch does not stop comes to what it comes to without the watch. -/
theorem report_watched (h : Alike (markedLike k) marked root) (hfilters : k.reference.filters = [])
    (depth : Nat) (e : Engine) (m : Memory) (data : NameMap Value)
    (goes : renderBy (watchedNode (c.of marked) k reason) depth marked
      (Program.startState e m data) ≠ .error reason) :
    report (renderBy (watchedNode (c.of marked) k reason) depth marked
        (Program.startState e m data)) =
      report (render (c.of root) depth root (Program.startState e m data)) :=
  report_watching h (watching_steps h hfilters) depth e m data goes

end

/-! ## Watching what has to be compiled -/

section

variable {χ : Type} (c : RenderContext χ) (reason : Stop) (inner : Renderer χ)

/-- Whether a template may be included, but not without compiling too many inside one another. -/
def overruns (names : List String) (s : RenderState χ) : Bool :=
  match c.mayInclude s.includeDepth, (c.load names s.memory).1 with
  | .ok _, .error ⟨.compileDepth _, _, _⟩ => true
  | _, _ => false

/-- Renders the template with one of the names, or stops for the given reason. -/
def includeShallow (names : List String) : RenderM χ Unit := fun s =>
  if overruns c names s then .error reason else includeTemplate c inner names s

def shallowNode : Node → RenderM χ Unit
  | .includeBy target => withNames c inner target (includeShallow c reason inner)
  | node => renderNode c inner node

/-- No template that the render includes reaches the limit of compiling. -/
def Shallow (depth : Nat) (root : List Node) (s : RenderState χ) : Prop :=
  ∃ reason, renderBy (shallowNode c reason) depth root s ≠ .error reason

variable {c reason inner}

theorem overruns_iff {names : List String} {s : RenderState χ} :
    overruns c names s = true ↔
      c.mayInclude s.includeDepth = .ok () ∧ Limited (c.load names s.memory).1 := by
  unfold overruns
  cases c.mayInclude s.includeDepth with
  | error cause => simp
  | ok _ =>
      rcases (c.load names s.memory).1 with ⟨cause, place, name⟩ | p
      · cases cause <;> simp [limited_error, Cause.Limited]
      · simp [not_limited_ok]

theorem shallowNode_of_ne {node : Node} (h : ∀ target, node ≠ .includeBy target) :
    shallowNode c reason inner node = renderNode c inner node := by
  cases node with
  | includeBy target => exact absurd rfl (h target)
  | _ => rfl

end

section

variable {P : Pairing} {c : Side → RenderContext (List Block)} {reason : Stop}

/-- What is loaded on both sides corresponds, unless the left side reaches the limit of compiling. -/
def LoadsShallow (P : Pairing) (c : Side → RenderContext (List Block)) : Prop :=
  ∀ {w m m'}, P.memories w m m' → ∀ names, ¬ Limited ((c .left).load names m).1 →
    P.Loaded w ((c .left).load names m) ((c .right).load names m')

theorem shallow_steps (h : InStep P c) (hlax : P.lax reason) (hbounded : P.bounded)
    (htargets : ∀ {w target target'}, (P.like w).targets target target' → target = target')
    (hinserts : ∀ {w target body}, ¬ (P.like w).inserts target body)
    (hmay : (c .left).mayInclude = (c .right).mayInclude) (hload : LoadsShallow P c) :
    h.Steps (Side.pick (shallowNode (c .left) reason) (renderNode (c .right))) where
  node := by
    rintro (_ | _) inner node htarget
    · exact shallowNode_of_ne htarget
    · rfl
  inserts inserted := absurd inserted hinserts
  targets := by
    intro w target target' htarget inner hinner
    obtain rfl := htargets htarget
    have act := h.coupled_withNames hinner target
      (Side.pick (includeShallow (c .left) reason (inner .left))
        (includeTemplate (c .right) (inner .right))) fun names v hv s t hst => ?_
    · exact act
    · have hdepth : s.includeDepth = t.includeDepth := hst.includeDepth hbounded
      change P.coupling.Matches v (includeShallow (c .left) reason (inner .left) names s) _
      unfold includeShallow
      -- A load that overruns is stopped on the left, which the pairing lets pass.
      by_cases hover : overruns (c .left) names s = true
      · rw [if_pos hover]
        exact .of_lax hlax rfl
      · rw [if_neg hover]
        have inside : h.Inner v inner := fun hu => hinner (h.trans hv hu)
        refine h.matches_include inside hst (by rw [hmay, hdepth]) fun hright => ?_
        rw [← hmay, ← hdepth] at hright
        exact hload hst.memory names fun limited => hover (overruns_iff.mpr ⟨hright, limited⟩)

/-- A render that never reaches the limit of compiling comes to what it comes to without the watch. -/
theorem report_shallow (c : RenderContext (List Block)) (root : List Node) (depth : Nat) (e : Engine)
    (m : Memory) (data : NameMap Value)
    (goes : renderBy (shallowNode (c.of root) reason) depth root
      (Program.startState e m data) ≠ .error reason) :
    report (renderBy (shallowNode (c.of root) reason) depth root (Program.startState e m data)) =
      report (render (c.of root) depth root (Program.startState e m data)) := by
  have alike : Alike .strict root root := .refl (fun _ => rfl) fun _ _ => rfl
  have hsteps : (watching_inStep c reason alike).Steps
      (Side.pick (shallowNode (c.of root) reason) (renderNode (c.of root))) :=
    shallow_steps _ rfl trivial id id rfl fun hm names _ =>
      watching_loaded (fun _ => rfl) hm names
  exact report_watching alike hsteps depth e m data goes

end

end Render

end TextTemplate
