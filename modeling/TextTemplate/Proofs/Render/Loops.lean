import TextTemplate.Proofs.Render.Coupling
import TextTemplate.Proofs.Render.Preserved
import TextTemplate.Proofs.Text.Encoding
import TextTemplate.Render.Template

/-!
# Loops

A loop renders its body once for each item, in a scope of its own that binds the loop variables and
`loop`. The renderer finds the record of the loop outside by looking up `loop`. Here the loops
around a place are kept in a list instead. `renderAmong` makes the records from that list, puts
every run of a loop into the scopes in which the loop started, with a scope of its own on top, and
watches that `loop` is at every node what the list says. Both renderers are the same (`loops_nest`),
whatever stands between the loops.
-/

namespace TextTemplate

namespace Render

variable {χ α β : Type}

/-! ## The loops around a place -/

/-- One run of a loop. -/
structure Run where
  index : Nat
  length : Nat

/-- The runs of the loops around a place, the innermost first, and the value of `loop` outside of
them. -/
structure Loops where
  runs : List Run
  outside : Value

namespace Loops

/-- The value of `loop`. -/
def value (around : Loops) : Value :=
  around.runs.foldr (fun run parent => loopRecord run.index run.length parent) around.outside

/-- Inside one more loop. -/
def enter (around : Loops) (run : Run) : Loops := { around with runs := run :: around.runs }

@[simp] theorem value_enter (around : Loops) (run : Run) :
    (around.enter run).value = loopRecord run.index run.length around.value := rfl

/-- Looking up `loop` gives what the loops make it; it may be unbound outside of them. -/
def Holds (around : Loops) (scopes : Scopes) : Prop := (scopes.get "loop").getD .none = around.value

/-- Outside of all loops that are looked at. -/
def start (scopes : Scopes) : Loops := ⟨[], (scopes.get "loop").getD .none⟩

theorem holds_start (scopes : Scopes) : (start scopes).Holds scopes := rfl

/-- A scope that does not bind `loop` does not matter. -/
theorem Holds.push {around : Loops} {scopes : Scopes} (h : around.Holds scopes)
    {scope : NameMap Value} (free : scope.find? "loop" = none) :
    around.Holds (scope :: scopes) := by
  unfold Holds Scopes.get
  rw [List.findSome?_cons, free]
  exact h

/-- A scope that binds `loop` decides. -/
theorem holds_of_bound {around : Loops} {scope : NameMap Value}
    (bound : scope.find? "loop" = some around.value) (scopes : Scopes) :
    around.Holds (scope :: scopes) := by
  unfold Holds Scopes.get
  rw [List.findSome?_cons, bound]
  rfl

end Loops

/-! ## Rendering among loops -/

/-- The scope of a run. -/
def runScope (bindings : NameMap Value) (inside : Loops) : NameMap Value :=
  bindings.insert "loop" inside.value

/-- Runs in the first scopes and leaves the others. -/
def inScopes (inside outside : Scopes) (act : RenderM χ α) : RenderM χ α :=
  within (fun s => { s with scopes := inside }) (fun s => { s with scopes := outside }) act

section

variable (c : RenderContext χ) (inner : Loops → Renderer χ) (around : Loops)

/-- Renders the body for the item at an index. -/
def renderRun (names : List String) (tag : String) (body : List Node) (length : Nat)
    (outer : Scopes) : Value × Nat → RenderM χ Unit
  | (item, index) =>
    match loopBindings names tag item with
    | .error cause => failWith cause
    | .ok bindings =>
      let inside := around.enter ⟨index, length⟩
      inScopes (runScope bindings inside :: outer) outer (inner inside body)

/-- Renders the body for every item, or the fallback. -/
def renderLoopAmong (names : List String) (items : Expr) (tag : String)
    (body fallback : List Node) : RenderM χ Unit := do
  let value ← eval c (inner around) items
  let outer ← scopes
  match loopItems value with
  | [] => inner around fallback
  | items => forM items.zipIdx (renderRun inner around names tag body items.length outer)

/-- Renders one node. A loop is one more around its body; a binding of `loop` hides all loops. -/
def renderNodeAmong : Node → RenderM χ Unit
  | .loop names items tag body fallback =>
    renderLoopAmong c inner around names items tag body fallback
  | .bind name value body => do
    let value ← eval c (inner around) value
    withScope [(name, value)] (inner (if name = "loop" then ⟨[], value⟩ else around) body)
  | node => renderNode c (inner around) node

end

open Classical in
/-- Stops for the given reason unless `loop` is what the loops around the place make it. -/
noncomputable def watched (reason : Stop) (around : Loops) (act : RenderM χ α) : RenderM χ α :=
  fun s => if around.Holds s.scopes then act s else .error reason

/-- Renders nodes among loops at most `depth` levels deep, and watches every node. -/
noncomputable def renderAmong (c : RenderContext χ) (reason : Stop) : Nat → Loops → Renderer χ
  | 0, _, _ => stop .tooDeep
  | depth + 1, around, nodes =>
    let step := renderNodeAmong c (renderAmong c reason depth) around
    renderAll (fun node => watched reason around (step node)) nodes

/-! ## Scopes are put back -/

/-- The scopes are afterwards what they were. -/
def SameScopes (s t : RenderState χ) : Prop := t.scopes = s.scopes

theorem SameScopes.invariant (c : RenderContext χ) : Invariant c SameScopes where
  refl _ := rfl
  trans h k := Eq.trans k h
  write _ _ := rfl
  newIdentity _ := rfl
  putCycle _ _ _ := rfl
  load _ _ := rfl
  next _ _ _ _ := rfl
  withScope _ _ _ h := congrArg (List.drop 1) h
  withChain _ _ _ h := h
  withInclude _ _ h := h
  captured _ _ h := h

/-- What fails does not go on. -/
theorem failWith_bind (cause : Cause) (next : α → RenderM χ β) :
    (failWith cause >>= next) = failWith cause := by
  funext s
  rw [bind_run, failWith, failWith, fail_run, fail_run]
  split <;> rfl

/-! ## Agreement -/

/-- Both outcomes are the same, and leave these scopes. -/
structure Leaves (scopes : Scopes) (r r' : Except Stop (Except Error α × RenderState χ)) :
    Prop where
  same : r = r'
  kept : ∀ result t, r = .ok (result, t) → t.scopes = scopes

namespace Leaves

variable {σ τ : Scopes} {r r' : Except Stop (Except Error α × RenderState χ)}

theorem ok {t : RenderState χ} (h : t.scopes = σ) (result : Except Error α) :
    Leaves σ (.ok (result, t)) (.ok (result, t)) :=
  ⟨rfl, by rintro _ _ ⟨⟩; exact h⟩

theorem andThen {next next' : Except Error α → RenderState χ →
      Except Stop (Except Error β × RenderState χ)} (first : Leaves τ r r')
    (rest : ∀ result t, t.scopes = τ → Leaves σ (next result t) (next' result t)) :
    Leaves σ (Render.andThen r next) (Render.andThen r' next') := by
  obtain ⟨rfl, kept⟩ := first
  constructor
  · rcases r with reason | ⟨result, t⟩
    · rfl
    · exact (rest result t (kept _ _ rfl)).same
  · intro result u hu
    obtain ⟨_, t, run, hu⟩ := andThen_ok.mp hu
    exact (rest _ t (kept _ _ run)).kept _ _ hu

end Leaves

/-- From this state the computations do the same, and leave the scopes as they are. -/
abbrev AgreesAt (s : RenderState χ) (act act' : RenderM χ α) : Prop :=
  Leaves s.scopes (act s) (act' s)

namespace AgreesAt

variable {s : RenderState χ}

theorem const {act : RenderM χ α} (kept : Preserves SameScopes act) : AgreesAt s act act :=
  ⟨rfl, kept s⟩

theorem bind {act act' : RenderM χ α} {next next' : α → RenderM χ β}
    (first : AgreesAt s act act')
    (rest : ∀ a t, t.scopes = s.scopes → AgreesAt t (next a) (next' a)) :
    AgreesAt s (act >>= next) (act' >>= next') := by
  rw [AgreesAt, bind_run, bind_run]
  refine first.andThen fun result t same => ?_
  cases result with
  | error e => exact .ok same _
  | ok a => exact same ▸ rest a t same

theorem tryCatch {act act' : RenderM χ α} {handle handle' : Error → RenderM χ α}
    (first : AgreesAt s act act')
    (rest : ∀ e t, t.scopes = s.scopes → AgreesAt t (handle e) (handle' e)) :
    AgreesAt s (MonadExcept.tryCatch act handle) (MonadExcept.tryCatch act' handle') := by
  rw [AgreesAt, tryCatch_run, tryCatch_run]
  refine first.andThen fun result t same => ?_
  cases result with
  | error e => exact same ▸ rest e t same
  | ok a => exact .ok same _

/-- Changes for a while that lead back to the scopes. -/
theorem within {enter leave enter' leave' : RenderState χ → RenderState χ} {act act' : RenderM χ α}
    (inside : AgreesAt (enter s) act act') (entered : enter' s = enter s)
    (back : ∀ t, t.scopes = (enter s).scopes → leave' t = leave t ∧ (leave t).scopes = s.scopes) :
    AgreesAt s (Render.within enter leave act) (Render.within enter' leave' act') := by
  rw [AgreesAt, within_run, within_run, entered]
  refine inside.andThen fun result t same => ?_
  rw [(back t same).1]
  exact .ok (back t same).2 result

theorem withScope {scope : NameMap Value} {act act' : RenderM χ α}
    (inside : AgreesAt { s with scopes := scope :: s.scopes } act act') :
    AgreesAt s (Render.withScope scope act) (Render.withScope scope act') :=
  inside.within rfl fun _ same => ⟨rfl, congrArg (List.drop 1) same⟩

/-- A run starts in the scopes of its loop, its own scope on top, and goes back to them. -/
theorem inScopes {scope : NameMap Value} {act act' : RenderM χ α}
    (inside : AgreesAt { s with scopes := scope :: s.scopes } act act') :
    AgreesAt s (Render.withScope scope act)
      (Render.inScopes (scope :: s.scopes) s.scopes act') := by
  refine inside.within rfl fun t same => ?_
  have back : t.scopes.drop 1 = s.scopes := congrArg (List.drop 1) same
  exact ⟨congrArg (fun scopes => { t with scopes }) back.symm, back⟩

theorem captured {act act' : RenderM χ Unit} (inside : AgreesAt { s with out := "" } act act') :
    AgreesAt s (Render.captured act) (Render.captured act') := by
  rw [AgreesAt, captured_run, captured_run]
  exact inside.andThen fun result t same => Leaves.ok (t := { t with out := s.out }) same _

end AgreesAt

/-- Among the loops the computations agree. -/
def Agrees (around : Loops) (act act' : RenderM χ α) : Prop :=
  ∀ s, around.Holds s.scopes → AgreesAt s act act'

namespace Agrees

variable {around : Loops}

theorem const {act : RenderM χ α} (kept : Preserves SameScopes act) : Agrees around act act :=
  fun _ _ => .const kept

theorem bind {act act' : RenderM χ α} {next next' : α → RenderM χ β}
    (first : Agrees around act act') (rest : ∀ a, Agrees around (next a) (next' a)) :
    Agrees around (act >>= next) (act' >>= next') :=
  fun s hs => (first s hs).bind fun a t same => rest a t (same ▸ hs)

theorem tryCatch {act act' : RenderM χ α} {handle handle' : Error → RenderM χ α}
    (first : Agrees around act act') (rest : ∀ e, Agrees around (handle e) (handle' e)) :
    Agrees around (MonadExcept.tryCatch act handle) (MonadExcept.tryCatch act' handle') :=
  fun s hs => (first s hs).tryCatch fun e t same => rest e t (same ▸ hs)

theorem withScope {inside : Loops} {scope : NameMap Value} {act act' : RenderM χ α}
    (h : Agrees inside act act')
    (entered : ∀ scopes, around.Holds scopes → inside.Holds (scope :: scopes)) :
    Agrees around (Render.withScope scope act) (Render.withScope scope act') :=
  fun s hs => .withScope (h _ (entered s.scopes hs))

theorem withChain {chain : χ} {act act' : RenderM χ α} (h : Agrees around act act') :
    Agrees around (Render.withChain chain act) (Render.withChain chain act') :=
  fun s hs => (h { s with chains := chain :: s.chains } hs).within rfl fun _ same => ⟨rfl, same⟩

theorem withInclude {act act' : RenderM χ α} (h : Agrees around act act') :
    Agrees around (Render.withInclude act) (Render.withInclude act') :=
  fun s hs =>
    (h { s with includeDepth := s.includeDepth + 1 } hs).within rfl fun _ same => ⟨rfl, same⟩

/-- The watch stops nothing. -/
theorem watched {act act' : RenderM χ α} (h : Agrees around act act') (reason : Stop) :
    Agrees around act (Render.watched reason around act') := by
  intro s hs
  rw [AgreesAt, Render.watched, if_pos hs]
  exact h s hs

theorem captured {act act' : RenderM χ Unit} (h : Agrees around act act') :
    Agrees around (Render.captured act) (Render.captured act') :=
  fun s hs => .captured (h { s with out := "" } hs)

/-- A scope that may be pushed without changing what `loop` is. -/
abbrev Free (scope : NameMap Value) : Prop := scope.find? "loop" = none

/-- The right side among the loops, the left side anywhere. -/
abbrev Sides (around : Loops) : (α : Type) → Family (fun _ : Side => χ) α → Prop :=
  fun _ act => Agrees around (act .left) (act .right)

theorem of_uniform (c : RenderContext χ) {act : Family (fun _ : Side => χ) α}
    (h : UniformIn Free (Sides around) act) : Agrees around (act .left) (act .right) := by
  have hR := SameScopes.invariant c
  induction h with
  | given h => exact h
  | pure a => exact .const (.pure hR a)
  | bind _ _ first rest => exact bind first rest
  | failWith cause => exact .const (.fail hR _)
  | tryCatch _ _ first rest => exact tryCatch first rest
  | scopes => exact .const (.scopes hR)
  | write text => exact .const (.write hR text)
  | newIdentity => exact .const (.newIdentity hR)
  | withScope free _ inside => exact withScope inside fun _ h => h.push free
  | captured _ inside => exact captured inside

/-! ## Nodes among loops -/

section

variable (c : RenderContext χ) {inner inner' : Renderer χ}
  (h : ∀ nodes, Agrees around (inner nodes) (inner' nodes))

include h

theorem renderNext : Agrees around (Render.renderNext c inner) (Render.renderNext c inner') := by
  refine bind (const (.nextInChain (SameScopes.invariant c))) fun next => ?_
  cases next with
  | none => exact const (.pure (SameScopes.invariant c) _)
  | some block => exact (h _).withScope fun _ holds => holds.push rfl

theorem renderBlock (block : Block) :
    Agrees around (Render.renderBlock c inner block) (Render.renderBlock c inner' block) := by
  unfold Render.renderBlock
  cases c.blocks.enter block with
  | none => exact const (.pure (SameScopes.invariant c) _)
  | some chain => exact (renderNext c h).withChain

theorem includeTemplate (names : List String) :
    Agrees around (Render.includeTemplate c inner names)
      (Render.includeTemplate c inner' names) := by
  have loaded : Agrees around (Render.loadTemplate c names >>= fun p => inner p.root)
      (Render.loadTemplate c names >>= fun p => inner' p.root) :=
    bind (const (.loadTemplate (SameScopes.invariant c) names)) fun p => h p.root
  intro s hs
  rw [AgreesAt, includeTemplate_run, includeTemplate_run]
  cases c.mayInclude s.includeDepth with
  | error cause => exact const (.fail (SameScopes.invariant c) _) s hs
  | ok _ => exact loaded.withInclude s hs

theorem steps :
    NodeStepsIn Free (Sides around) (fun _ => c) (Side.pick inner inner') (.same Side) where
  clock := ⟨_, fun _ => rfl⟩
  functions := ⟨_, fun _ => rfl⟩
  super := .captured (.given (renderNext c h))
  bodies := by
    rintro _ ⟨body, rfl⟩
    exact .given (h body)
  cycleAt := by
    rintro _ ⟨id, rfl⟩
    exact .given (const (.cycleAt (SameScopes.invariant c) id))
  putCycle := by
    rintro _ state ⟨id, rfl⟩
    exact .given (const (.putCycle (SameScopes.invariant c) id state))
  blocks := by
    rintro _ ⟨block, rfl⟩
    exact .given (renderBlock c h block)
  includes _ names := .given (includeTemplate c h names)
  others _ h := h.elim

theorem eval (e : Expr) : Agrees around (Render.eval c inner e) (Render.eval c inner' e) :=
  of_uniform c ((steps c h).eval e)

end

section

variable (c : RenderContext χ) {plain : Renderer χ} {among : Loops → Renderer χ}
  (h : ∀ around nodes, Agrees around (plain nodes) (among around nodes))

include c h

/-- All runs start in the same scopes, those in which the loop started. -/
theorem renderItems (names : List String) (tag : String) (body : List Node) (length : Nat)
    (items : List Value) (index : Nat) {s : RenderState χ} (hs : around.Holds s.scopes) :
    AgreesAt s (Render.renderItems plain names tag body length index items)
      (forM (items.zipIdx index) (renderRun among around names tag body length s.scopes)) := by
  have hR := SameScopes.invariant c
  induction items generalizing index s with
  | nil => exact .const (.pure hR _)
  | cons item items ih =>
      have parent : (s.scopes.get "loop").getD .none = around.value := hs
      rw [AgreesAt, Render.renderItems, bind_run, scopes_run, List.zipIdx_cons, List.forM_cons]
      simp only [Render.andThen, renderRun, parent]
      cases loopBindings names tag item with
      | error cause =>
          simp only [failWith_bind]
          exact AgreesAt.const (.fail hR _)
      | ok bindings =>
          refine AgreesAt.bind (.inScopes (h (around.enter ⟨index, length⟩) body _ ?_))
            fun _ t same => ?_
          · exact Loops.holds_of_bound (NameMap.find?_insert_self ..) _
          · -- The run has put the scopes back, so the next one starts where this one did.
            rw [← same]
            exact ih (index + 1) (same ▸ hs)

theorem renderLoop (names : List String) (items : Expr) (tag : String)
    (body fallback : List Node) :
    Agrees around (Render.renderLoop c plain names items tag body fallback)
      (renderLoopAmong c among around names items tag body fallback) := by
  refine fun s hs => (eval c (h around) items s hs).bind fun value t same => ?_
  have ht : around.Holds t.scopes := same ▸ hs
  rw [AgreesAt, bind_run, scopes_run]
  simp only [Render.andThen]
  cases loopItems value with
  | nil => exact h around fallback t ht
  | cons item rest => exact renderItems c h names tag body _ _ 0 ht

/-- Every node does the same among the loops. -/
theorem renderNode (node : Node) :
    Agrees around (Render.renderNode c plain node) (renderNodeAmong c among around node) := by
  have at_place := steps c (h around)
  cases node with
  | loop names items tag body fallback => exact renderLoop c h names items tag body fallback
  | bind name value body =>
      refine bind (eval c (h around) value) fun value => (h _ body).withScope fun scopes hs => ?_
      split
      · next same => exact Loops.holds_of_bound (by simp [NameMap.find?, same, Loops.value]) _
      · next other => exact hs.push (by simp [NameMap.find?, other])
  | text text => exact const (.write (SameScopes.invariant c) text)
  | emptyMark | elifMark _ | elseMark => exact const (.pure (SameScopes.invariant c) _)
  | print escape body => exact of_uniform c (at_place.renderPrint escape body)
  | branch test yes no =>
      refine bind (of_uniform c (at_place.evalTest test)) fun holds => ?_
      cases holds with
      | true => exact h around yes
      | false => exact h around no
  | cycle id items => exact of_uniform c (at_place.renderCycle ⟨id, rfl⟩ items)
  | splice body => exact h around body
  | includeBy name => exact of_uniform c (at_place.renderInclude trivial name)
  | block id title body => exact renderBlock c (h around) _
  | spaceless body | trim body =>
      exact bind (h around body).captured fun _ => const (.write (SameScopes.invariant c) _)

theorem renderAll (reason : Stop) (nodes : List Node) :
    Agrees around (Render.renderAll (Render.renderNode c plain) nodes)
      (Render.renderAll
        (fun node => Render.watched reason around (renderNodeAmong c among around node))
        nodes) := by
  induction nodes with
  | nil => exact const (.pure (SameScopes.invariant c) _)
  | cons node rest ih => exact bind ((renderNode c h node).watched reason) fun _ => ih

end

end Agrees

/-- Every render is a render among loops, and the watch stops none. -/
theorem agrees_render (c : RenderContext χ) (reason : Stop) (depth : Nat) (around : Loops)
    (nodes : List Node) :
    Agrees around (render c depth nodes) (renderAmong c reason depth around nodes) := by
  induction depth generalizing around nodes with
  | zero => exact fun s _ => ⟨rfl, nofun⟩
  | succ depth ih => exact Agrees.renderAll c ih reason nodes

/-- A loop runs over its items, from the scopes in which it stands; without items it renders its
fallback. -/
theorem renderLoop_run (c : RenderContext χ) (reason : Stop) (depth : Nat) (names : List String)
    {items : Expr} (tag : String) (body fallback : List Node) {s t : RenderState χ} {v : Value}
    (evaluated : eval c (render c depth) items s = .ok (.ok v, t)) :
    renderLoop c (render c depth) names items tag body fallback s =
      match loopItems v with
      | [] => render c depth fallback t
      | items => forM items.zipIdx (renderRun (renderAmong c reason depth) (.start s.scopes)
          names tag body items.length s.scopes) t := by
  have agrees := agrees_render c reason depth
  have hs : (Loops.start s.scopes).Holds s.scopes := Loops.holds_start s.scopes
  have same : t.scopes = s.scopes :=
    (Agrees.eval c (agrees (.start s.scopes)) items s hs).kept _ _ evaluated
  rw [renderLoop, bind_run, evaluated]
  simp only [andThen]
  cases loopItems v with
  | nil => rfl
  | cons item rest =>
      rw [← same] at hs ⊢
      exact (Agrees.renderItems c agrees names tag body _ _ 0 hs).same

/-! ## Records and scopes of runs -/

theorem follow_loopRecord {index length : Nat} {parent : Value} {field : String} {v : Value}
    (h : NameMap.last? [("index", .ofNat index), ("count", .ofNat (index + 1)),
      ("length", .ofNat length), ("is_first", .bool (index == 0)),
      ("is_last", .bool (index + 1 == length)), ("parent", parent)] field = some v)
    (path : List String) :
    (loopRecord index length parent).follow (field :: path) = v.follow path := by
  have found : (loopRecord index length parent).lookup field = some v :=
    (NameMap.find?_ofEntries _ field).trans h
  rw [Value.follow, found]

/-- Each `parent` leads one loop outwards. -/
theorem Loops.follow_parents (inner outer : List Run) (outside : Value) :
    (Loops.mk (inner ++ outer) outside).value.follow (List.replicate inner.length "parent") =
      (Loops.mk outer outside).value := by
  induction inner with
  | nil => rfl
  | cons run inner ih =>
      have parent : (Loops.mk (run :: inner ++ outer) outside).value =
        loopRecord run.index run.length (Loops.mk (inner ++ outer) outside).value := rfl
      rw [parent, List.length_cons, List.replicate_succ, follow_loopRecord (by rfl)]
      exact ih

/-- Scopes that do not bind `loop` hide nothing of the loops. -/
theorem get_loop {pushed : Scopes} (free : ∀ scope ∈ pushed, scope.find? "loop" = none)
    (bindings : NameMap Value) (inside : Loops) (outer : Scopes) :
    Scopes.get (pushed ++ runScope bindings inside :: outer) "loop" = some inside.value := by
  unfold Scopes.get
  rw [List.findSome?_append, List.findSome?_eq_none_iff.mpr free, List.findSome?_cons, runScope,
    NameMap.find?_insert_self, Option.none_or]

theorem resolve_parents {pushed : Scopes} (free : ∀ scope ∈ pushed, scope.find? "loop" = none)
    (bindings : NameMap Value) (inner outer : List Run) (outside : Value) (scopes : Scopes) :
    Scopes.resolveSegments (pushed ++ runScope bindings ⟨inner ++ outer, outside⟩ :: scopes)
      ("loop" :: List.replicate inner.length "parent") = (Loops.mk outer outside).value := by
  rw [Scopes.resolveSegments.eq_def]
  simp only [get_loop free]
  exact Loops.follow_parents inner outer outside

theorem find?_runScope (bindings : NameMap Value) (inside : Loops) (name : String) :
    (runScope bindings inside).find? name =
      if name = "loop" then some inside.value else bindings.find? name := by
  rw [runScope, NameMap.find?_insert]
  simp only [eq_comm]

theorem loopBindings_several {names : List String} (several : names.length ≠ 1) (tag : String)
    (item : Value) :
    loopBindings names tag item =
      match item.iterate with
      | some parts => .ok (NameMap.ofEntries (names.zip parts))
      | none => .error (.cannotUnpack item.literalText tag) := by
  unfold loopBindings
  split
  · exact (several rfl).elim
  · rfl

theorem loopItems_eq (v : Value) :
    loopItems v = match v with
      | .list items => items
      | .map entries => (NameMap.names entries).map .string
      | .string s => s.toList.map fun c => .string (String.singleton c)
      | _ => [] := by
  cases v with
  | list items => cases items <;> rfl
  | map entries => cases entries <;> simp [loopItems, Value.isTruthy, Value.iterate, NameMap.names]
  | string s =>
      by_cases empty : s = ""
      · subst empty
        rfl
      · simp [loopItems, Value.isTruthy, Value.iterate, empty]
  | undefined | none => rfl
  | _ => simp [loopItems, Value.iterate]

theorem forM_append_run (inner : Loops → Renderer χ) (around : Loops) {names : List String}
    (several : names.length ≠ 1) (tag : String) (body : List Node) (length : Nat) (outer : Scopes)
    (before behind : List Value) {item : Value} (closed : item.iterate = none) :
    let run := renderRun inner around names tag body length outer
    forM (before ++ item :: behind).zipIdx run =
      forM before.zipIdx run >>= fun _ => failWith (.cannotUnpack item.literalText tag) := by
  intro run
  have fails : ∀ index, run (item, index) = failWith (.cannotUnpack item.literalText tag) := by
    intro index
    simp only [run, renderRun]
    rw [loopBindings_several several, closed]
  rw [List.zipIdx_append, List.forM_append, List.zipIdx_cons, List.forM_cons, fails, failWith_bind]

/-! ## Loops -/

/-- Every render is one among loops, so its loops run over their items in order, once each, every
run starts in the scopes of its loop with a scope of its own on top, and the watch stops nothing.
Afterwards the scopes are what they were. The scope of a run binds the loop variables and `loop` and
nothing else, and `parent` leads from the record of a loop to the record of the loop outside, as
often as there are loops. Only lists, maps and strings have items, a map its names in the order of
their bytes. If several variables are bound, the first item without items of its own is an error
behind the runs before it. -/
theorem loops_nest (c : RenderContext χ) :
    (∀ reason depth nodes s,
      render c depth nodes s = renderAmong c reason depth (.start s.scopes) nodes s) ∧
    (∀ reason depth names items tag body fallback s v t,
      eval c (render c depth) items s = .ok (.ok v, t) →
      renderNode c (render c depth) (.loop names items tag body fallback) s =
        match loopItems v with
        | [] => render c depth fallback t
        | items => forM items.zipIdx (renderRun (renderAmong c reason depth) (.start s.scopes)
            names tag body items.length s.scopes) t) ∧
    (∀ depth nodes s result t, render c depth nodes s = .ok (result, t) → t.scopes = s.scopes) ∧
    (∀ name tag item inside, ∃ bindings, loopBindings [name] tag item = .ok bindings ∧
      ∀ other, (runScope bindings inside).find? other =
        if other = "loop" then some inside.value else if other = name then some item else none) ∧
    (∀ names tag item parts inside, names.length ≠ 1 → item.iterate = some parts →
      ∃ bindings, loopBindings names tag item = .ok bindings ∧
        ∀ other, (runScope bindings inside).find? other =
          if other = "loop" then some inside.value else NameMap.last? (names.zip parts) other) ∧
    (∀ index length parent field v, (field, v) ∈ [("index", Value.ofNat index),
        ("count", .ofNat (index + 1)), ("length", .ofNat length), ("is_first", .bool (index == 0)),
        ("is_last", .bool (index + 1 == length)), ("parent", parent)] →
      (loopRecord index length parent).follow [field] = v) ∧
    (∀ (pushed scopes : Scopes) bindings inner outer outside,
      (∀ scope ∈ pushed, scope.find? "loop" = none) →
      Scopes.resolveSegments (pushed ++ runScope bindings ⟨inner ++ outer, outside⟩ :: scopes)
        ("loop" :: List.replicate inner.length "parent") = (Loops.mk outer outside).value) ∧
    (∀ v, loopItems v = match v with
      | .list items => items
      | .map entries => (NameMap.names entries).map .string
      | .string s => s.toList.map fun c => .string (String.singleton c)
      | _ => []) ∧
    (∀ entries : List (String × Value), (NameMap.names (NameMap.ofEntries entries)).Pairwise
      fun name next => Text.encoded name < Text.encoded next) ∧
    ∀ reason depth around names tag body length outer before item behind, names.length ≠ 1 →
      item.iterate = none →
      let run := renderRun (renderAmong c reason depth) around names tag body length outer
      let cause := Cause.cannotUnpack item.literalText tag
      forM (before ++ item :: behind).zipIdx run =
          (forM before.zipIdx run >>= fun _ => failWith cause) ∧
        cause.kind = .unpacking := by
  refine ⟨?among, ?loop, ?kept, ?one, ?several, ?fields, ?parents, loopItems_eq, ?order, ?unpacking⟩
  case among =>
    intro reason depth nodes s
    exact (agrees_render c reason depth _ nodes s (Loops.holds_start s.scopes)).same
  case loop =>
    intro reason depth names items tag body fallback s v t evaluated
    exact renderLoop_run c reason depth names tag body fallback evaluated
  case kept =>
    exact fun depth nodes => Preserves.render (SameScopes.invariant c) depth nodes
  case one =>
    intro name tag item inside
    refine ⟨[(name, item)], rfl, fun other => ?_⟩
    rw [find?_runScope, NameMap.find?, NameMap.find?_nil]
    simp only [eq_comm]
  case several =>
    intro names tag item parts inside several parted
    refine ⟨NameMap.ofEntries (names.zip parts), ?_, fun other => ?_⟩
    · rw [loopBindings_several several, parted]
    · rw [find?_runScope, NameMap.find?_ofEntries]
  case fields =>
    intro index length parent field v listed
    refine (follow_loopRecord ?_ []).trans rfl
    fin_cases listed <;> rfl
  case parents =>
    intro pushed scopes bindings inner outer outside free
    exact resolve_parents free bindings inner outer outside scopes
  case order =>
    intro entries
    exact List.pairwise_map.mpr ((NameMap.sorted_ofEntries entries).imp Text.encoded_lt)
  case unpacking =>
    intro reason depth around names tag body length outer before item behind several closed
    exact ⟨forM_append_run _ around several tag body length outer before behind closed, rfl⟩

/-- Two pairs, of which the first is too short and the second is none, and a block in the inner of
two loops. -/
theorem loops_nest_pairs :
    let c := (Program.mk 0 none "" [] []).context (.ofDelimiters .standard)
      ⟨.empty, ⟨1970, 1, 1, 0, 0, 0, 0, 0⟩, []⟩
    let s := Program.startState (.ofDelimiters .standard) .initial []
    let pairs := [Value.list [.integer 1], .integer 2]
    let run := renderRun (renderAmong c .aborted 1) (.start s.scopes) ["a", "b"] "for a, b in x"
      [.text "t"] 2 s.scopes
    renderNode c (render c 1)
        (.loop ["a", "b"] (.literal (.list pairs)) "for a, b in x" [.text "t"] []) s =
      forM pairs.zipIdx run s ∧
    (∃ bindings, loopBindings ["a", "b"] "for a, b in x" (.list [.integer 1]) = .ok bindings ∧
      (runScope bindings (.start [])).find? "b" = none) ∧
    forM pairs.zipIdx run =
      (forM [Value.list [.integer 1]].zipIdx run >>= fun _ =>
        failWith (.cannotUnpack (Value.literalText (.integer 2)) "for a, b in x")) ∧
    Scopes.resolveSegments [blockScope, runScope [] ⟨[⟨1, 2⟩, ⟨0, 3⟩], .none⟩]
      ["loop", "parent"] = loopRecord 0 3 .none := by
  intro c s pairs run
  have ⟨_, loop, _, _, several, _, parents, _, _, unpacking⟩ := loops_nest c
  obtain ⟨bindings, bound, found⟩ := several ["a", "b"] "for a, b in x" (.list [.integer 1])
    [.integer 1] (.start []) (by decide) rfl
  exact ⟨loop .aborted 1 ["a", "b"] (.literal (.list pairs)) "for a, b in x" [.text "t"] [] s
      (.list pairs) s rfl,
    ⟨bindings, bound, found "b"⟩,
    (unpacking .aborted 1 (.start s.scopes) ["a", "b"] "for a, b in x" [.text "t"] 2 s.scopes
      [.list [.integer 1]] (.integer 2) [] (by decide) rfl).1,
    parents [blockScope] [] [] [⟨1, 2⟩] [⟨0, 3⟩] .none (by decide)⟩

end Render

end TextTemplate
