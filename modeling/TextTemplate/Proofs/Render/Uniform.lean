import TextTemplate.Proofs.Render.Steps

/-!
# Computations of the same form

Most laws of the renderer hold because they hold of its few basic steps: putting computations
together by the rules of the language keeps them. A `Family` is one computation for every index, and
`Uniform` says that all of them are put together in the same way, out of given computations. The
functions of the renderer are uniform in the renderer of the nodes further inside, so a law that is
proved for the given computations and for each rule holds of all of them.

With one index this is a law about one render, with two it compares two renders, and with the
numbers as indices it is about renders at growing depth.

A law about the scopes does not survive every push. `UniformIn` says which scopes the rules may
push; evaluation pushes none but through `super`.
-/

namespace TextTemplate

namespace Render

variable {ι : Type} {χ : ι → Type}

/-- One computation for every index. -/
abbrev Family (χ : ι → Type) (α : Type) := (i : ι) → RenderM (χ i) α

/-- The computations of a family are put together in the same way from given families; the rules
push only scopes that are allowed. -/
inductive UniformIn (Allowed : NameMap Value → Prop) (Given : (α : Type) → Family χ α → Prop) :
    {α : Type} → Family χ α → Prop
  | given {α : Type} {act : Family χ α} (h : Given α act) : UniformIn Allowed Given act
  | pure {α : Type} (a : α) : UniformIn Allowed Given fun _ => pure a
  | bind {α β : Type} {act : Family χ α} {next : (i : ι) → α → RenderM (χ i) β}
      (first : UniformIn Allowed Given act)
      (rest : ∀ a, UniformIn Allowed Given fun i => next i a) :
      UniformIn Allowed Given fun i => act i >>= next i
  | failWith {α : Type} (cause : Cause) : UniformIn Allowed Given (α := α) fun _ => failWith cause
  | tryCatch {α : Type} {act : Family χ α} {handle : (i : ι) → Error → RenderM (χ i) α}
      (first : UniformIn Allowed Given act)
      (rest : ∀ e, UniformIn Allowed Given fun i => handle i e) :
      UniformIn Allowed Given fun i => tryCatch (act i) (handle i)
  | scopes : UniformIn Allowed Given fun _ => scopes
  | write (text : String) : UniformIn Allowed Given fun _ => write text
  | newIdentity : UniformIn Allowed Given fun _ => newIdentity
  | withScope {α : Type} {act : Family χ α} {scope : NameMap Value} (allowed : Allowed scope)
      (inside : UniformIn Allowed Given act) :
      UniformIn Allowed Given fun i => withScope scope (act i)
  | captured {act : Family χ Unit} (inside : UniformIn Allowed Given act) :
      UniformIn Allowed Given fun i => captured (act i)

/-- The computations of a family are put together in the same way from given families. -/
abbrev Uniform (Given : (α : Type) → Family χ α → Prop) {α : Type} (act : Family χ α) : Prop :=
  UniformIn (fun _ => True) Given act

namespace UniformIn

variable {Allowed : NameMap Value → Prop} {Given : (α : Type) → Family χ α → Prop}

theorem writeChars (text : List Char) : UniformIn Allowed Given fun _ => writeChars text := .write _

/-- A family stays uniform when it is indexed in another way. -/
theorem reindex {κ : Type} (f : κ → ι) {Given' : (α : Type) → Family (fun k => χ (f k)) α → Prop}
    {α : Type} {act : Family χ α} (h : UniformIn Allowed Given act)
    (hgiven : ∀ α (act : Family χ α), Given α act → Given' α fun k => act (f k)) :
    UniformIn Allowed Given' fun k => act (f k) := by
  induction h with
  | given h => exact .given (hgiven _ _ h)
  | pure a => exact .pure a
  | bind _ _ first rest => exact .bind first rest
  | failWith cause => exact .failWith cause
  | tryCatch _ _ first rest => exact .tryCatch first rest
  | scopes => exact .scopes
  | write text => exact .write text
  | newIdentity => exact .newIdentity
  | withScope allowed _ inside => exact .withScope allowed inside
  | captured _ inside => exact .captured inside

theorem mono {Given' : (α : Type) → Family χ α → Prop} {α : Type} {act : Family χ α}
    (h : UniformIn Allowed Given act)
    (hgiven : ∀ α (act : Family χ α), Given α act → Given' α act) :
    UniformIn Allowed Given' act :=
  h.reindex id hgiven

theorem returned (result : Except Failure Returned) :
    UniformIn Allowed Given fun _ => returned result := by
  unfold Render.returned
  cases result with
  | error failure => exact .pure _
  | ok r =>
      cases r with
      | value v => exact .pure _
      | newCallable f => exact .bind .newIdentity fun _ => .pure _
      | newObject d g t a => exact .bind .newIdentity fun _ => .pure _

end UniformIn

/-! ## Evaluation

Evaluating does not look at nodes. It depends on the renderer of the nodes further inside only
through `super`, which renders the next definition of the innermost block. -/

/-- What evaluation needs: the same functions everywhere, and a uniform `super`. -/
structure Surroundings (Allowed : NameMap Value → Prop) (Given : (α : Type) → Family χ α → Prop)
    (c : (i : ι) → RenderContext (χ i)) (inner : (i : ι) → Renderer (χ i)) : Prop where
  clock : ∃ clock, ∀ i, (c i).world.clock = clock
  functions : ∃ functions, ∀ i, (c i).world.functions = functions
  super : UniformIn Allowed Given fun i => renderSuper (c i) (inner i)

namespace Surroundings

variable {Allowed : NameMap Value → Prop} {Given : (α : Type) → Family χ α → Prop}
  {c : (i : ι) → RenderContext (χ i)} {inner : (i : ι) → Renderer (χ i)}
  (h : Surroundings Allowed Given c inner)

include h

theorem callFunction (f : Function) (arguments : List Value) :
    UniformIn Allowed Given fun i => callFunction (c i) (inner i) f arguments := by
  obtain ⟨clock, hclock⟩ := h.clock
  obtain ⟨functions, hfunctions⟩ := h.functions
  cases f with
  | super => exact .tryCatch (.bind h.super fun _ => .pure _) fun _ => .pure _
  | defined => exact .bind .scopes fun _ => .returned _
  | range => exact .bind .scopes fun _ => .returned _
  | now =>
      simp only [Render.callFunction, hclock]
      exact .bind .scopes fun _ => .returned _
  | host name =>
      simp only [Render.callFunction, hfunctions]
      cases functions.find? name with
      | none => exact .pure _
      | some f => exact .bind .scopes fun _ => .returned _

theorem evalPath (r : Reference) : UniformIn Allowed Given fun i => evalPath (c i) (inner i) r := by
  refine .bind .scopes fun scopes => ?_
  cases scopes.resolve r.path with
  | callable identity f =>
      refine .bind (h.callFunction f _) fun result => ?_
      cases result with
      | ok value => exact .pure _
      | error failure => exact .failWith _
  | _ => exact .pure _

theorem eval (e : Expr) : UniformIn Allowed Given fun i => eval (c i) (inner i) e := by
  cases e with
  | literal value => exact .pure _
  | reference r =>
      refine .bind (h.evalPath r) fun value => ?_
      cases applyFilters r.raw r.filters value with
      | ok value => exact .pure _
      | error cause => exact .failWith _

theorem evalPlain (condition : Condition) :
    UniformIn Allowed Given fun i => evalPlain (c i) (inner i) condition := by
  refine .bind (h.eval _) fun left => ?_
  cases condition.right with
  | none => exact .pure _
  | some comparison =>
      refine .bind (h.eval _) fun right => ?_
      cases comparison.1.apply left right with
      | ok b => exact .pure _
      | error reason => exact .failWith _

theorem evalCondition (condition : Condition) :
    UniformIn Allowed Given fun i => evalCondition (c i) (inner i) condition :=
  .bind (.tryCatch (h.evalPlain _) fun _ => .pure _) fun _ => .pure _

theorem evalGroup (group : List Condition) :
    UniformIn Allowed Given fun i => evalGroup (c i) (inner i) group := by
  induction group with
  | nil => exact .pure _
  | cons condition rest ih =>
      refine .bind (h.evalCondition _) fun holds => ?_
      cases holds with
      | true => exact ih
      | false => exact .pure _

theorem evalTest (test : Test) :
    UniformIn Allowed Given fun i => evalTest (c i) (inner i) test := by
  unfold Render.evalTest
  induction test.groups with
  | nil => exact .pure _
  | cons group rest ih =>
      refine .bind (h.evalGroup _) fun holds => ?_
      cases holds with
      | true => exact .pure _
      | false => exact ih

theorem evalChain (last : Value) (options : List Expr) :
    UniformIn Allowed Given fun i => evalChain (c i) (inner i) last options := by
  induction options generalizing last with
  | nil => exact .pure _
  | cons e rest ih =>
      refine .bind (h.eval _) fun value => ?_
      cases value.isTruthy with
      | true => exact .pure _
      | false => exact ih value

theorem evalBody (body : PrintBody) :
    UniformIn Allowed Given fun i => evalBody (c i) (inner i) body := by
  cases body with
  | chain options => exact h.evalChain _ _
  | choice test yes no =>
      refine .bind (h.evalTest _) fun holds => ?_
      cases holds with
      | true => exact h.eval _
      | false => exact h.eval _

theorem renderPrint (escape : Bool) (body : PrintBody) :
    UniformIn Allowed Given fun i => renderPrint (c i) (inner i) escape body :=
  .bind (h.evalBody _) fun _ => .writeChars _

end Surroundings

/-! ## Nodes -/

/-- Which parts of the nodes of a family correspond to one another. -/
structure Parts (ι : Type) where
  bodies : (ι → List Node) → Prop
  cycles : (ι → Nat) → Prop
  blocks : (ι → Block) → Prop
  /-- Whether templates may be included while rendering. -/
  includes : Prop
  /-- Nodes that correspond although their forms differ. -/
  others : (ι → Node) → Prop

/-- The nodes of a family have one form, and their parts correspond. -/
inductive SameForm (P : Parts ι) : (ι → Node) → Prop
  | text (text : String) : SameForm P fun _ => .text text
  | print (escape : Bool) (body : PrintBody) : SameForm P fun _ => .print escape body
  | loop (names : List String) (items : Expr) (tag : String) {body fallback : ι → List Node}
      (hbody : P.bodies body) (hfallback : P.bodies fallback) :
      SameForm P fun i => .loop names items tag (body i) (fallback i)
  | emptyMark : SameForm P fun _ => .emptyMark
  | branch (test : Test) {yes no : ι → List Node} (hyes : P.bodies yes) (hno : P.bodies no) :
      SameForm P fun i => .branch test (yes i) (no i)
  | elifMark (test : Test) : SameForm P fun _ => .elifMark test
  | elseMark : SameForm P fun _ => .elseMark
  | cycle {id : ι → Nat} (items : Expr) (hid : P.cycles id) : SameForm P fun i => .cycle (id i) items
  | splice {body : ι → List Node} (hbody : P.bodies body) : SameForm P fun i => .splice (body i)
  | includeBy (name : Expr) (h : P.includes) : SameForm P fun _ => .includeBy name
  | block {block : ι → Block} (hblock : P.blocks block) :
      SameForm P fun i => .block (block i).id (block i).title (block i).body
  | spaceless {body : ι → List Node} (hbody : P.bodies body) :
      SameForm P fun i => .spaceless (body i)
  | trim {body : ι → List Node} (hbody : P.bodies body) : SameForm P fun i => .trim (body i)
  | bind (name : String) (value : Expr) {body : ι → List Node} (hbody : P.bodies body) :
      SameForm P fun i => .bind name value (body i)
  | other {node : ι → Node} (hnode : P.others node) : SameForm P node

/-- The lists of a family have one length, and their nodes have one form each. -/
inductive SameForms (P : Parts ι) : (ι → List Node) → Prop
  | nil : SameForms P fun _ => []
  | cons {node : ι → Node} {rest : ι → List Node} (hnode : SameForm P node)
      (hrest : SameForms P rest) : SameForms P fun i => node i :: rest i

/-- What rendering a node needs: uniform renderers for the parts that correspond. -/
structure NodeStepsIn (Allowed : NameMap Value → Prop) (Given : (α : Type) → Family χ α → Prop)
    (c : (i : ι) → RenderContext (χ i)) (inner : (i : ι) → Renderer (χ i)) (P : Parts ι) : Prop
    extends Surroundings Allowed Given c inner where
  bodies : ∀ body, P.bodies body → UniformIn Allowed Given fun i => inner i (body i)
  cycleAt : ∀ id, P.cycles id → UniformIn Allowed Given fun i => cycleAt (id i)
  putCycle : ∀ id state, P.cycles id → UniformIn Allowed Given fun i => putCycle (id i) state
  blocks : ∀ block, P.blocks block →
    UniformIn Allowed Given fun i => renderBlock (c i) (inner i) (block i)
  includes : P.includes → ∀ names,
    UniformIn Allowed Given fun i => includeTemplate (c i) (inner i) names
  others : ∀ node, P.others node →
    UniformIn Allowed Given fun i => renderNode (c i) (inner i) (node i)

/-- What rendering a node needs if it may push every scope. -/
abbrev NodeSteps (Given : (α : Type) → Family χ α → Prop) (c : (i : ι) → RenderContext (χ i))
    (inner : (i : ι) → Renderer (χ i)) (P : Parts ι) : Prop :=
  NodeStepsIn (fun _ => True) Given c inner P

namespace NodeStepsIn

section

variable {Allowed : NameMap Value → Prop} {Given : (α : Type) → Family χ α → Prop}
  {c : (i : ι) → RenderContext (χ i)} {inner : (i : ι) → Renderer (χ i)} {P : Parts ι}
  (h : NodeStepsIn Allowed Given c inner P)

include h

theorem cycleState {id : ι → Nat} (hid : P.cycles id) (items : Expr) :
    UniformIn Allowed Given fun i => cycleState (c i) (inner i) (id i) items := by
  refine .bind (h.cycleAt _ hid) fun found => ?_
  cases found with
  | some state => exact .pure _
  | none => exact .bind (h.eval _) fun _ => .bind (h.putCycle _ _ hid) fun _ => .pure _

theorem renderCycle {id : ι → Nat} (hid : P.cycles id) (items : Expr) :
    UniformIn Allowed Given fun i => renderCycle (c i) (inner i) (id i) items := by
  refine .bind (h.cycleState hid _) fun state => ?_
  cases state.items[state.position % state.items.length]? with
  | none => exact .pure _
  | some item => exact .bind (.writeChars _) fun _ => h.putCycle _ _ hid

theorem renderInclude (hincludes : P.includes) (name : Expr) :
    UniformIn Allowed Given fun i => renderInclude (c i) (inner i) name := by
  refine .bind (h.eval _) fun value => ?_
  cases candidateNames value with
  | nil => exact .failWith _
  | cons name names => exact h.includes hincludes _

end

section

variable {Given : (α : Type) → Family χ α → Prop} {c : (i : ι) → RenderContext (χ i)}
  {inner : (i : ι) → Renderer (χ i)} {P : Parts ι} (h : NodeSteps Given c inner P)

include h

theorem renderItems (names : List String) (tag : String) {body : ι → List Node}
    (hbody : P.bodies body) (length index : Nat) (items : List Value) :
    Uniform Given fun i => renderItems (inner i) names tag (body i) length index items := by
  induction items generalizing index with
  | nil => exact .pure _
  | cons item items ih =>
      refine .bind .scopes fun scopes => ?_
      cases loopBindings names tag item with
      | error cause => exact .failWith _
      | ok scope => exact .bind (.withScope trivial (h.bodies _ hbody)) fun _ => ih _

theorem renderLoop (names : List String) (items : Expr) (tag : String)
    {body fallback : ι → List Node} (hbody : P.bodies body) (hfallback : P.bodies fallback) :
    Uniform Given fun i => renderLoop (c i) (inner i) names items tag (body i) (fallback i) := by
  refine .bind (h.eval _) fun value => ?_
  cases loopItems value with
  | nil => exact h.bodies _ hfallback
  | cons item items => exact h.renderItems _ _ hbody _ _ _

/-- Rendering nodes of one form is uniform. -/
theorem renderNode {node : ι → Node} (hnode : SameForm P node) :
    Uniform Given fun i => renderNode (c i) (inner i) (node i) := by
  cases hnode with
  | text text => exact .write _
  | print escape body => exact h.renderPrint _ _
  | loop names items tag hbody hfallback => exact h.renderLoop _ _ _ hbody hfallback
  | emptyMark => exact .pure _
  | branch test hyes hno =>
      refine .bind (h.evalTest _) fun holds => ?_
      cases holds with
      | true => exact h.bodies _ hyes
      | false => exact h.bodies _ hno
  | elifMark test => exact .pure _
  | elseMark => exact .pure _
  | cycle items hid => exact h.renderCycle hid _
  | splice hbody => exact h.bodies _ hbody
  | includeBy name hincludes => exact h.renderInclude hincludes _
  | block hblock => exact h.blocks _ hblock
  | spaceless hbody => exact .bind (.captured (h.bodies _ hbody)) fun _ => .writeChars _
  | trim hbody => exact .bind (.captured (h.bodies _ hbody)) fun _ => .writeChars _
  | bind name value hbody => exact .bind (h.eval _) fun _ => .withScope trivial (h.bodies _ hbody)
  | other hnode => exact h.others _ hnode

theorem renderAll {nodes : ι → List Node} (hnodes : SameForms P nodes) :
    Uniform Given fun i => renderAll (Render.renderNode (c i) (inner i)) (nodes i) := by
  induction hnodes with
  | nil => exact .pure _
  | cons hnode _ ih => exact .bind (h.renderNode hnode) fun _ => ih

end

end NodeStepsIn

/-! ## The same nodes everywhere -/

/-- Every part corresponds to itself and to no other. -/
def Parts.same (ι : Type) : Parts ι where
  bodies body := ∃ b, body = fun _ => b
  cycles id := ∃ n, id = fun _ => n
  blocks block := ∃ b, block = fun _ => b
  includes := True
  others _ := False

/-- A node has one form if its parts correspond to themselves. -/
theorem SameForm.const {P : Parts ι} (hbodies : ∀ body, P.bodies fun _ => body)
    (hblocks : ∀ block, P.blocks fun _ => block) (hincludes : P.includes) {node : Node}
    (hcycles : ∀ id items, node = .cycle id items → P.cycles fun _ => id) :
    SameForm P fun _ => node := by
  cases node with
  | text text => exact .text _
  | print escape body => exact .print _ _
  | loop names items tag body fallback => exact .loop _ _ _ (hbodies body) (hbodies fallback)
  | emptyMark => exact .emptyMark
  | branch test yes no => exact .branch _ (hbodies yes) (hbodies no)
  | elifMark test => exact .elifMark _
  | elseMark => exact .elseMark
  | cycle id items => exact .cycle _ (hcycles id items rfl)
  | splice body => exact .splice (hbodies body)
  | includeBy name => exact .includeBy _ hincludes
  | block id title body => exact .block (hblocks ⟨id, title, body⟩)
  | spaceless body => exact .spaceless (hbodies body)
  | trim body => exact .trim (hbodies body)
  | bind name value body => exact .bind _ _ (hbodies body)

theorem SameForm.same (node : Node) : SameForm (Parts.same ι) fun _ => node :=
  .const (P := .same ι) (fun body => ⟨body, rfl⟩) (fun block => ⟨block, rfl⟩) trivial
    fun id _ _ => ⟨id, rfl⟩

theorem SameForms.same (nodes : List Node) : SameForms (Parts.same ι) fun _ => nodes := by
  induction nodes with
  | nil => exact .nil
  | cons node rest ih => exact .cons (.same node) ih

end Render

end TextTemplate
