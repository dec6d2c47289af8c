import TextTemplate.Engine.Basic
import TextTemplate.Filter.Markup
import TextTemplate.Render.Function

/-!
# Rendering

Rendering walks the nodes of a program with a state: the scopes, the positions of the cycles, the
blocks that wait to be rendered by `super`, and the text so far. What a node pushes it pops again,
also when it fails, because a condition that fails counts as false and the rendering goes on.

Templates can include each other and themselves while rendering, and blocks can render each other,
so the depth of the walk is not bounded by the nodes. Each function takes the renderer of the
nodes further inside as a parameter, and `render` supplies one that may go one level less deep.
Running out of depth is no error: it gives no result at all, and neither does breaking off.

How blocks override each other is a parameter as well: `Overriding` says what a block starts with
where it stands and which definition of it comes next. Programs render with `ofRegistry`.
-/

namespace TextTemplate

/-- What a render needs from outside. -/
structure World where
  files : FileSystem
  clock : Time.Moment
  functions : NameMap NativeFunction

/-- How blocks override each other. A `χ` is what is left of the definitions of a block that is
being rendered. -/
structure Overriding (χ : Type) where
  /-- What a block starts with where it stands; none if it renders nothing there. -/
  enter : Block → Option χ
  /-- The definition that comes next, and what is left then. -/
  next : χ → Option Block × χ

/-- What stays the same throughout a render. -/
structure RenderContext (χ : Type) where
  /-- Loads the first of the candidate names that exists. -/
  load : List String → MemoryM Program
  /-- Whether a template may be included at a place that so many others enclose. -/
  mayInclude : Nat → Except Cause Unit
  world : World
  blocks : Overriding χ

/-- The items of a cycle and how often it was rendered. -/
structure CycleState where
  items : List Value
  position : Nat

structure RenderState (χ : Type) where
  scopes : Scopes
  cycles : List (Nat × CycleState)
  /-- For each block being rendered what is left of its definitions; the innermost block comes
  first. -/
  chains : List χ
  /-- How many templates that were loaded while rendering enclose the place. -/
  includeDepth : Nat
  /-- The number of objects and callables made so far. -/
  made : Nat
  memory : Memory
  out : String

/-- Why a computation has no result at all. -/
inductive Stop where
  /-- It went deeper than it was allowed to. -/
  | tooDeep
  /-- A filter or a function broke off. -/
  | aborted
deriving DecidableEq, Repr

/-- A computation of the renderer. It has no result if it stops; else it changes the state and
succeeds or fails. -/
abbrev RenderM (χ α : Type) := ExceptT Error (StateT (RenderState χ) (Except Stop)) α

namespace Render

variable {χ α : Type}

/-- Renders a list of nodes. -/
abbrev Renderer (χ : Type) := List Node → RenderM χ Unit

/-- Has no result. -/
def stop (reason : Stop) : RenderM χ α := fun _ => .error reason

/-- Fails with an error, or breaks off if that is its cause. -/
def fail (error : Error) : RenderM χ α :=
  if error.cause = .aborted then stop .aborted else throw error

def failWith (cause : Cause) : RenderM χ α := fail ⟨cause, none, none⟩

/-! ## Changing the state for a while -/

/-- Runs `act` on the state changed by `enter` and changes it back by `leave`, also on failure. -/
def within (enter leave : RenderState χ → RenderState χ) (act : RenderM χ α) : RenderM χ α :=
  fun s => (act (enter s)).map fun (result, s) => (result, leave s)

/-- Runs with an additional scope. -/
def withScope (scope : NameMap Value) (act : RenderM χ α) : RenderM χ α :=
  within (fun s => { s with scopes := scope :: s.scopes })
    (fun s => { s with scopes := s.scopes.drop 1 }) act

/-- Runs with an additional chain of block definitions. -/
def withChain (chain : χ) (act : RenderM χ α) : RenderM χ α :=
  within (fun s => { s with chains := chain :: s.chains })
    (fun s => { s with chains := s.chains.drop 1 }) act

/-- Runs one include level deeper. -/
def withInclude (act : RenderM χ α) : RenderM χ α :=
  within (fun s => { s with includeDepth := s.includeDepth + 1 })
    (fun s => { s with includeDepth := s.includeDepth - 1 }) act

/-- The text that `act` writes; the text so far stays as it is. -/
def captured (act : RenderM χ Unit) : RenderM χ String := fun s =>
  (act { s with out := "" }).map fun (result, s') =>
    (result.map fun _ => s'.out, { s' with out := s.out })

/-! ## Single steps -/

def write (text : String) : RenderM χ Unit := modify fun s => { s with out := s.out ++ text }

def writeChars (text : List Char) : RenderM χ Unit := write (String.ofList text)

/-- The scopes at this moment. -/
def scopes : RenderM χ Scopes := return (← get).scopes

/-- Draws an identity for something new. -/
def newIdentity : RenderM χ Identity := do
  let s ← get
  set { s with made := s.made + 1 }
  return .made s.made

/-- Loads a template while rendering. -/
def loadTemplate (c : RenderContext χ) (names : List String) : RenderM χ Program := fun s =>
  let (result, memory) := c.load names s.memory
  match result with
  | .ok program => .ok (.ok program, { s with memory })
  | .error error => fail error { s with memory }

/-- Takes the next definition of the innermost block. -/
def nextInChain (c : RenderContext χ) : RenderM χ (Option Block) := do
  let s ← get
  match s.chains with
  | [] => return none
  | chain :: chains =>
    set { s with chains := (c.blocks.next chain).2 :: chains }
    return (c.blocks.next chain).1

/-! ## Blocks -/

/-- The scope of a block body. -/
def blockScope : NameMap Value := [("super", .callable (.shared "super") .super)]

/-- Renders the next definition of the innermost block. -/
def renderNext (c : RenderContext χ) (inner : Renderer χ) : RenderM χ Unit := do
  match ← nextInChain c with
  | none => return
  | some block => withScope blockScope (inner block.body)

/-- The text of the next definition of the innermost block. -/
def renderSuper (c : RenderContext χ) (inner : Renderer χ) : RenderM χ String :=
  captured (renderNext c inner)

def renderBlock (c : RenderContext χ) (inner : Renderer χ) (block : Block) : RenderM χ Unit :=
  match c.blocks.enter block with
  | some chain => withChain chain (renderNext c inner)
  | none => return

end Render

/-! ## Overriding by a registry -/

/-- The definitions that a block starts with where it stands: all of its title if it is the first
of them, none if another one is. A block of a template loaded while rendering stands for itself. -/
def chainOf (registry : NameMap (List Block)) (block : Block) : Option (List Block) :=
  match registry.find? block.title with
  | some chain =>
    if chain.head?.map (·.id) == some block.id then some chain
    else if chain.any (·.id == block.id) then none
    else some [block]
  | none => some [block]

/-- The definitions that are left, the most derived one last. -/
def Overriding.ofRegistry (registry : NameMap (List Block)) : Overriding (List Block) where
  enter := chainOf registry
  next chain := (chain.getLast?, chain.dropLast)

namespace Render

variable {χ : Type} (c : RenderContext χ) (inner : Renderer χ)

/-! ## Expressions -/

/-- Gives back the result of a function, made into a value. -/
def returned (result : Except Failure Returned) : RenderM χ (Except Failure Value) := do
  match result with
  | .error failure => return .error failure
  | .ok (.value v) => return .ok v
  | .ok new => return .ok (new.toValue (← newIdentity))

/-- Calls a function. A failure of `super` is described by the text of the error inside. -/
def callFunction (function : Function)
    (arguments : List Value) : RenderM χ (Except Failure Value) := do
  match function with
  | .super =>
    tryCatch (do return .ok (.string (← renderSuper c inner)))
      fun e => return .error (.reason e.display)
  | .defined => returned (NativeFunction.defined (← scopes) arguments)
  | .range => returned (NativeFunction.range (← scopes) arguments)
  | .now => returned (NativeFunction.now c.world.clock (← scopes) arguments)
  | .host name =>
    match c.world.functions.find? name with
    | some f => returned (f (← scopes) arguments)
    | none => return .error (.reason s!"unknown function {name}")

/-- The value of a path: a callable at its end is called. -/
def evalPath (r : Reference) : RenderM χ Value := do
  match (← scopes).resolve r.path with
  | .callable _ function =>
    match ← callFunction c inner function r.arguments with
    | .ok value => return value
    | .error failure => failWith (.ofFailure (.callFailed r.path) failure)
  | value => return value

def eval : Expr → RenderM χ Value
  | .literal value => return value
  | .reference r => do
    match applyFilters r.raw r.filters (← evalPath c inner r) with
    | .ok value => return value
    | .error cause => failWith cause

/-! ## Tests -/

/-- Whether a condition holds, without its negation. -/
def evalPlain (condition : Condition) : RenderM χ Bool := do
  let left ← eval c inner condition.left
  match condition.right with
  | none => return left.isTruthy
  | some (op, right) =>
    match op.apply left (← eval c inner right) with
    | .ok b => return b
    | .error reason => failWith (.inapplicable reason)

/-- Whether a condition holds. One that fails counts as false before it is negated. -/
def evalCondition (condition : Condition) : RenderM χ Bool := do
  let holds ← tryCatch (evalPlain c inner condition) fun _ => return false
  return holds != condition.negated

/-- Whether all conditions hold; those behind the first that does not are not evaluated. -/
def evalGroup : List Condition → RenderM χ Bool
  | [] => return true
  | condition :: rest => do
    if ← evalCondition c inner condition then evalGroup rest else return false

/-- Whether some group holds; those behind the first that does are not evaluated. -/
def evalGroups : List (List Condition) → RenderM χ Bool
  | [] => return false
  | group :: rest => do
    if ← evalGroup c inner group then return true else evalGroups rest

def evalTest (test : Test) : RenderM χ Bool := evalGroups c inner test.groups

/-! ## Print tags -/

/-- The first truthy value of a chain, or the last. -/
def evalChain (last : Value) : List Expr → RenderM χ Value
  | [] => return last
  | e :: rest => do
    let value ← eval c inner e
    if value.isTruthy then return value else evalChain value rest

def evalBody : PrintBody → RenderM χ Value
  | .chain options => evalChain c inner .undefined options
  | .choice test yes no => do
    if ← evalTest c inner test then eval c inner yes else eval c inner no

def renderPrint (escape : Bool) (body : PrintBody) : RenderM χ Unit := do
  let text := (← evalBody c inner body).displayChars
  writeChars (if escape then Markup.escape text else text)

/-! ## Loops -/

/-- The value of `loop` in one run of a loop. -/
def loopRecord (index length : Nat) (parent : Value) : Value :=
  .map (NameMap.ofEntries [
    ("index", .ofNat index),
    ("count", .ofNat (index + 1)),
    ("length", .ofNat length),
    ("is_first", .bool (index == 0)),
    ("is_last", .bool (index + 1 == length)),
    ("parent", parent)])

/-- The bindings of the loop variables: one takes the item, several take its own items in order. -/
def loopBindings (names : List String) (tag : String) (item : Value) :
    Except Cause (NameMap Value) :=
  match names with
  | [name] => .ok [(name, item)]
  | names =>
    match item.iterate with
    | some parts => .ok (NameMap.ofEntries (names.zip parts))
    | none => .error (.cannotUnpack item.literalText tag)

/-- Renders the body of a loop for the items from `index` on. -/
def renderItems (names : List String) (tag : String) (body : List Node) (length : Nat) :
    Nat → List Value → RenderM χ Unit
  | _, [] => return
  | index, item :: items => do
    let parent := ((← scopes).get "loop").getD .none
    match loopBindings names tag item with
    | .error cause => failWith cause
    | .ok scope =>
      withScope (scope.insert "loop" (loopRecord index length parent)) (inner body)
      renderItems names tag body length (index + 1) items

/-- The items that a loop runs over, none for a value that is empty or not iterable. -/
def loopItems (v : Value) : List Value := if v.isTruthy then v.iterate.getD [] else []

def renderLoop (names : List String) (items : Expr) (tag : String) (body fallback : List Node) :
    RenderM χ Unit := do
  match loopItems (← eval c inner items) with
  | [] => inner fallback
  | items => renderItems inner names tag body items.length 0 items

/-! ## Cycles -/

def findCycle (cycles : List (Nat × CycleState)) (id : Nat) : Option CycleState :=
  (cycles.find? (·.1 == id)).map (·.2)

def setCycle (cycles : List (Nat × CycleState)) (id : Nat) (state : CycleState) :
    List (Nat × CycleState) :=
  match cycles with
  | [] => [(id, state)]
  | entry :: rest => if entry.1 == id then (id, state) :: rest else entry :: setCycle rest id state

/-- The state of a cycle that was rendered before. -/
def cycleAt (id : Nat) : RenderM χ (Option CycleState) := return findCycle (← get).cycles id

def putCycle (id : Nat) (state : CycleState) : RenderM χ Unit :=
  modify fun s => { s with cycles := setCycle s.cycles id state }

/-- The state of a cycle; its items are evaluated when it is rendered for the first time. -/
def cycleState (id : Nat) (items : Expr) : RenderM χ CycleState := do
  match ← cycleAt id with
  | some state => return state
  | none =>
    let state : CycleState := ⟨((← eval c inner items).iterate).getD [], 0⟩
    putCycle id state
    return state

def renderCycle (id : Nat) (items : Expr) : RenderM χ Unit := do
  let state ← cycleState c inner id items
  match state.items[state.position % state.items.length]? with
  | none => return
  | some item =>
    writeChars item.displayChars
    putCycle id { state with position := state.position + 1 }

/-! ## Includes -/

/-- The candidate names in a value: a string, or the strings of a list. -/
def candidateNames : Value → List String
  | .string s => [s]
  | .list items => items.filterMap Value.string?
  | _ => []

/-- Renders the template with one of the names, unless too many others enclose the place. -/
def includeTemplate (names : List String) : RenderM χ Unit := do
  match c.mayInclude (← get).includeDepth with
  | .error cause => failWith cause
  | .ok () => withInclude do inner (← loadTemplate c names).root

def renderInclude (name : Expr) : RenderM χ Unit := do
  let value ← eval c inner name
  match candidateNames value with
  | [] => failWith (.notATemplateName value.kind)
  | names => includeTemplate c inner names

/-! ## Nodes -/

/-- Renders one node. -/
def renderNode : Node → RenderM χ Unit
  | .text text => write text
  | .print escape body => renderPrint c inner escape body
  | .loop names items tag body fallback => renderLoop c inner names items tag body fallback
  | .branch test yes no => do
    if ← evalTest c inner test then inner yes else inner no
  | .cycle id items => renderCycle c inner id items
  | .splice body => inner body
  | .includeBy name => renderInclude c inner name
  | .block id title body => renderBlock c inner ⟨id, title, body⟩
  | .spaceless body => do
    writeChars (Text.trim (Markup.spaceless (← captured (inner body)).toList))
  | .trim body => do writeChars (Text.trim (← captured (inner body)).toList)
  | .bind name value body => do
    let value ← eval c inner value
    withScope [(name, value)] (inner body)
  | .emptyMark | .elifMark _ | .elseMark => return

/-- Renders one node after the other. -/
def renderAll (step : Node → RenderM χ Unit) : Renderer χ
  | [] => return
  | node :: rest => do
    step node
    renderAll step rest

/-- Renders nodes at most `depth` levels deep. -/
def render : Nat → Renderer χ
  | 0, _ => stop .tooDeep
  | depth + 1, nodes => renderAll (renderNode c (render depth)) nodes

end Render

end TextTemplate
