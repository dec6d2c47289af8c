import TextTemplate.Render.Basic
import TextTemplate.Value.Serial

/-!
# Rendering programs

A program renders on an engine with data, which must be a map; absent data is an empty map. An error
of the render gets the name of the program unless a template inside was named already.
-/

namespace TextTemplate

/-- The depth that renders are given. No document comes near it. -/
def maxRenderDepth : Nat := 100000

/-- What a render comes to. -/
inductive Outcome where
  | text (text : String)
  | failed (error : Error)
  /-- There is no result: the templates render each other without end, or a filter or a function
  broke off. -/
  | unfinished
deriving DecidableEq, Repr

/-- The scope that holds the render data. -/
def dataScope : Value → Except Error (NameMap Value)
  | .map entries => .ok entries
  | .none | .undefined => .ok []
  | v => .error ⟨.dataNotAMap v.kind, none, none⟩

namespace Program

/-- The state at the start of a render. -/
def startState {χ : Type} (e : Engine) (memory : Memory) (data : NameMap Value) :
    RenderState χ where
  scopes := Scopes.initial e.builtins data
  cycles := []
  chains := []
  includeDepth := 0
  made := 0
  memory
  out := ""

/-- What a program renders with. -/
def context (p : Program) (e : Engine) (world : World) : RenderContext (List Block) where
  load := e.load world.files
  mayInclude := e.mayInclude
  world
  blocks := .ofRegistry p.blocks

/-- Renders a program with a given context, at most `depth` levels deep. -/
def renderIn {χ : Type} (c : RenderContext χ) (p : Program) (e : Engine) (depth : Nat)
    (memory : Memory) (data : Value) : Outcome × Memory :=
  match dataScope data with
  | .error error => (.failed error, memory)
  | .ok data =>
    match Render.render c depth p.root (startState e memory data) with
    | .error _ => (.unfinished, memory)
    | .ok (.ok _, s) => (.text s.out, s.memory)
    | .ok (.error error, s) => (.failed (error.named p.name), s.memory)

/-- Renders a program at most `depth` levels deep. -/
def renderWithin (p : Program) (e : Engine) (world : World) (depth : Nat) (memory : Memory)
    (data : Value) : Outcome × Memory :=
  renderIn (p.context e world) p e depth memory data

/-- Renders a program. -/
def render (p : Program) (e : Engine) (world : World) (memory : Memory) (data : Value) :
    Outcome × Memory :=
  p.renderWithin e world maxRenderDepth memory data

/-- Renders a program with described data. -/
def renderSerial (p : Program) (e : Engine) (world : World) (memory : Memory) (data : Serial) :
    Outcome × Memory :=
  match data.toValue with
  | .error cause => (.failed ⟨cause, none, none⟩, memory)
  | .ok data => p.render e world memory data

/-- Renders a program into a buffer of limited size. -/
def renderInto (p : Program) (e : Engine) (world : World) (memory : Memory) (data : Value)
    (size : Nat) : Outcome × Memory :=
  match p.render e world memory data with
  | (.text text, memory) =>
    if text.utf8ByteSize ≤ size then (.text text, memory)
    else (.failed ⟨.ioFailure "failed to write whole buffer", none, none⟩, memory)
  | other => other

end Program

end TextTemplate
