import TextTemplate.Text.Segments
import TextTemplate.Value.Basic

/-!
# Scopes

Names are looked up in a stack of scopes, the innermost first. Below all others lie the scope of the
render data, the builtins of the engine and the builtins of the language. A path may also start with
the name `context`, which stands for all scopes together unless something is bound to it.
-/

namespace TextTemplate

abbrev Scopes := List (NameMap Value)

namespace Scopes

/-- The innermost value bound to a name. -/
def get (scopes : Scopes) (name : String) : Option Value := scopes.findSome? (·.find? name)

def contains (scopes : Scopes) (name : String) : Bool := (scopes.get name).isSome

/-- All bindings that can be seen. -/
def visible : Scopes → NameMap Value
  | [] => []
  | scope :: outer => (visible outer).union scope

/-- The value of a path that is split into segments. -/
def resolveSegments (scopes : Scopes) : List String → Value
  | [] => .undefined
  | first :: rest =>
    match scopes.get first with
    | some value => value.follow rest
    | none =>
      if first = "context" then
        match rest with
        | [] => .map scopes.visible
        | next :: rest => scopes.resolveSegments (next :: rest)
      else .undefined

/-- The value of a dotted path, `undefined` if some segment leads nowhere. -/
def resolve (scopes : Scopes) (path : String) : Value :=
  scopes.resolveSegments (Text.segmentsOf '.' path)

/-- Whether a path leads to a value. -/
def defined (scopes : Scopes) (path : String) : Bool := !(scopes.resolve path).isUndefined

/-- The scope below all others. -/
def language : NameMap Value := [("defined", .callable (.shared "defined") .defined)]

/-- The scopes at the start of a render. -/
def initial (builtins data : NameMap Value) : Scopes := [data, builtins, language]

end Scopes

end TextTemplate
