import TextTemplate.Expression.Basic

/-!
# The nodes of a compiled template

A template is a list of nodes. A node that encloses others is opened by a tag and sealed when its
end tag is reached: `Opener` is what the opening tag says, and `Opener.close` puts the enclosed
nodes where they belong, splitting them at the separators `empty`, `elif` and `else`.
-/

namespace TextTemplate

inductive Node where
  | text (text : String)
  | print (escape : Bool) (body : PrintBody)
  /-- Renders `body` for every item, `fallback` if there is none. `tag` is the content of the tag.
  -/
  | loop (names : List String) (items : Expr) (tag : String) (body fallback : List Node)
  /-- Separates the body of a loop from its fallback. -/
  | emptyMark
  | branch (test : Test) (yes no : List Node)
  /-- Starts a further branch. -/
  | elifMark (test : Test)
  | elseMark
  | cycle (id : Nat) (items : Expr)
  /-- The nodes of a template that an include or extends tag names by a literal. -/
  | splice (body : List Node)
  /-- A template that is loaded while rendering. -/
  | includeBy (name : Expr)
  | block (id : Nat) (title : String) (body : List Node)
  | spaceless (body : List Node)
  | trim (body : List Node)
  | bind (name : String) (value : Expr) (body : List Node)
deriving Inhabited

/-- A tag that encloses nodes up to its end tag. -/
inductive Opener where
  | loop (names : List String) (items : Expr) (tag : String)
  | branch (test : Test)
  | block (id : Nat) (title : String)
  | spaceless
  | trim
  | bind (name : String) (value : Expr)

namespace Opener

/-- The tag that closes it. -/
def endTag : Opener → String
  | .loop .. => "endfor"
  | .branch _ => "endif"
  | .block .. => "endblock"
  | .spaceless => "endspaceless"
  | .trim => "endtrim"
  | .bind .. => "endwith"

/-- The nodes in front of the first `empty` and those behind it. -/
def splitEmpty : List Node → List Node × List Node
  | [] => ([], [])
  | .emptyMark :: rest => ([], rest)
  | node :: rest =>
    let (before, behind) := splitEmpty rest
    (node :: before, behind)

/-- The first branch of an if tag and its alternative. An `elif` starts a nested if tag in the
alternative; behind an `else` all nodes belong to it. -/
def splitBranches : List Node → List Node × List Node
  | [] => ([], [])
  | .elifMark test :: rest =>
    let (yes, no) := splitBranches rest
    ([], [.branch test yes no])
  | .elseMark :: rest => ([], rest)
  | node :: rest =>
    let (before, behind) := splitBranches rest
    (node :: before, behind)

/-- The node of a tag and the nodes that it encloses. -/
def close (opener : Opener) (children : List Node) : Node :=
  match opener with
  | .loop names items tag =>
    let (body, fallback) := splitEmpty children
    .loop names items tag body fallback
  | .branch test =>
    let (yes, no) := splitBranches children
    .branch test yes no
  | .block id title => .block id title children
  | .spaceless => .spaceless children
  | .trim => .trim children
  | .bind name value => .bind name value children

end Opener

end TextTemplate
