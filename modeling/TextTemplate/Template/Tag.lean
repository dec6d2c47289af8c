import TextTemplate.Expression.Parse
import TextTemplate.Template.Nesting
import TextTemplate.Template.Program
import TextTemplate.Token

/-!
# Tags

Reading one token of a template: what it adds, opens or closes. What a token says depends on nothing
but the filters. Blocks and cycles are then numbered, and a literal include or extends tag loads the
template it names at once and puts its nodes in place; the loader is a parameter here.
-/

namespace TextTemplate

open TextTemplate.Text

/-- The tags that are not end tags. `fallback`, `otherBranch` and `lastBranch` separate the parts
of a loop and of a condition. -/
inductive TagName where
  | loop | fallback | branch | otherBranch | lastBranch | cycle | inclusion | extension | block
  | spaceless | trim | binding
deriving DecidableEq, Repr

def TagName.ofWord? (word : String) : Option TagName :=
  match word with
  | "for" => some .loop
  | "empty" => some .fallback
  | "if" => some .branch
  | "elif" => some .otherBranch
  | "else" => some .lastBranch
  | "cycle" => some .cycle
  | "include" => some .inclusion
  | "extends" => some .extension
  | "block" => some .block
  | "spaceless" => some .spaceless
  | "trim" => some .trim
  | "with" => some .binding
  | _ => none

def endTags : List String :=
  ["endfor", "endif", "endblock", "endspaceless", "endtrim", "endwith"]

/-- The cause for a tag whose content does not have the form that its name asks for. -/
def malformed (t : Token) : Cause :=
  .malformedTag (String.ofList t.word) (String.ofList t.content)

/-- What stands behind the name of a tag; it may not be missing. -/
def argument (t : Token) : Except Cause (List Char) :=
  match trim (t.content.dropWhile (!isBlank ·)) with
  | [] => .error (malformed t)
  | cs => .ok cs

/-! ## The forms of loops and bindings -/

/-- What stands behind the blanks in front of a text; there has to be one at least. -/
def skipBlanks? (cs : List Char) : Option (List Char) :=
  match cs with
  | c :: _ => if isBlank c then some (trimStart cs) else none
  | [] => none

/-- A word in front of a text and what stands behind it. -/
def takeWord? (cs : List Char) : Option (List Char × List Char) :=
  match cs.takeWhile isWord with
  | [] => none
  | word => some (word, cs.dropWhile isWord)

/-- Further words behind a first one, each behind a comma, as many as there are. -/
def takeMoreWords : Nat → List Char → List (List Char) × List Char
  | 0, cs => ([], cs)
  | fuel + 1, cs =>
    match trimStart cs with
    | ',' :: rest =>
      match takeWord? (trimStart rest) with
      | some (word, rest) =>
        let (words, rest) := takeMoreWords fuel rest
        (word :: words, rest)
      | none => ([], cs)
    | _ => ([], cs)

/-- Names and iterable of `for a, b in items`. -/
def loopParts? (content : List Char) : Option (List (List Char) × List Char) :=
  (dropStart? ['f', 'o', 'r'] content).bind fun cs => (skipBlanks? cs).bind fun cs =>
    (takeWord? cs).bind fun (first, cs) =>
      let (others, cs) := takeMoreWords cs.length cs
      (skipBlanks? cs).bind fun cs => (dropStart? ['i', 'n'] cs).bind fun cs =>
        (skipBlanks? cs).bind fun items =>
          if items.isEmpty then none else some (first :: others, items)

/-- Name and value of `name = value`. -/
def bindingParts? (cs : List Char) : Option (List Char × List Char) :=
  (takeWord? cs).bind fun (name, cs) =>
    match trimStart cs with
    | '=' :: rest => if (trimStart rest).isEmpty then none else some (name, trimStart rest)
    | _ => none

/-! ## Reading a token -/

/-- The candidate names in a literal: a string, or a list of at least one string. -/
def templateNames? : Value → Option (List String)
  | .string s => some [s]
  | .list items =>
    match items.mapM Value.string? with
    | some (name :: names) => some (name :: names)
    | _ => none
  | _ => none

/-- What a token says. -/
inductive Reading where
  | action (action : Action)
  /-- Adds a cycle, which has to be numbered. -/
  | cycle (items : Expr)
  /-- Opens a block, which has to be numbered. -/
  | block (title : String)
  /-- The nodes of another template stand here; it has one of these names. -/
  | splice (names : List String)

namespace Token

variable (filters : NameMap Filter) (t : Token)

/-- Reads a tag that names a template. Without a literal name it is included while rendering, if
that is allowed. -/
def namedTemplate (allowVariable : Bool) : Except Cause Reading := do
  match ← parseExpr filters (← argument t) with
  | .literal value =>
    match templateNames? value with
    | some names => return .splice names
    | none => throw (malformed t)
  | .reference target =>
    if allowVariable then return .action (.add (.includeBy (.reference target)))
    else throw (malformed t)

def loopTag : Except Cause Reading := do
  match loopParts? t.content with
  | none => throw (malformed t)
  | some (names, items) =>
    let items ← parseExpr filters items
    return .action (.enter (.loop (names.map String.ofList) items (String.ofList t.content)))

def bindingTag : Except Cause Reading := do
  match bindingParts? (← argument t) with
  | none => throw (malformed t)
  | some (name, value) =>
    return .action (.enter (.bind (String.ofList name) (← parseExpr filters value)))

/-- Reads a tag that is not an end tag. -/
def opening : TagName → Except Cause Reading
  | .loop => t.loopTag filters
  | .fallback => return .action (.add .emptyMark)
  | .branch => return .action (.enter (.branch (← parseTest filters (← argument t))))
  | .otherBranch => return .action (.add (.elifMark (← parseTest filters (← argument t))))
  | .lastBranch => return .action (.add .elseMark)
  | .cycle => return .cycle (← parseExpr filters (← argument t))
  | .inclusion => t.namedTemplate filters true
  | .extension => t.namedTemplate filters false
  | .block => return .block (String.ofList (← argument t))
  | .spaceless => return .action (.enter .spaceless)
  | .trim => return .action (.enter .trim)
  | .binding => t.bindingTag filters

/-- Reads a token. -/
def reading : Except Cause Reading :=
  match t.kind with
  | .text => return .action (.add (.text (String.ofList t.content)))
  | .print escape => return .action (.add (.print escape (← parsePrint filters t.content)))
  | .statement =>
    let word := String.ofList t.word
    match TagName.ofWord? word with
    | some name => t.opening filters name
    | none =>
      if endTags.contains word then return .action (.leave word)
      else throw (.unknownTag word)

end Token

/-- What reading a template needs: the filters by name, the source, and how templates are loaded. -/
structure TagReader where
  filters : NameMap Filter
  source : String
  load : List String → MemoryM Program

namespace TagReader

variable (r : TagReader)

/-- Turns a cause into an error at the place of a token. -/
def locate {α : Type} (t : Token) (result : Except Cause α) : MemoryM α :=
  match result with
  | .ok a => pure a
  | .error cause => throw (Error.located cause r.source t.span)

/-- Loads a template on behalf of a token. -/
def loadFor (t : Token) (names : List String) : MemoryM Program := fun m =>
  match r.load names m with
  | (.ok program, m) => (.ok program, m)
  | (.error e, m) => (.error (e.enrich r.source t.span), m)

/-- What a token does to the outline, once what it needs is drawn or loaded. -/
def perform (t : Token) : Reading → MemoryM Action
  | .action action => return action
  | .cycle items => return .add (.cycle (← freshId) items)
  | .block title => return .enter (.block (← freshId) title)
  | .splice names => return .add (.splice (← r.loadFor t names).root)

def action (t : Token) : MemoryM Action := do
  r.perform t (← r.locate t (t.reading r.filters))

/-- Reads one token after the other. -/
def outline : Outline → List Token → MemoryM Outline
  | o, [] => pure o
  | o, t :: ts => do
    let action ← r.action t
    let o ← r.locate t (o.act t.span action)
    outline o ts

/-- The nodes of a template. -/
def nodes (tokens : List Token) : MemoryM (List Node) := do
  match (← r.outline .start tokens).finish with
  | .ok nodes => return nodes
  | .error frame =>
    throw (Error.located (.unclosed frame.opener.endTag) r.source frame.span)

end TagReader

end TextTemplate
