import TextTemplate.Failure
import TextTemplate.Value.Text

/-!
# Errors

An error has a cause, a place in a template source if it is known, and the name of the template if
that is known. Its kind and its message are read off the cause; the place and the name are attached
on the way out, and whoever attaches first is right, since the innermost template comes first.
-/

namespace TextTemplate

/-- The category of an error. -/
inductive ErrorKind where
  /-- A template was located but could not be read or compiled. -/
  | load
  | templateNotFound
  /-- An unmatched, mismatched or unterminated block tag. -/
  | nesting
  | invalidTag
  | invalidFilter
  /-- A malformed tag, expression or argument. -/
  | grammar
  /-- A callable failed. -/
  | call
  /-- A filter failed. -/
  | filter
  | unpacking
  /-- A failure of rendering that has no kind of its own. -/
  | render
  /-- The data could not be turned into a value, or is not a map. -/
  | data
deriving DecidableEq, Repr, Inhabited

def ErrorKind.name : ErrorKind → String
  | .load => "Load"
  | .templateNotFound => "TemplateNotFound"
  | .nesting => "Nesting"
  | .invalidTag => "InvalidTag"
  | .invalidFilter => "InvalidFilter"
  | .grammar => "Syntax"
  | .call => "Call"
  | .filter => "Filter"
  | .unpacking => "Unpacking"
  | .render => "Render"
  | .data => "Data"

/-- What went wrong. -/
inductive Cause where
  /-- Templates are compiled inside one another more than `limit` deep. -/
  | compileDepth (limit : Nat)
  /-- Templates are included while rendering more than `limit` deep. -/
  | renderDepth (limit : Nat)
  | notFound (names : List String)
  | unreadable (path reason : String)
  | ioFailure (reason : String)
  | unclosed (endTag : String)
  | mismatched (endTag found : String)
  | unopened (found : String)
  | unknownTag (tag : String)
  | unknownFilter (name : String)
  | unparsableArgument (argument raw : String)
  | invalidExpression (raw : String)
  | malformedTag (tag content : String)
  | filterFailed (filter raw reason : String)
  | callFailed (path reason : String)
  | cannotUnpack (item tag : String)
  /-- The value that should name a template is of this kind. -/
  | notATemplateName (kind : String)
  /-- A comparison or a membership test that does not apply to its operands. -/
  | inapplicable (reason : String)
  | dataNotAMap (kind : String)
  | unserializable (reason : String)
  /-- A filter broke off. -/
  | aborted
deriving DecidableEq, Repr, Inhabited

namespace Cause

def kind : Cause → ErrorKind
  | .compileDepth _ | .unreadable .. => .load
  | .notFound _ => .templateNotFound
  | .unclosed _ | .mismatched .. | .unopened _ => .nesting
  | .unknownTag _ => .invalidTag
  | .unknownFilter _ => .invalidFilter
  | .unparsableArgument .. | .invalidExpression _ | .malformedTag .. => .grammar
  | .filterFailed .. => .filter
  | .callFailed .. => .call
  | .cannotUnpack .. => .unpacking
  | .renderDepth _ | .ioFailure _ | .notATemplateName _ | .inapplicable _ | .aborted => .render
  | .dataNotAMap _ | .unserializable _ => .data

def message : Cause → String
  | .compileDepth limit | .renderDepth limit => s!"reached maximum include depth ({limit})"
  | .notFound names => "template not found: [" ++ ", ".intercalate names ++ "]"
  | .unreadable path reason => s!"error loading template file [{path}]: {reason}"
  | .ioFailure reason => s!"io error: {reason}"
  | .unclosed endTag => s!"expecting [{endTag}]"
  | .mismatched endTag found => s!"expecting [{endTag}], found [{found}]"
  | .unopened found => s!"not expecting [{found}]"
  | .unknownTag tag => s!"[{tag}] is not a recognised template tag"
  | .unknownFilter name => s!"[{name}] is not a recognised filter"
  | .unparsableArgument argument raw => s!"unparsable argument: [{argument}] in [{raw}]"
  | .invalidExpression raw => s!"invalid expression [{raw}]"
  | .malformedTag tag content => s!"malformed [{tag}] tag: [{content}]"
  | .filterFailed filter raw reason => s!"error applying filter [{filter}] in [{raw}]: {reason}"
  | .callFailed path reason => s!"error calling [{path}]: {reason}"
  | .cannotUnpack item tag => s!"cannot unpack [{item}] in [{tag}]"
  | .notATemplateName kind => s!"include expected a template name, found {kind}"
  | .inapplicable reason => reason
  | .dataNotAMap kind => s!"render data must be a map, found {kind}"
  | .unserializable reason => reason
  | .aborted => "aborted"

/-- The cause that a failure leads to, given how its reason is reported. -/
def ofFailure (report : String → Cause) : Failure → Cause
  | .reason text => report text
  | .aborted => .aborted

end Cause

/-- A range of bytes in a template source. -/
structure Span where
  start : Nat
  stop : Nat
deriving DecidableEq, Repr, Inhabited

/-- A range of bytes together with the source that it lies in. -/
structure Location where
  source : String
  span : Span
deriving DecidableEq, Repr, Inhabited

structure Error where
  cause : Cause
  location : Option Location := none
  templateName : Option String := none
deriving DecidableEq, Repr, Inhabited

namespace Error

def kind (e : Error) : ErrorKind := e.cause.kind

def message (e : Error) : String := e.cause.message

/-- The error at a place of a source. -/
def located (cause : Cause) (source : String) (span : Span) : Error :=
  ⟨cause, some ⟨source, span⟩, none⟩

/-- Attaches the place if the error has none yet. -/
def enrich (e : Error) (source : String) (span : Span) : Error :=
  { e with location := e.location <|> some ⟨source, span⟩ }

/-- Attaches the name of the template if the error has none yet. -/
def named (e : Error) (name : Option String) : Error :=
  { e with templateName := e.templateName <|> name }

/-- The message, followed by the place if it is known. -/
def display (e : Error) : String :=
  match e.location with
  | some l => s!"{e.message} between bytes {l.span.start} and {l.span.stop}"
  | none => e.message

@[simp] theorem enrich_cause (e : Error) (source : String) (span : Span) :
    (e.enrich source span).cause = e.cause := rfl

@[simp] theorem named_cause (e : Error) (name : Option String) :
    (e.named name).cause = e.cause := rfl

end Error

end TextTemplate
