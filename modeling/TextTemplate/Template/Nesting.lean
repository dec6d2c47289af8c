import TextTemplate.Error.Basic
import TextTemplate.Template.Node

/-!
# Nesting of tags

Every token of a template adds a node, opens a tag or closes one. `Outline` holds the tags that are
open with the nodes they have collected; an end tag has to match the innermost one.
-/

namespace TextTemplate

/-- What a token does to the outline of a template. -/
inductive Action where
  | add (node : Node)
  | enter (opener : Opener)
  | leave (endTag : String)

/-- An open tag, its place, and the nodes collected so far, the last one first. -/
structure Frame where
  opener : Opener
  span : Span
  children : List Node

/-- A template in the making: the open tags, the innermost first, and the nodes outside of them, the
last one first. -/
structure Outline where
  frames : List Frame
  nodes : List Node

namespace Outline

def start : Outline := ⟨[], []⟩

/-- Adds a node to the innermost open tag. -/
def add (o : Outline) (node : Node) : Outline :=
  match o.frames with
  | [] => { o with nodes := node :: o.nodes }
  | frame :: frames =>
    { o with frames := { frame with children := node :: frame.children } :: frames }

def enter (o : Outline) (opener : Opener) (span : Span) : Outline :=
  { o with frames := ⟨opener, span, []⟩ :: o.frames }

/-- Closes the innermost open tag, which the end tag has to match. -/
def leave (o : Outline) (endTag : String) : Except Cause Outline :=
  match o.frames with
  | [] => .error (.unopened endTag)
  | frame :: frames =>
    if frame.opener.endTag = endTag then
      .ok ({ o with frames }.add (frame.opener.close frame.children.reverse))
    else .error (.mismatched frame.opener.endTag endTag)

/-- What the token at `span` does to the outline. -/
def act (o : Outline) (span : Span) : Action → Except Cause Outline
  | .add node => .ok (o.add node)
  | .enter opener => .ok (o.enter opener span)
  | .leave endTag => o.leave endTag

/-- The nodes of the whole template, or the innermost open tag. -/
def finish (o : Outline) : Except Frame (List Node) :=
  match o.frames with
  | [] => .ok o.nodes.reverse
  | frame :: _ => .error frame

end Outline

end TextTemplate
