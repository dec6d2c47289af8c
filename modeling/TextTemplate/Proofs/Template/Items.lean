import Mathlib
import TextTemplate.Template.Nesting

/-!
# The items of a template

An item is what one token shows in a template: a text, a print, or a tag without the nodes that it
encloses. The items of a template stand in the order of the document. Sealing an open tag moves nodes
about, an `elif` becomes a condition in the alternative of the one in front, but no item is lost,
doubled or moved.
-/

namespace TextTemplate

inductive Item where
  | text (text : String)
  | print (escape : Bool) (body : PrintBody)
  | loop (names : List String) (items : Expr) (tag : String)
  /-- An `if` or an `elif`. -/
  | condition (test : Test)
  | cycle (id : Nat) (items : Expr)
  /-- The nodes of another template; its items are not listed. -/
  | splice (body : List Node)
  | includeBy (name : Expr)
  | block (id : Nat) (title : String)
  | spaceless
  | trim
  | bind (name : String) (value : Expr)

mutual

def Node.items : Node → List Item
  | .text text => [.text text]
  | .print escape body => [.print escape body]
  | .loop names items tag body fallback => .loop names items tag :: (itemsOf body ++ itemsOf fallback)
  | .branch test yes no => .condition test :: (itemsOf yes ++ itemsOf no)
  | .elifMark test => [.condition test]
  | .cycle id items => [.cycle id items]
  | .splice body => [.splice body]
  | .includeBy name => [.includeBy name]
  | .block id title body => .block id title :: itemsOf body
  | .spaceless body => .spaceless :: itemsOf body
  | .trim body => .trim :: itemsOf body
  | .bind name value body => .bind name value :: itemsOf body
  | .emptyMark | .elseMark => []

/-- The items of a template in document order; the separators `empty` and `else` show nothing. -/
def itemsOf : List Node → List Item
  | [] => []
  | node :: rest => node.items ++ itemsOf rest

end

theorem itemsOf_append (first second : List Node) :
    itemsOf (first ++ second) = itemsOf first ++ itemsOf second := by
  induction first with
  | nil => rfl
  | cons node rest ih => rw [List.cons_append, itemsOf, itemsOf, ih, List.append_assoc]

theorem itemsOf_singleton (node : Node) : itemsOf [node] = node.items := by
  rw [itemsOf, itemsOf, List.append_nil]

/-! ## Open tags -/

namespace Opener

/-- What an opening tag shows. -/
def item : Opener → Item
  | .loop names items tag => .loop names items tag
  | .branch test => .condition test
  | .block id title => .block id title
  | .spaceless => .spaceless
  | .trim => .trim
  | .bind name value => .bind name value

theorem itemsOf_splitEmpty (children : List Node) :
    itemsOf (splitEmpty children).1 ++ itemsOf (splitEmpty children).2 = itemsOf children := by
  fun_induction splitEmpty children with
  | case1 => rfl
  | case2 rest => rfl
  | case3 node rest hnode before behind heq ih =>
      rw [heq] at ih
      rw [itemsOf, itemsOf, List.append_assoc, ih]

/-- Everything behind an `elif` moves into a nested condition, whose own items come in the same
order. -/
theorem itemsOf_splitBranches (children : List Node) :
    itemsOf (splitBranches children).1 ++ itemsOf (splitBranches children).2 = itemsOf children := by
  fun_induction splitBranches children with
  | case1 => rfl
  | case2 test rest yes no heq ih =>
      rw [heq] at ih
      rw [itemsOf_singleton, Node.items, ih]
      rfl
  | case3 rest => rfl
  | case4 node rest helif helse before behind heq ih =>
      rw [heq] at ih
      rw [itemsOf, itemsOf, List.append_assoc, ih]

/-- Sealing a tag keeps its item and the items inside of it, in their order. -/
theorem items_close (opener : Opener) (children : List Node) :
    (opener.close children).items = opener.item :: itemsOf children := by
  cases opener with
  | loop names items tag =>
      rw [close, item, Node.items, itemsOf_splitEmpty]
  | branch test =>
      rw [close, item, Node.items, itemsOf_splitBranches]
  | block id title => rfl
  | spaceless => rfl
  | trim => rfl
  | bind name value => rfl

end Opener

/-! ## Outlines -/

/-- What a token shows. -/
def Action.items : Action → List Item
  | .add node => node.items
  | .enter opener => [opener.item]
  | .leave _ => []

/-- The items of an open tag and of the nodes inside of it so far. -/
def Frame.items (frame : Frame) : List Item := frame.opener.item :: itemsOf frame.children.reverse

namespace Outline

/-- The items so far, in document order. -/
def items (o : Outline) : List Item :=
  itemsOf o.nodes.reverse ++ o.frames.reverse.flatMap Frame.items

@[simp] theorem items_start : start.items = [] := rfl

theorem items_add (o : Outline) (node : Node) : (o.add node).items = o.items ++ node.items := by
  obtain ⟨frames, nodes⟩ := o
  cases frames with
  | nil => simp [add, items, itemsOf_append, itemsOf_singleton]
  | cons frame frames =>
      simp [add, items, Frame.items, itemsOf_append, itemsOf_singleton, List.append_assoc]

theorem items_enter (o : Outline) (opener : Opener) (span : Span) :
    (o.enter opener span).items = o.items ++ [opener.item] := by
  simp [enter, items, Frame.items, itemsOf]

theorem items_leave {o o' : Outline} {endTag : String} (h : o.leave endTag = .ok o') :
    o'.items = o.items := by
  obtain ⟨frames, nodes⟩ := o
  cases frames with
  | nil => cases h
  | cons frame frames =>
      simp only [leave] at h
      split at h
      · cases h
        rw [items_add, Opener.items_close]
        simp [items, Frame.items]
      · cases h

/-- A token shows its items behind all others. -/
theorem items_act {o o' : Outline} {span : Span} {action : Action}
    (h : o.act span action = .ok o') : o'.items = o.items ++ action.items := by
  cases action with
  | add node =>
      cases h
      exact items_add o node
  | enter opener =>
      cases h
      exact items_enter o opener span
  | leave endTag => rw [items_leave h, Action.items, List.append_nil]

theorem items_finish {o : Outline} {root : List Node} (h : o.finish = .ok root) :
    itemsOf root = o.items := by
  obtain ⟨frames, nodes⟩ := o
  cases frames with
  | nil =>
      cases h
      simp [items]
  | cons frame frames => cases h

end Outline

end TextTemplate
