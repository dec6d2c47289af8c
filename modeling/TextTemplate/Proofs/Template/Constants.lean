import TextTemplate.Proofs.Expression.Constants
import TextTemplate.Proofs.Template.Registry

/-!
# Constants in templates

A template with constants put in place of the names that `with` tags bind to them. A name counts as far
as no other tag binds it anew. The body of a block renders where the first block of its title stands, so
outside of the tags around it; and the target of an include tag has to stay, since a literal target names
a template that is put in place.
-/

namespace TextTemplate

mutual

/-- The second node is the first one with constants put in place of some expressions. The content of a
loop tag, which an error quotes, changes with its items. -/
inductive NodeInlined : Constants → Node → Node → Prop
  | text (k : Constants) (text : String) : NodeInlined k (.text text) (.text text)
  | print {k : Constants} (escape : Bool) {body body' : PrintBody} (hbody : body.Inlined k body') :
      NodeInlined k (.print escape body) (.print escape body')
  | loop {k : Constants} (names : List String) {items items' : Expr} (tag tag' : String)
      {body body' fallback fallback' : List Node} (hitems : items.Inlined k items')
      (hbody : Inlined (k.hide ("loop" :: names)) body body')
      (hfallback : Inlined k fallback fallback') :
      NodeInlined k (.loop names items tag body fallback) (.loop names items' tag' body' fallback')
  | emptyMark (k : Constants) : NodeInlined k .emptyMark .emptyMark
  | branch {k : Constants} {test test' : Test} {yes yes' no no' : List Node}
      (htest : test.Inlined k test') (hyes : Inlined k yes yes') (hno : Inlined k no no') :
      NodeInlined k (.branch test yes no) (.branch test' yes' no')
  | elifMark (k : Constants) (test : Test) : NodeInlined k (.elifMark test) (.elifMark test)
  | elseMark (k : Constants) : NodeInlined k .elseMark .elseMark
  | cycle {k : Constants} (id : Nat) {items items' : Expr} (hitems : items.Inlined k items') :
      NodeInlined k (.cycle id items) (.cycle id items')
  | splice {k : Constants} {body body' : List Node} (hbody : Inlined k body body') :
      NodeInlined k (.splice body) (.splice body')
  | includeBy (k : Constants) (target : Expr) : NodeInlined k (.includeBy target) (.includeBy target)
  | block (k : Constants) (id : Nat) (title : String) {body body' : List Node}
      (hbody : Inlined .nothing body body') :
      NodeInlined k (.block id title body) (.block id title body')
  | spaceless {k : Constants} {body body' : List Node} (hbody : Inlined k body body') :
      NodeInlined k (.spaceless body) (.spaceless body')
  | trim {k : Constants} {body body' : List Node} (hbody : Inlined k body body') :
      NodeInlined k (.trim body) (.trim body')
  | bind {k : Constants} (name : String) {value value' : Expr} {body body' : List Node}
      (hvalue : value.Inlined k value') (hbody : Inlined (k.bind name (value.constant? k)) body body') :
      NodeInlined k (.bind name value body) (.bind name value' body')

inductive Inlined : Constants → List Node → List Node → Prop
  | nil (k : Constants) : Inlined k [] []
  | cons {k : Constants} {node node' : Node} {rest rest' : List Node} (hnode : NodeInlined k node node')
      (hrest : Inlined k rest rest') : Inlined k (node :: rest) (node' :: rest')

end

mutual

theorem NodeInlined.refl (k : Constants) : ∀ node : Node, NodeInlined k node node
  | .text text => .text k text
  | .print escape body => .print escape (.refl body)
  | .loop names items tag body fallback =>
      .loop names tag tag (.refl items) (.refl _ body) (.refl k fallback)
  | .emptyMark => .emptyMark k
  | .branch test yes no => .branch (.refl test) (.refl k yes) (.refl k no)
  | .elifMark test => .elifMark k test
  | .elseMark => .elseMark k
  | .cycle id items => .cycle id (.refl items)
  | .splice body => .splice (.refl k body)
  | .includeBy target => .includeBy k target
  | .block id title body => .block k id title (.refl _ body)
  | .spaceless body => .spaceless (.refl k body)
  | .trim body => .trim (.refl k body)
  | .bind name value body => .bind name (.refl value) (.refl _ body)

theorem Inlined.refl (k : Constants) : ∀ nodes : List Node, Inlined k nodes nodes
  | [] => .nil k
  | node :: rest => .cons (.refl k node) (.refl k rest)

end

/-! ## Blocks -/

/-- Two blocks of which the second has constants put in place in its body. -/
structure BlockInlined (block block' : Block) : Prop where
  id : block.id = block'.id
  title : block.title = block'.title
  body : Inlined .nothing block.body block'.body

mutual

theorem NodeInlined.blocks {k : Constants} {node node' : Node} :
    NodeInlined k node node' → List.Forall₂ BlockInlined node.blocks node'.blocks
  | .text _ _ | .print _ _ | .emptyMark _ | .elifMark _ _ | .elseMark _ | .cycle _ _
  | .includeBy _ _ => .nil
  | .loop _ _ _ _ hbody hfallback => List.rel_append hbody.blocks hfallback.blocks
  | .branch _ hyes hno => List.rel_append hyes.blocks hno.blocks
  | .splice hbody => hbody.blocks
  | .block _ _ _ hbody => .cons ⟨rfl, rfl, hbody⟩ hbody.blocks
  | .spaceless hbody => hbody.blocks
  | .trim hbody => hbody.blocks
  | .bind _ _ hbody => hbody.blocks

/-- The blocks are the same but for their bodies. -/
theorem Inlined.blocks {k : Constants} {nodes nodes' : List Node} :
    Inlined k nodes nodes' → List.Forall₂ BlockInlined (blocksOf nodes) (blocksOf nodes')
  | .nil _ => .nil
  | .cons hnode hrest => List.rel_append hnode.blocks hrest.blocks

end

theorem Inlined.titled {k : Constants} {nodes nodes' : List Node} (h : Inlined k nodes nodes')
    (title : String) :
    List.Forall₂ BlockInlined (titled title (blocksOf nodes)) (titled title (blocksOf nodes')) := by
  refine List.rel_filter (fun block block' same => ?_) h.blocks
  dsimp only
  rw [same.title]

end TextTemplate
