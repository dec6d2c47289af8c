import TextTemplate.Proofs.Template.Pieces

/-!
# Templates alike

Two templates are alike if they consist of the same nodes, but for the numbers of their blocks and
cycles and for some of the include tags. Which numbers and tags may stand for each other is a
`Likeness`. What is done to a template while it is read keeps it alike to another one.
-/

namespace TextTemplate

/-- What may stand for each other in two templates. -/
structure Likeness where
  ids : Nat → Nat → Prop
  /-- Targets of two templates that are looked up while rendering. -/
  targets : Expr → Expr → Prop
  /-- A target of the one, and nodes that are put in place in the other. -/
  inserts : Expr → List Node → Prop

mutual

inductive NodeAlike (L : Likeness) : Node → Node → Prop
  | text (text : String) : NodeAlike L (.text text) (.text text)
  | print (escape : Bool) (body : PrintBody) : NodeAlike L (.print escape body) (.print escape body)
  | loop (names : List String) (items : Expr) (tag : String) {body body' fallback fallback' : List Node}
      (hbody : Alike L body body') (hfallback : Alike L fallback fallback') :
      NodeAlike L (.loop names items tag body fallback) (.loop names items tag body' fallback')
  | emptyMark : NodeAlike L .emptyMark .emptyMark
  | branch (test : Test) {yes yes' no no' : List Node} (hyes : Alike L yes yes')
      (hno : Alike L no no') : NodeAlike L (.branch test yes no) (.branch test yes' no')
  | elifMark (test : Test) : NodeAlike L (.elifMark test) (.elifMark test)
  | elseMark : NodeAlike L .elseMark .elseMark
  | cycle {id id' : Nat} (items : Expr) (hid : L.ids id id') :
      NodeAlike L (.cycle id items) (.cycle id' items)
  | splice {body body' : List Node} (hbody : Alike L body body') :
      NodeAlike L (.splice body) (.splice body')
  | includeBy {target target' : Expr} (htarget : L.targets target target') :
      NodeAlike L (.includeBy target) (.includeBy target')
  | inserted {target : Expr} {body : List Node} (hinserts : L.inserts target body) :
      NodeAlike L (.includeBy target) (.splice body)
  | block {id id' : Nat} (title : String) {body body' : List Node} (hid : L.ids id id')
      (hbody : Alike L body body') : NodeAlike L (.block id title body) (.block id' title body')
  | spaceless {body body' : List Node} (hbody : Alike L body body') :
      NodeAlike L (.spaceless body) (.spaceless body')
  | trim {body body' : List Node} (hbody : Alike L body body') :
      NodeAlike L (.trim body) (.trim body')
  | bind (name : String) (value : Expr) {body body' : List Node} (hbody : Alike L body body') :
      NodeAlike L (.bind name value body) (.bind name value body')

inductive Alike (L : Likeness) : List Node → List Node → Prop
  | nil : Alike L [] []
  | cons {node node' : Node} {rest rest' : List Node} (hnode : NodeAlike L node node')
      (hrest : Alike L rest rest') : Alike L (node :: rest) (node' :: rest')

end

/-- Two blocks of templates that are alike. -/
structure BlockAlike (L : Likeness) (block block' : Block) : Prop where
  ids : L.ids block.id block'.id
  title : block.title = block'.title
  body : Alike L block.body block'.body

/-! ## Comparing likenesses -/

/-- What stands for each other by the one likeness does so by the other. -/
structure Likeness.Within (L L' : Likeness) : Prop where
  ids : ∀ {i j}, L.ids i j → L'.ids i j
  targets : ∀ {target target'}, L.targets target target' → L'.targets target target'
  inserts : ∀ {target body}, L.inserts target body → L'.inserts target body

section

variable {L L' : Likeness}

mutual

theorem NodeAlike.mono (hL : L.Within L') {node node' : Node} :
    NodeAlike L node node' → NodeAlike L' node node'
  | .text text => .text text
  | .print escape body => .print escape body
  | .loop names items tag hbody hfallback => .loop names items tag (hbody.mono hL) (hfallback.mono hL)
  | .emptyMark => .emptyMark
  | .branch test hyes hno => .branch test (hyes.mono hL) (hno.mono hL)
  | .elifMark test => .elifMark test
  | .elseMark => .elseMark
  | .cycle items hid => .cycle items (hL.ids hid)
  | .splice hbody => .splice (hbody.mono hL)
  | .includeBy htarget => .includeBy (hL.targets htarget)
  | .inserted hinserts => .inserted (hL.inserts hinserts)
  | .block title hid hbody => .block title (hL.ids hid) (hbody.mono hL)
  | .spaceless hbody => .spaceless (hbody.mono hL)
  | .trim hbody => .trim (hbody.mono hL)
  | .bind name value hbody => .bind name value (hbody.mono hL)

theorem Alike.mono (hL : L.Within L') {nodes nodes' : List Node} :
    Alike L nodes nodes' → Alike L' nodes nodes'
  | .nil => .nil
  | .cons hnode hrest => .cons (hnode.mono hL) (hrest.mono hL)

end

theorem BlockAlike.mono (hL : L.Within L') {block block' : Block} (h : BlockAlike L block block') :
    BlockAlike L' block block' :=
  ⟨hL.ids h.ids, h.title, h.body.mono hL⟩

mutual

/-- A template whose numbers stand for themselves is alike to itself. -/
theorem NodeAlike.refl (htargets : ∀ target, L.targets target target) :
    ∀ {node : Node}, (∀ id ∈ node.ids, L.ids id id) → NodeAlike L node node
  | .text text, _ => .text text
  | .print escape body, _ => .print escape body
  | .loop names items tag _ _, h => .loop names items tag
      (.refl htargets fun id hid => h id (List.mem_append_left _ hid))
      (.refl htargets fun id hid => h id (List.mem_append_right _ hid))
  | .emptyMark, _ => .emptyMark
  | .branch test _ _, h => .branch test
      (.refl htargets fun id hid => h id (List.mem_append_left _ hid))
      (.refl htargets fun id hid => h id (List.mem_append_right _ hid))
  | .elifMark test, _ => .elifMark test
  | .elseMark, _ => .elseMark
  | .cycle id items, h => .cycle items (h id List.mem_cons_self)
  | .splice body, h => .splice (show Alike L body body from .refl htargets h)
  | .includeBy target, _ => .includeBy (htargets target)
  | .block id title _, h => .block title (h id List.mem_cons_self)
      (.refl htargets fun id hid => h id (List.mem_cons_of_mem _ hid))
  | .spaceless body, h => .spaceless (show Alike L body body from .refl htargets h)
  | .trim body, h => .trim (show Alike L body body from .refl htargets h)
  | .bind name value body, h => .bind name value (show Alike L body body from .refl htargets h)

theorem Alike.refl (htargets : ∀ target, L.targets target target) :
    ∀ {nodes : List Node}, (∀ id ∈ idsOf nodes, L.ids id id) → Alike L nodes nodes
  | [], _ => .nil
  | _ :: _, h => .cons (.refl htargets fun id hid => h id (List.mem_append_left _ hid))
      (.refl htargets fun id hid => h id (List.mem_append_right _ hid))

end

end

/-- Nothing but a thing itself stands for it. -/
def Likeness.strict : Likeness := ⟨(· = ·), (· = ·), fun _ _ => False⟩

mutual

theorem NodeAlike.eq {node node' : Node} : NodeAlike .strict node node' → node = node'
  | .text _ => rfl
  | .print _ _ => rfl
  | .loop _ _ _ hbody hfallback => by rw [hbody.eq, hfallback.eq]
  | .emptyMark => rfl
  | .branch _ hyes hno => by rw [hyes.eq, hno.eq]
  | .elifMark _ => rfl
  | .elseMark => rfl
  | .cycle _ hid => by rw [show _ = _ from hid]
  | .splice hbody => by rw [hbody.eq]
  | .includeBy htarget => by rw [show _ = _ from htarget]
  | .inserted hinserts => hinserts.elim
  | .block _ hid hbody => by rw [show _ = _ from hid, hbody.eq]
  | .spaceless hbody => by rw [hbody.eq]
  | .trim hbody => by rw [hbody.eq]
  | .bind _ _ hbody => by rw [hbody.eq]

theorem Alike.eq {nodes nodes' : List Node} : Alike .strict nodes nodes' → nodes = nodes'
  | .nil => rfl
  | .cons hnode hrest => by rw [hnode.eq, hrest.eq]

end

section

variable {L : Likeness}

theorem Alike.append {first first' second second' : List Node} (hfirst : Alike L first first')
    (hsecond : Alike L second second') : Alike L (first ++ second) (first' ++ second') := by
  induction first generalizing first' with
  | nil =>
      cases hfirst
      exact hsecond
  | cons node rest ih =>
      cases hfirst with
      | cons hnode hrest => exact .cons hnode (ih hrest)

theorem Alike.singleton {node node' : Node} (h : NodeAlike L node node') : Alike L [node] [node'] :=
  .cons h .nil

/-! ## Blocks -/

mutual

theorem NodeAlike.titled {title : String}
    (hinserts : ∀ target body, L.inserts target body → titled title (blocksOf body) = [])
    {node node' : Node} : NodeAlike L node node' →
    List.Forall₂ (BlockAlike L) (titled title node.blocks) (titled title node'.blocks)
  | .text _ => .nil
  | .print _ _ => .nil
  | .loop _ _ _ hbody hfallback => by
      rw [Node.blocks, Node.blocks, titled_append, titled_append]
      exact List.rel_append (hbody.titled hinserts) (hfallback.titled hinserts)
  | .emptyMark => .nil
  | .branch _ hyes hno => by
      rw [Node.blocks, Node.blocks, titled_append, titled_append]
      exact List.rel_append (hyes.titled hinserts) (hno.titled hinserts)
  | .elifMark _ => .nil
  | .elseMark => .nil
  | .cycle _ _ => .nil
  | .splice hbody => hbody.titled hinserts
  | .includeBy _ => .nil
  | .inserted h => by
      rw [Node.blocks, Node.blocks, hinserts _ _ h]
      exact .nil
  | .block found hid hbody => by
      rw [Node.blocks, Node.blocks, titled_cons, titled_cons]
      have inside := hbody.titled hinserts
      by_cases same : found = title
      · rw [if_pos same, if_pos same]
        exact .cons ⟨hid, rfl, hbody⟩ inside
      · rwa [if_neg same, if_neg same]
  | .spaceless hbody => hbody.titled hinserts
  | .trim hbody => hbody.titled hinserts
  | .bind _ _ hbody => hbody.titled hinserts

/-- The blocks of a title that no inserted template has. -/
theorem Alike.titled {title : String}
    (hinserts : ∀ target body, L.inserts target body → titled title (blocksOf body) = [])
    {nodes nodes' : List Node} : Alike L nodes nodes' →
    List.Forall₂ (BlockAlike L) (titled title (blocksOf nodes)) (titled title (blocksOf nodes'))
  | .nil => .nil
  | .cons hnode hrest => by
      rw [blocksOf, blocksOf, titled_append, titled_append]
      exact List.rel_append (hnode.titled hinserts) (hrest.titled hinserts)

end

theorem Alike.length_titled {nodes nodes' : List Node} (h : Alike L nodes nodes')
    (hinserts : ∀ target body, ¬ L.inserts target body) (title : String) :
    (TextTemplate.titled title (blocksOf nodes)).length =
      (TextTemplate.titled title (blocksOf nodes')).length :=
  (h.titled fun target body hbody => absurd hbody (hinserts target body)).length_eq

/-! ## Templates in place -/

mutual

theorem NodeAlike.placed (hinserts : ∀ target body, ¬ L.inserts target body) {node node' : Node} :
    NodeAlike L node node' → node.placed = node'.placed
  | .text _ => rfl
  | .print _ _ => rfl
  | .loop _ _ _ hbody hfallback => by
      rw [Node.placed, Node.placed, hbody.placed hinserts, hfallback.placed hinserts]
  | .emptyMark => rfl
  | .branch _ hyes hno => by
      rw [Node.placed, Node.placed, hyes.placed hinserts, hno.placed hinserts]
  | .elifMark _ => rfl
  | .elseMark => rfl
  | .cycle _ _ => rfl
  | .splice hbody => by rw [Node.placed, Node.placed, hbody.placed hinserts]
  | .includeBy _ => rfl
  | .inserted h => absurd h (hinserts _ _)
  | .block _ _ hbody => hbody.placed hinserts
  | .spaceless hbody => hbody.placed hinserts
  | .trim hbody => hbody.placed hinserts
  | .bind _ _ hbody => hbody.placed hinserts

theorem Alike.placed (hinserts : ∀ target body, ¬ L.inserts target body) {nodes nodes' : List Node} :
    Alike L nodes nodes' → TextTemplate.placed nodes = TextTemplate.placed nodes'
  | .nil => rfl
  | .cons hnode hrest => by
      rw [TextTemplate.placed, TextTemplate.placed, hnode.placed hinserts, hrest.placed hinserts]

end

/-! ## Open tags -/

inductive OpenerAlike (L : Likeness) : Opener → Opener → Prop
  | block {id id' : Nat} (title : String) (hid : L.ids id id') :
      OpenerAlike L (.block id title) (.block id' title)
  | same {opener : Opener} (h : ∀ id title, opener ≠ .block id title) : OpenerAlike L opener opener

theorem OpenerAlike.endTag {opener opener' : Opener} (h : OpenerAlike L opener opener') :
    opener.endTag = opener'.endTag := by
  cases h <;> rfl

theorem OpenerAlike.mono {L' : Likeness} (hL : L.Within L') {opener opener' : Opener}
    (h : OpenerAlike L opener opener') : OpenerAlike L' opener opener' := by
  cases h with
  | block title hid => exact .block title (hL.ids hid)
  | same h => exact .same h

theorem NodeAlike.emptyMark_iff {node node' : Node} (h : NodeAlike L node node') :
    node = .emptyMark ↔ node' = .emptyMark := by
  cases h <;> simp

theorem NodeAlike.elifMark_iff {node node' : Node} (h : NodeAlike L node node') (test : Test) :
    node = .elifMark test ↔ node' = .elifMark test := by
  cases h <;> simp

theorem NodeAlike.elseMark_iff {node node' : Node} (h : NodeAlike L node node') :
    node = .elseMark ↔ node' = .elseMark := by
  cases h <;> simp

theorem Alike.splitEmpty {children children' : List Node} (h : Alike L children children') :
    Alike L (Opener.splitEmpty children).1 (Opener.splitEmpty children').1 ∧
      Alike L (Opener.splitEmpty children).2 (Opener.splitEmpty children').2 := by
  induction children generalizing children' with
  | nil =>
      cases h
      exact ⟨.nil, .nil⟩
  | cons node rest ih =>
      cases h with
      | @cons _ node' _ rest' hnode hrest =>
          by_cases mark : node = .emptyMark
          · obtain rfl := mark
            obtain rfl := hnode.emptyMark_iff.mp rfl
            exact ⟨.nil, hrest⟩
          · have mark' : node' ≠ .emptyMark := fun same => mark (hnode.emptyMark_iff.mpr same)
            rw [Opener.splitEmpty.eq_3 _ _ mark, Opener.splitEmpty.eq_3 _ _ mark']
            exact ⟨.cons hnode (ih hrest).1, (ih hrest).2⟩

theorem Alike.splitBranches {children children' : List Node} (h : Alike L children children') :
    Alike L (Opener.splitBranches children).1 (Opener.splitBranches children').1 ∧
      Alike L (Opener.splitBranches children).2 (Opener.splitBranches children').2 := by
  induction children generalizing children' with
  | nil =>
      cases h
      exact ⟨.nil, .nil⟩
  | cons node rest ih =>
      cases h with
      | @cons _ node' _ rest' hnode hrest =>
          by_cases mark : node = .elseMark
          · obtain rfl := mark
            obtain rfl := hnode.elseMark_iff.mp rfl
            exact ⟨.nil, hrest⟩
          by_cases further : ∃ test, node = .elifMark test
          · obtain ⟨test, rfl⟩ := further
            obtain rfl := (hnode.elifMark_iff test).mp rfl
            exact ⟨.nil, .singleton (.branch test (ih hrest).1 (ih hrest).2)⟩
          · have mark' : node' ≠ .elseMark := fun same => mark (hnode.elseMark_iff.mpr same)
            have further' : ∀ test, node' ≠ .elifMark test :=
              fun test same => further ⟨test, (hnode.elifMark_iff test).mpr same⟩
            rw [Opener.splitBranches.eq_4 _ _ (fun test same => further ⟨test, same⟩) mark,
              Opener.splitBranches.eq_4 _ _ further' mark']
            exact ⟨.cons hnode (ih hrest).1, (ih hrest).2⟩

theorem OpenerAlike.close {opener opener' : Opener} (h : OpenerAlike L opener opener')
    {children children' : List Node} (hchildren : Alike L children children') :
    NodeAlike L (opener.close children) (opener'.close children') := by
  cases h with
  | block title hid => exact .block title hid hchildren
  | same h =>
      cases opener with
      | loop names items tag => exact .loop _ _ _ hchildren.splitEmpty.1 hchildren.splitEmpty.2
      | branch test => exact .branch _ hchildren.splitBranches.1 hchildren.splitBranches.2
      | block id title => exact absurd rfl (h id title)
      | spaceless => exact .spaceless hchildren
      | trim => exact .trim hchildren
      | bind name value => exact .bind _ _ hchildren

/-! ## Outlines -/

inductive ActionAlike (L : Likeness) : Action → Action → Prop
  | add {node node' : Node} (h : NodeAlike L node node') : ActionAlike L (.add node) (.add node')
  | enter {opener opener' : Opener} (h : OpenerAlike L opener opener') :
      ActionAlike L (.enter opener) (.enter opener')
  | leave (endTag : String) : ActionAlike L (.leave endTag) (.leave endTag)

/-- An action that brings along no numbers. -/
theorem ActionAlike.refl (htargets : ∀ target, L.targets target target) {action : Action}
    (h : action.pieces = [] ∨ action.pieces = [.lookUp]) : ActionAlike L action action := by
  cases action with
  | add node =>
      have none : node.ids = [] := by
        rw [Node.ids_eq_pieces]
        rcases h with h | h <;> rw [show node.pieces = _ from h] <;> rfl
      exact .add (.refl htargets (by simp [none]))
  | enter opener =>
      refine .enter (.same ?_)
      rintro id title rfl
      rcases h with h | h <;> cases h
  | leave endTag => exact .leave endTag

/-- Two open tags. The places of the tags agree if `exact` holds. -/
structure FrameAlike (L : Likeness) (exact : Prop) (frame frame' : Frame) : Prop where
  opener : OpenerAlike L frame.opener frame'.opener
  span : exact → frame.span = frame'.span
  children : Alike L frame.children.reverse frame'.children.reverse

structure OutlineAlike (L : Likeness) (exact : Prop) (o o' : Outline) : Prop where
  frames : List.Forall₂ (FrameAlike L exact) o.frames o'.frames
  nodes : Alike L o.nodes.reverse o'.nodes.reverse

/-- Both results are good or both are bad, in a way that fits. -/
def Agree {ε δ α β : Type} (bad : ε → δ → Prop) (good : α → β → Prop) :
    Except ε α → Except δ β → Prop
  | .ok a, .ok b => good a b
  | .error e, .error d => bad e d
  | _, _ => False

namespace OutlineAlike

variable {exact : Prop} {o o' : Outline}

theorem mono {L' : Likeness} (h : OutlineAlike L exact o o') (hL : L.Within L') :
    OutlineAlike L' exact o o' where
  frames := h.frames.imp fun _ _ hframe =>
    ⟨hframe.opener.mono hL, hframe.span, hframe.children.mono hL⟩
  nodes := h.nodes.mono hL

theorem start : OutlineAlike L exact .start .start := ⟨.nil, .nil⟩

theorem add (h : OutlineAlike L exact o o') {node node' : Node} (hnode : NodeAlike L node node') :
    OutlineAlike L exact (o.add node) (o'.add node') := by
  obtain ⟨frames, nodes⟩ := o
  obtain ⟨frames', nodes'⟩ := o'
  obtain ⟨hframes, hnodes⟩ := h
  cases hframes with
  | nil =>
      refine ⟨.nil, ?_⟩
      simp only [Outline.add, List.reverse_cons]
      exact hnodes.append (.singleton hnode)
  | cons hframe hrest =>
      refine ⟨.cons ⟨hframe.opener, hframe.span, ?_⟩ hrest, hnodes⟩
      simp only [List.reverse_cons]
      exact hframe.children.append (.singleton hnode)

theorem enter (h : OutlineAlike L exact o o') {opener opener' : Opener}
    (hopener : OpenerAlike L opener opener') {span span' : Span} (hspan : exact → span = span') :
    OutlineAlike L exact (o.enter opener span) (o'.enter opener' span') :=
  ⟨.cons ⟨hopener, hspan, .nil⟩ h.frames, h.nodes⟩

theorem leave (h : OutlineAlike L exact o o') (endTag : String) :
    Agree (· = ·) (OutlineAlike L exact) (o.leave endTag) (o'.leave endTag) := by
  obtain ⟨frames, nodes⟩ := o
  obtain ⟨frames', nodes'⟩ := o'
  obtain ⟨hframes, hnodes⟩ := h
  cases hframes with
  | nil => rfl
  | @cons frame frame' rest rest' hframe hrest =>
      simp only [Outline.leave, ← hframe.opener.endTag]
      split
      · have outside : OutlineAlike L exact ⟨rest, nodes⟩ ⟨rest', nodes'⟩ := ⟨hrest, hnodes⟩
        exact outside.add (hframe.opener.close hframe.children)
      · rfl

theorem act (h : OutlineAlike L exact o o') {action action' : Action}
    (haction : ActionAlike L action action') {span span' : Span} (hspan : exact → span = span') :
    Agree (· = ·) (OutlineAlike L exact) (o.act span action) (o'.act span' action') := by
  cases haction with
  | add hnode => exact h.add hnode
  | enter hopener => exact h.enter hopener hspan
  | leave endTag => exact h.leave endTag

theorem finish (h : OutlineAlike L exact o o') :
    Agree (FrameAlike L exact) (Alike L) o.finish o'.finish := by
  obtain ⟨frames, nodes⟩ := o
  obtain ⟨frames', nodes'⟩ := o'
  obtain ⟨hframes, hnodes⟩ := h
  cases hframes with
  | nil => exact hnodes
  | cons hframe hrest => exact hframe

end OutlineAlike

end

end TextTemplate
