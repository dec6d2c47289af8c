import TextTemplate.Proofs.Render.Coupling
import TextTemplate.Proofs.Template.Alike
import TextTemplate.Render.Template

/-!
# Renders of templates alike

Templates that are alike render in step if the blocks that stand for each other are overridden by
blocks that do, and if the include tags that stand for each other, or for nodes put in place, render in
step. What corresponds is a `Pairing`, which also says which blocks the left render may come to.
-/

namespace TextTemplate

namespace Render

/-- Renders nodes at most so many levels deep, each by the given step. -/
def renderBy {χ : Type} (step : Renderer χ → Node → RenderM χ Unit) : Nat → Renderer χ
  | 0, _ => stop .tooDeep
  | depth + 1, nodes => renderAll (step (renderBy step depth)) nodes

theorem render_eq_renderBy {χ : Type} (c : RenderContext χ) (depth : Nat) :
    render c depth = renderBy (renderNode c) depth := by
  induction depth with
  | zero => rfl
  | succ depth ih =>
      funext nodes
      rw [render, renderBy, ih]

/-- The chains of a registry on both sides. -/
abbrev BlockChains : Side → Type := fun _ => List Block

end Render

open Render

/-- What corresponds in two renders with registries. -/
structure Pairing where
  World : Type
  Later : World → World → Prop
  like : World → Likeness
  /-- The blocks that the left side may come to. -/
  known : World → Block → Prop
  memories : World → Memory → Memory → Prop
  /-- Whether the include depths agree. -/
  bounded : Prop
  /-- Whether the right side may go on where the left side stops. -/
  lax : Stop → Prop

namespace Pairing

variable {P : Pairing} {w : P.World}

/-- Nodes that correspond. -/
structure Nodes (P : Pairing) (w : P.World) (nodes nodes' : List Node) : Prop where
  alike : Alike (P.like w) nodes nodes'
  known : ∀ block ∈ blocksOf nodes, P.known w block

/-- Blocks that correspond. -/
structure Blocks (P : Pairing) (w : P.World) (block block' : Block) : Prop where
  alike : BlockAlike (P.like w) block block'
  known : P.known w block
  inside : ∀ other ∈ blocksOf block.body, P.known w other

theorem Blocks.body {block block' : Block} (h : P.Blocks w block block') :
    P.Nodes w block.body block'.body :=
  ⟨h.alike.body, h.inside⟩

/-- The blocks of a title that no inserted template has. -/
theorem Nodes.titled {nodes nodes' : List Node} (h : P.Nodes w nodes nodes') {title : String}
    (hinserts : ∀ target body, (P.like w).inserts target body →
      TextTemplate.titled title (blocksOf body) = []) :
    List.Forall₂ (P.Blocks w) (TextTemplate.titled title (blocksOf nodes))
      (TextTemplate.titled title (blocksOf nodes')) := by
  have known : ∀ block ∈ TextTemplate.titled title (blocksOf nodes),
      P.known w block ∧ ∀ other ∈ blocksOf block.body, P.known w other := by
    intro block hblock
    have hmem := (mem_titled.mp hblock).1
    obtain ⟨before, behind, heq⟩ := exists_blocksOf_eq hmem
    refine ⟨h.known block hmem, fun other hother => h.known other ?_⟩
    rw [heq]
    simp [hother]
  have both := (List.forall₂_and_left _ _).mpr ⟨known, h.alike.titled hinserts⟩
  exact both.imp fun _ _ hblock => ⟨hblock.2, hblock.1.1, hblock.1.2⟩

def coupling (P : Pairing) : Coupling BlockChains where
  World := P.World
  Later := P.Later
  ids w := (P.like w).ids
  chains w := List.Forall₂ (P.Blocks w)
  memories := P.memories
  depths m n := P.bounded → m = n
  lax := P.lax

/-- What has been loaded corresponds. -/
def Loaded (P : Pairing) (v : P.World) :
    Except Error Program × Memory → Except Error Program × Memory → Prop
  | (.ok p, m), (.ok p', m') => ∃ u, P.Later v u ∧ P.memories u m m' ∧ P.Nodes u p.root p'.root
  | (.error e, m), (.error e', m') => e = e' ∧ ∃ u, P.Later v u ∧ P.memories u m m'
  | _, _ => False

/-- The states at the start. -/
theorem start {m m' : Memory} (hm : P.memories w m m') (e : Engine) (data : NameMap Value) :
    P.coupling.States w (Program.startState e m data) (Program.startState e m' data) :=
  ⟨rfl, .nil, .nil, fun _ => rfl, rfl, hm, rfl⟩

end Pairing

namespace Render

/-- Lists that correspond have ends that correspond. -/
theorem forall₂_getLast {α β : Type} {R : α → β → Prop} {k : List α} {l : List β}
    (h : List.Forall₂ R k l) :
    List.Forall₂ R k.dropLast l.dropLast ∧
      (k.getLast? = none ∧ l.getLast? = none ∨
        ∃ a b, k.getLast? = some a ∧ l.getLast? = some b ∧ R a b) := by
  induction h with
  | nil => exact ⟨.nil, .inl ⟨rfl, rfl⟩⟩
  | @cons a b k l hab hrest ih =>
      cases hrest with
      | nil => exact ⟨.nil, .inr ⟨a, b, rfl, rfl, hab⟩⟩
      | cons hfirst hrest =>
          rw [List.dropLast_cons_cons, List.dropLast_cons_cons, List.getLast?_cons_cons,
            List.getLast?_cons_cons]
          exact ⟨.cons hab ih.1, ih.2⟩

/-- What two renders need in order to stay together. -/
structure InStep (P : Pairing) (c : Side → RenderContext (List Block)) : Prop where
  refl : ∀ w, P.Later w w
  trans : ∀ {u v w}, P.Later u v → P.Later v w → P.Later u w
  within : ∀ {v w}, P.Later v w → (P.like v).Within (P.like w)
  known : ∀ {v w block}, P.Later v w → P.known v block → P.known w block
  unique : ∀ {w i j i' j'}, (P.like w).ids i j → (P.like w).ids i' j' → (i = i' ↔ j = j')
  clock : ∃ clock, ∀ i, (c i).world.clock = clock
  functions : ∃ functions, ∀ i, (c i).world.functions = functions
  next : ∀ i chain, (c i).blocks.next chain = (chain.getLast?, chain.dropLast)
  enter : ∀ {w block block'}, P.Blocks w block block' →
    P.coupling.EnterCoupled w c (Side.pick block block')

namespace InStep

variable {P : Pairing} {c : Side → RenderContext (List Block)} (h : InStep P c)

include h

theorem nodes_later {v w : P.World} (hv : P.Later v w) {nodes nodes' : List Node}
    (hnodes : P.Nodes v nodes nodes') : P.Nodes w nodes nodes' :=
  ⟨hnodes.alike.mono (h.within hv), fun block hblock => h.known hv (hnodes.known block hblock)⟩

theorem blocks_later {v w : P.World} (hv : P.Later v w) {block block' : Block}
    (hblock : P.Blocks v block block') : P.Blocks w block block' where
  alike := hblock.alike.mono (h.within hv)
  known := h.known hv hblock.known
  inside other hother := h.known hv (hblock.inside other hother)

theorem lawful : P.coupling.Lawful where
  refl := h.refl
  trans := h.trans
  ids_later hv := (h.within hv).ids
  chains_later hv hchains := hchains.imp fun _ _ => h.blocks_later hv
  ids_iff := h.unique
  depths_succ hdepths := fun b => congrArg (· + 1) (hdepths b)
  depths_pred hdepths := fun b => congrArg (· - 1) (hdepths b)

/-- The renderers of the nodes further inside render nodes that correspond in step. -/
def Inner (_ : InStep P c) (w : P.World) (inner : Side → Renderer (List Block)) : Prop :=
  ∀ {v}, P.Later w v → ∀ {nodes nodes'}, P.Nodes v nodes nodes' →
    P.coupling.Coupled v fun i => inner i (Side.pick nodes nodes' i)

variable {w : P.World} {inner : Side → Renderer (List Block)} (hinner : h.Inner w inner)

include hinner

theorem nextCoupled : P.coupling.NextCoupled w c inner := by
  intro v hv k l hkl
  rw [h.next, h.next]
  obtain ⟨hchains, ⟨hk, hl⟩ | ⟨block, block', hk, hl, hblock⟩⟩ := forall₂_getLast hkl
  · rw [hk, hl]
    exact ⟨hchains, trivial⟩
  · rw [hk, hl]
    have hblock : P.Blocks v block block' := hblock
    refine ⟨hchains, fun u hu => ?_⟩
    exact hinner (h.trans hv hu) (h.nodes_later hu hblock.body) u (h.refl u)

/-- The parts of nodes that correspond. -/
def parts (P : Pairing) (w : P.World) : Parts Side where
  bodies body := P.Nodes w (body .left) (body .right)
  cycles id := (P.like w).ids (id .left) (id .right)
  blocks block := P.Blocks w (block .left) (block .right)
  includes := False
  others _ := False

theorem steps : NodeSteps (fun _ act => P.coupling.Coupled w act) c inner (parts P w) where
  clock := h.clock
  functions := h.functions
  super := .captured (.given (Coupling.coupled_renderNext h.lawful (h.nextCoupled hinner)))
  bodies _ hbody := .given fun v hv => hinner hv (h.nodes_later hv hbody) v (h.refl v)
  cycleAt _ hid := .given (.cycleAt h.lawful hid)
  putCycle _ state hid := .given (.putCycle h.lawful hid state)
  blocks _ hblock := .given
    (Coupling.coupled_renderBlock h.lawful (h.nextCoupled hinner) (h.enter hblock))
  includes h := h.elim
  others _ h := h.elim

/-- An expression has the same value on both sides. -/
theorem coupled_eval (e : Expr) : P.coupling.Coupled w fun i => eval (c i) (inner i) e :=
  .of_uniform h.lawful ((h.steps hinner).eval e)

omit h hinner

/-- Nodes that correspond have one form, include tags aside. -/
theorem sameForm_pick {node node' : Node} (hnode : NodeAlike (P.like w) node node')
    (hknown : ∀ block ∈ node.blocks, P.known w block) (htarget : ∀ target, node ≠ .includeBy target) :
    SameForm (parts P w) (Side.pick node node') := by
  -- A form speaks of a family as a whole; the choice between two nodes is that family only pointwise.
  obtain ⟨family, form, hleft, hright⟩ : ∃ family, SameForm (parts P w) family ∧
      family .left = node ∧ family .right = node' := by
    cases hnode with
    | text text => exact ⟨_, .text text, rfl, rfl⟩
    | print escape body => exact ⟨_, .print escape body, rfl, rfl⟩
    | @loop names items tag body body' fallback fallback' hbody hfallback =>
        have hbody : (parts P w).bodies (Side.pick body body') :=
          ⟨hbody, fun block hblock => hknown block (List.mem_append_left _ hblock)⟩
        have hfallback : (parts P w).bodies (Side.pick fallback fallback') :=
          ⟨hfallback, fun block hblock => hknown block (List.mem_append_right _ hblock)⟩
        exact ⟨_, .loop names items tag hbody hfallback, rfl, rfl⟩
    | emptyMark => exact ⟨_, .emptyMark, rfl, rfl⟩
    | @branch test yes yes' no no' hyes hno =>
        have hyes : (parts P w).bodies (Side.pick yes yes') :=
          ⟨hyes, fun block hblock => hknown block (List.mem_append_left _ hblock)⟩
        have hno : (parts P w).bodies (Side.pick no no') :=
          ⟨hno, fun block hblock => hknown block (List.mem_append_right _ hblock)⟩
        exact ⟨_, .branch test hyes hno, rfl, rfl⟩
    | elifMark test => exact ⟨_, .elifMark test, rfl, rfl⟩
    | elseMark => exact ⟨_, .elseMark, rfl, rfl⟩
    | @cycle id id' items hid =>
        have hid : (parts P w).cycles (Side.pick id id') := hid
        exact ⟨_, .cycle items hid, rfl, rfl⟩
    | @splice body body' hbody =>
        have hbody : (parts P w).bodies (Side.pick body body') := ⟨hbody, hknown⟩
        exact ⟨_, .splice hbody, rfl, rfl⟩
    | includeBy _ => exact absurd rfl (htarget _)
    | inserted _ => exact absurd rfl (htarget _)
    | @block id id' title body body' hid hbody =>
        have hblock : (parts P w).blocks (Side.pick ⟨id, title, body⟩ ⟨id', title, body'⟩) :=
          ⟨⟨hid, rfl, hbody⟩, hknown _ List.mem_cons_self,
            fun block hblock => hknown block (List.mem_cons_of_mem _ hblock)⟩
        exact ⟨_, .block hblock, rfl, rfl⟩
    | @spaceless body body' hbody =>
        have hbody : (parts P w).bodies (Side.pick body body') := ⟨hbody, hknown⟩
        exact ⟨_, .spaceless hbody, rfl, rfl⟩
    | @trim body body' hbody =>
        have hbody : (parts P w).bodies (Side.pick body body') := ⟨hbody, hknown⟩
        exact ⟨_, .trim hbody, rfl, rfl⟩
    | @bind name value body body' hbody =>
        have hbody : (parts P w).bodies (Side.pick body body') := ⟨hbody, hknown⟩
        exact ⟨_, .bind name value hbody, rfl, rfl⟩
  have same : family = Side.pick node node' := by
    funext i
    cases i
    · exact hleft
    · exact hright
  exact same ▸ form

include h hinner

theorem coupled_node {node node' : Node} (hnode : NodeAlike (P.like w) node node')
    (hknown : ∀ block ∈ node.blocks, P.known w block) (htarget : ∀ target, node ≠ .includeBy target) :
    P.coupling.Coupled w fun i => renderNode (c i) (inner i) (Side.pick node node' i) :=
  .of_uniform h.lawful ((h.steps hinner).renderNode (sameForm_pick hnode hknown htarget))

theorem matches_include {s t : RenderState (List Block)} (hst : P.coupling.States w s t)
    {names names' : List String}
    (hmay : (c .left).mayInclude s.includeDepth = (c .right).mayInclude t.includeDepth)
    (hload : (c .right).mayInclude t.includeDepth = .ok () →
      P.Loaded w ((c .left).load names s.memory) ((c .right).load names' t.memory)) :
    P.coupling.Matches w (includeTemplate (c .left) (inner .left) names s)
      (includeTemplate (c .right) (inner .right) names' t) := by
  refine Coupling.matches_includeTemplate h.lawful hst hmay fun hright => ?_
  have loaded := hload hright
  revert loaded
  rcases (c .left).load names s.memory with ⟨e | p, m⟩ <;>
    rcases (c .right).load names' t.memory with ⟨e' | p', m'⟩
  · exact id
  · exact False.elim
  · exact False.elim
  · rintro ⟨u, hu, hm, hroots⟩
    exact ⟨u, hu, hm, fun v hv => hinner hu hroots v hv⟩

/-- Nodes put in place do as the template that is included on the left. -/
theorem matches_inserted {s t : RenderState (List Block)} (hst : P.coupling.States w s t)
    (hbounded : ¬ P.bounded) {names : List String}
    (hmay : (c .left).mayInclude s.includeDepth = .ok ()) {q : Program}
    (hload : P.Loaded w ((c .left).load names s.memory) (.ok q, t.memory)) :
    P.coupling.Matches w (includeTemplate (c .left) (inner .left) names s)
      (inner .right q.root t) := by
  rw [includeTemplate_run, hmay]
  simp only [withInclude, within_run, bind_run, loadTemplate_run]
  revert hload
  rcases (c .left).load names s.memory with ⟨e | p, m⟩
  · exact False.elim
  · rintro ⟨u, hu, hm, hroots⟩
    have entered : P.coupling.States u { s with includeDepth := s.includeDepth + 1, memory := m } t :=
      { hst.later h.lawful hu hm with includeDepth := fun hb => absurd hb hbounded }
    have inside := hinner hu hroots u (h.refl u) _ _ entered
    have right : inner .right q.root t =
        andThen (inner .right q.root t) fun result t' => .ok (result, t') := by
      rcases inner .right q.root t with reason | ⟨result, t'⟩ <;> rfl
    rw [right]
    refine (inside.andThen h.lawful fun result v hv s' t' hst' => ?_).earlier h.lawful hu
    exact ⟨rfl, v, h.refl v, { hst' with includeDepth := fun hb => absurd hb hbounded }⟩

omit hinner

/-- Steps that do what rendering a node does, include tags aside. -/
structure Steps (step : Side → Renderer (List Block) → Node → RenderM (List Block) Unit) : Prop where
  node : ∀ i inner node, (∀ target, node ≠ .includeBy target) →
    step i inner node = renderNode (c i) inner node
  targets : ∀ {w target target'}, (P.like w).targets target target' →
    ∀ {inner : Side → Renderer (List Block)}, h.Inner w inner →
    P.coupling.Coupled w
      (Side.pick (step .left (inner .left) (.includeBy target))
        (step .right (inner .right) (.includeBy target')))
  inserts : ∀ {w target body}, (P.like w).inserts target body →
    ∀ {inner : Side → Renderer (List Block)}, h.Inner w inner →
    P.coupling.Coupled w
      (Side.pick (step .left (inner .left) (.includeBy target)) (inner .right body))

variable {step : Side → Renderer (List Block) → Node → RenderM (List Block) Unit}

theorem coupled_step (hstep : h.Steps step) {w : P.World} {inner : Side → Renderer (List Block)}
    (hinner : h.Inner w inner) {node node' : Node} (hnode : NodeAlike (P.like w) node node')
    (hknown : ∀ block ∈ node.blocks, P.known w block) :
    P.coupling.Coupled w fun i => step i (inner i) (Side.pick node node' i) := by
  by_cases htarget : ∃ target, node = .includeBy target
  · obtain ⟨target, rfl⟩ := htarget
    cases hnode with
    | includeBy htargets => exact hstep.targets htargets hinner
    | @inserted _ body hinserts =>
        have same : (fun i => step i (inner i) (Side.pick (.includeBy target) (.splice body) i)) =
            Side.pick (step .left (inner .left) (.includeBy target)) (inner .right body) := by
          funext i
          cases i with
          | left => rfl
          | right => exact hstep.node .right _ (.splice body) (by simp)
        rw [same]
        exact hstep.inserts hinserts hinner
  · have htarget : ∀ target, node ≠ .includeBy target := fun target same => htarget ⟨target, same⟩
    have htarget' : ∀ target, node' ≠ .includeBy target := by
      rintro target rfl
      cases hnode
      exact htarget _ rfl
    have same : (fun i => step i (inner i) (Side.pick node node' i)) =
        fun i => renderNode (c i) (inner i) (Side.pick node node' i) := by
      funext i
      cases i with
      | left => exact hstep.node .left _ node htarget
      | right => exact hstep.node .right _ node' htarget'
    rw [same]
    exact h.coupled_node hinner hnode hknown htarget

/-- Templates that are alike render in step. -/
theorem coupled (hstep : h.Steps step) (depth : Nat) :
    ∀ {w nodes nodes'}, P.Nodes w nodes nodes' →
      P.coupling.Coupled w fun i => renderBy (step i) depth (Side.pick nodes nodes' i) := by
  induction depth with
  | zero => exact fun _ => Coupling.Coupled.stop .tooDeep
  | succ depth ih =>
      intro w nodes nodes' hnodes
      have hinner : h.Inner w fun i => renderBy (step i) depth := fun _ _ _ hnodes => ih hnodes
      change P.coupling.Coupled w fun i =>
        renderAll (step i (renderBy (step i) depth)) (Side.pick nodes nodes' i)
      obtain ⟨halike, hknown⟩ := hnodes
      induction nodes generalizing nodes' with
      | nil =>
          cases halike
          exact Coupling.Coupled.pure h.lawful ()
      | cons node rest ihrest =>
          cases halike with
          | @cons _ node' _ rest' hnode hrest =>
              have first := h.coupled_step hstep hinner hnode
                fun block hblock => hknown block (List.mem_append_left _ hblock)
              have others := ihrest hrest fun block hblock => hknown block (List.mem_append_right _ hblock)
              have both := Coupling.Coupled.bind h.lawful first fun _ => others
              exact fun v hv s t hst => both v hv s t hst

end InStep

/-! ## Registries -/

/-- What a block starts with, by the blocks of its title in the document. -/
theorem chainOf_registryOf (root : List Node) (block : Block) :
    chainOf (registryOf root) block =
      if (titled block.title (blocksOf root)).head?.map (·.id) = some block.id then
        some (titled block.title (blocksOf root))
      else if (titled block.title (blocksOf root)).any (·.id == block.id) then none
      else some [block] := by
  unfold chainOf
  cases hfind : (registryOf root).find? block.title with
  | some chain =>
      obtain ⟨rfl, -⟩ := find?_registryOf.mp hfind
      simp only [beq_iff_eq]
  | none =>
      have empty : titled block.title (blocksOf root) = [] := by
        by_contra nonempty
        rw [find?_registryOf.mpr ⟨rfl, nonempty⟩] at hfind
        cases hfind
      simp [empty]

section

variable {P : Pairing} {w : P.World}
  (unique : ∀ {i j i' j'}, (P.like w).ids i j → (P.like w).ids i' j' → (i = i' ↔ j = j'))

include unique

theorem any_id_eq {chain chain' : List Block} (h : List.Forall₂ (P.Blocks w) chain chain') {i j : Nat}
    (hids : (P.like w).ids i j) : chain.any (·.id == i) = chain'.any (·.id == j) := by
  induction h with
  | nil => rfl
  | @cons block block' rest rest' hblock _ ih =>
      have same : (block.id == i) = (block'.id == j) := by simp [unique hblock.alike.ids hids]
      rw [List.any_cons, List.any_cons, same, ih]

theorem head?_id_iff {chain chain' : List Block} (h : List.Forall₂ (P.Blocks w) chain chain')
    {i j : Nat} (hids : (P.like w).ids i j) :
    chain.head?.map (·.id) = some i ↔ chain'.head?.map (·.id) = some j := by
  cases h with
  | nil => simp
  | cons hblock _ => simpa using unique hblock.alike.ids hids

/-- Blocks that correspond start with chains that correspond if the registries have such for the
title. -/
theorem chainOf_corresponds {root root' : List Node} {block block' : Block}
    (hblock : P.Blocks w block block')
    (h : List.Forall₂ (P.Blocks w) (titled block.title (blocksOf root))
      (titled block.title (blocksOf root'))) :
    P.coupling.StartCoupled w (chainOf (registryOf root) block) (chainOf (registryOf root') block') := by
  have hids := hblock.alike.ids
  rw [chainOf_registryOf, chainOf_registryOf, ← hblock.alike.title]
  by_cases first : (titled block.title (blocksOf root)).head?.map (·.id) = some block.id
  · rw [if_pos first, if_pos ((head?_id_iff unique h hids).mp first)]
    exact h
  · rw [if_neg first, if_neg ((head?_id_iff unique h hids).not.mp first), any_id_eq unique h hids]
    cases (titled block.title (blocksOf root')).any (·.id == block'.id) with
    | true => trivial
    | false => exact .cons hblock .nil

end

end Render

end TextTemplate
