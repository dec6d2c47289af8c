import TextTemplate.Proofs.Render.Depth
import TextTemplate.Proofs.Render.Frame
import TextTemplate.Proofs.Template.Titles
import TextTemplate.Render.Template

/-!
# Renders that end

A block renders where the first definition of its title stands, by a definition that may stand
elsewhere and may enclose the places of further blocks. If no title leads back to itself in this way,
every render ends at some depth. A registry whose blocks are all different has no such title.

The bound is not on the nodes: it is on the include levels that are left, then on the titles along
`Leads`, then on what is left of a chain, and only then on the nodes.
-/

namespace TextTemplate

namespace Render

/-! ## Computations that end -/

section

variable {α β : Type}

/-- The family has a result for the state at some depth. -/
def Ends (act : Family (fun _ : Nat => List Block) α) (s : RenderState (List Block)) : Prop :=
  ∃ depth, act depth s ≠ .error .tooDeep

/-- The innermost block has at most the definitions of `chain` left, and at most `levels` templates
may still be included inside one another. -/
structure Place where
  chain : List Block
  levels : Nat

def Place.Holds (limit : Nat) (p : Place) (s : RenderState (List Block)) : Prop :=
  (∀ left ∈ s.chains.head?, left <+: p.chain) ∧ limit ≤ s.includeDepth + p.levels

theorem Place.Holds.frame {limit : Nat} {p : Place} {s t : RenderState (List Block)}
    (h : p.Holds limit s) (frame : Frame s t) : p.Holds limit t := by
  refine ⟨fun left hleft => ?_, frame.includeDepth ▸ h.2⟩
  have hchains := frame.chains
  cases hs : s.chains with
  | nil => simp_all [Shortened]
  | cons chain chains =>
      rw [hs] at hchains
      obtain ⟨left', hprefix, ht⟩ := hchains
      have : left' = left := by simpa [ht] using hleft
      exact this ▸ hprefix.trans (h.1 chain (by simp [hs]))

theorem exists_goes {γ : Type} {act : Nat → Except Stop γ} {r : γ} (h : act 0 = .ok r) :
    ∃ depth, act depth ≠ .error .tooDeep :=
  ⟨0, by simp [h]⟩

theorem goes_eventually {γ : Type} {act : Nat → Except Stop γ} {r : γ}
    (h : ∀ depth, act depth = .ok r) :
    ∃ depth, ∀ deeper, depth ≤ deeper → act deeper ≠ .error .tooDeep :=
  ⟨0, fun deeper _ => by simp [h]⟩

theorem Ends.eventually {act : Family (fun _ : Nat => List Block) α} {s : RenderState (List Block)}
    (h : Ends act s) (rising : Rising act) :
    ∃ depth, ∀ deeper, depth ≤ deeper → act deeper s ≠ .error .tooDeep := by
  obtain ⟨depth, hdepth⟩ := h
  refine ⟨depth, fun deeper hle => ?_⟩
  rwa [(rising depth deeper hle s).resolve_left hdepth]

/-- Going on at some depth with a result of some other depth comes to an end. -/
theorem Ends.andThen {act : Family (fun _ : Nat => List Block) α} {s : RenderState (List Block)}
    (h : Ends act s) (rising : Rising act)
    {next : Nat → Except Error α → RenderState (List Block) →
      Except Stop (Except Error β × RenderState (List Block))}
    (hnext : ∀ depth result t, act depth s = .ok (result, t) →
      ∃ d, ∀ d', d ≤ d' → next d' result t ≠ .error .tooDeep) :
    ∃ depth, Render.andThen (act depth s) (next depth) ≠ .error .tooDeep := by
  obtain ⟨depth, hdepth⟩ := h
  cases hrun : act depth s with
  | error reason =>
      refine ⟨depth, ?_⟩
      rw [hrun] at hdepth ⊢
      simpa [Render.andThen] using hdepth
  | ok last =>
      obtain ⟨result, t⟩ := last
      obtain ⟨d, hd⟩ := hnext depth result t hrun
      refine ⟨max depth d, ?_⟩
      have same := (rising depth (max depth d) (Nat.le_max_left ..) s).resolve_left hdepth
      rw [same, hrun]
      exact hd _ (Nat.le_max_right ..)

/-- The family ends wherever the innermost block and the includes are in the given situation. -/
structure Terminating (limit : Nat) (p : Place) (act : Family (fun _ : Nat => List Block) α) :
    Prop where
  rising : Rising act
  framed : ∀ depth, Framed (act depth)
  ends : ∀ s, p.Holds limit s → Ends act s

namespace Terminating

variable {limit : Nat} {p : Place} {act : Family (fun _ : Nat => List Block) α}
  {c : RenderContext (List Block)} (hc : Invariant c Frame)

theorem rising_of_uniform (h : Uniform (fun _ act => Terminating limit p act) act) : Rising act :=
  .of_uniform (h.mono fun _ _ hact => hact.rising)

include hc

theorem framed_of_uniform (h : Uniform (fun _ act => Terminating limit p act) act) (depth : Nat) :
    Framed (act depth) :=
  Preserves.of_uniform hc (h.mono fun _ _ hact => hact.framed) depth

theorem of_uniform (h : Uniform (fun _ act => Terminating limit p act) act) :
    Terminating limit p act := by
  refine ⟨rising_of_uniform h, framed_of_uniform hc h, ?_⟩
  induction h with
  | given h => exact h.ends
  | pure a => exact fun _ _ => exists_goes rfl
  | bind hfirst hrest first rest =>
      intro s hs
      simp only [Ends, bind_run]
      -- Both parts end: the second one starts where the first one stopped, at the same place.
      refine (first s hs).andThen (rising_of_uniform hfirst) fun depth result t run => ?_
      cases result with
      | error e => exact goes_eventually fun _ => rfl
      | ok a =>
          have frame := framed_of_uniform hc hfirst depth s _ t run
          exact (rest a t (hs.frame frame)).eventually (rising_of_uniform (hrest a))
  | failWith cause =>
      intro s _
      refine ⟨0, ?_⟩
      simp only [failWith, fail_run]
      split <;> simp
  | tryCatch hfirst hrest first rest =>
      intro s hs
      simp only [Ends, tryCatch_run]
      refine (first s hs).andThen (rising_of_uniform hfirst) fun depth result t run => ?_
      cases result with
      | ok a => exact goes_eventually fun _ => rfl
      | error e =>
          have frame := framed_of_uniform hc hfirst depth s _ t run
          exact (rest e t (hs.frame frame)).eventually (rising_of_uniform (hrest e))
  | scopes => exact fun _ _ => exists_goes rfl
  | write text => exact fun _ _ => exists_goes rfl
  | newIdentity => exact fun _ _ => exists_goes rfl
  | @withScope _ _ scope _ hinside inside =>
      intro s hs
      simp only [Ends, Render.withScope, within_run]
      exact (inside { s with scopes := scope :: s.scopes } hs).andThen
        (rising_of_uniform hinside) fun _ _ _ _ => goes_eventually fun _ => rfl
  | captured hinside inside =>
      intro s hs
      simp only [Ends, captured_run]
      exact (inside { s with out := "" } hs).andThen (rising_of_uniform hinside)
        fun _ _ _ _ => goes_eventually fun _ => rfl

end Terminating

end

/-! ## Nodes -/

section

variable {c : RenderContext (List Block)} {registry : NameMap (List Block)} {limit : Nat}

/-- Rendering the nodes at such a place ends. -/
def NodesEnd (c : RenderContext (List Block)) (limit : Nat) (p : Place) (nodes : List Node) : Prop :=
  ∀ s, p.Holds limit s → Ends (fun depth => render c depth nodes) s

/-- Every definition of the chain ends when it is its turn. -/
def Runs (c : RenderContext (List Block)) (limit levels : Nat) (chain : List Block) : Prop :=
  ∀ left block, left ++ [block] <+: chain → NodesEnd c limit ⟨left, levels⟩ block.body

/-- The parts of nodes that end at the place. -/
def endingParts (c : RenderContext (List Block)) (limit : Nat) (p : Place) : Parts Nat where
  bodies body := ∃ b, body = (fun _ => b) ∧ NodesEnd c limit p b
  cycles id := ∃ n, id = fun _ => n
  blocks block := ∃ b, block = (fun _ => b) ∧
    ∀ chain, c.blocks.enter b = some chain → Runs c limit p.levels chain
  includes := True
  others _ := False

theorem terminating_render {p : Place} {nodes : List Node} (hc : c.blocks = .ofRegistry registry)
    (h : NodesEnd c limit p nodes) : Terminating limit p fun depth => render c depth nodes :=
  ⟨rising_render c nodes, fun depth => Preserves.render (Frame.invariant hc) depth nodes, h⟩

/-- A chain that runs ends with every `super`, also when some of it is used up. -/
theorem terminating_renderNext (hc : c.blocks = .ofRegistry registry) {p : Place}
    (hruns : Runs c limit p.levels p.chain) :
    Terminating limit p fun depth => renderNext c (render c depth) := by
  have hR := Frame.invariant hc
  refine ⟨rising_renderNext c, fun depth => Preserves.renderNext hR (Preserves.render hR depth), ?_⟩
  intro s hs
  cases hchains : s.chains with
  | nil =>
      simp only [Ends, renderNext_nil _ _ hchains]
      exact exists_goes rfl
  | cons left chains =>
      have hprefix : left <+: p.chain := hs.1 left (by simp [hchains])
      simp only [Ends, renderNext_cons _ _ hchains, hc, Overriding.ofRegistry]
      obtain rfl | ⟨init, block, rfl⟩ := left.eq_nil_or_concat
      · exact exists_goes rfl
      · have inside : (⟨init, p.levels⟩ : Place).Holds limit
            { s with scopes := blockScope :: s.scopes, chains := init :: chains } :=
          ⟨fun k hk => by simp_all, hs.2⟩
        simp only [List.concat_eq_append, List.getLast?_append, List.getLast?_singleton,
          Option.some_or, List.dropLast_concat, withScope, within_run]
        exact (hruns init block (by simpa using hprefix) _ inside).andThen
          (rising_render c block.body) fun _ _ _ _ => goes_eventually fun _ => rfl

theorem terminating_renderBlock (hc : c.blocks = .ofRegistry registry) {p : Place} {block : Block}
    (hruns : ∀ chain, c.blocks.enter block = some chain → Runs c limit p.levels chain) :
    Terminating limit p fun depth => renderBlock c (render c depth) block := by
  have hR := Frame.invariant hc
  refine ⟨rising_renderBlock c block,
    fun depth => Preserves.renderBlock hR (Preserves.render hR depth) block, ?_⟩
  intro s hs
  cases henter : c.blocks.enter block with
  | none =>
      simp only [Ends, renderBlock, henter]
      exact exists_goes rfl
  | some chain =>
      have inside : (⟨chain, p.levels⟩ : Place).Holds limit { s with chains := chain :: s.chains } :=
        ⟨fun k hk => by simp_all, hs.2⟩
      simp only [Ends, renderBlock, henter, withChain, within_run]
      have next := terminating_renderNext (p := ⟨chain, p.levels⟩) hc (hruns chain henter)
      exact (next.ends _ inside).andThen next.rising fun _ _ _ _ => goes_eventually fun _ => rfl

theorem endingSteps (hc : c.blocks = .ofRegistry registry) {p : Place}
    (hruns : Runs c limit p.levels p.chain)
    (hincludes : ∀ names, Terminating limit p fun depth => includeTemplate c (render c depth) names) :
    NodeSteps (fun _ act => Terminating limit p act) (fun _ => c) (fun depth => render c depth)
      (endingParts c limit p) where
  clock := ⟨_, fun _ => rfl⟩
  functions := ⟨_, fun _ => rfl⟩
  super := .captured (.given (terminating_renderNext hc hruns))
  bodies := by
    rintro _ ⟨body, rfl, hbody⟩
    exact .given (terminating_render hc hbody)
  cycleAt := by
    rintro _ ⟨id, rfl⟩
    exact .given ⟨.const _, fun _ => Preserves.cycleAt (Frame.invariant hc) id, fun _ _ => exists_goes rfl⟩
  putCycle := by
    rintro _ state ⟨id, rfl⟩
    exact .given ⟨.const _, fun _ => Preserves.putCycle (Frame.invariant hc) id state,
      fun _ _ => exists_goes rfl⟩
  blocks := by
    rintro _ ⟨block, rfl, hblock⟩
    exact .given (terminating_renderBlock hc hblock)
  includes _ names := .given (hincludes names)
  others _ h := h.elim

end

/-! ## Places and chains -/

theorem chainOf_eq_some {registry : NameMap (List Block)} {block : Block} {chain : List Block}
    (h : chainOf registry block = some chain) :
    IsPlace registry block ∧ registry.find? block.title = some chain ∨ chain = [block] := by
  unfold chainOf at h
  split at h
  · next definitions hfind =>
      split at h
      · next first =>
          cases h
          exact .inl ⟨⟨chain, hfind, by simpa using first⟩, hfind⟩
      · split at h
        · cases h
        · cases h
          exact .inr rfl
  · cases h
    exact .inr rfl

section

variable {c : RenderContext (List Block)} {registry : NameMap (List Block)} {limit levels : Nat}

theorem runs_nil : Runs c limit levels [] := by
  intro left block h
  simp at h

theorem Runs.concat {chain : List Block} (h : Runs c limit levels chain) {block : Block}
    (hblock : NodesEnd c limit ⟨chain, levels⟩ block.body) :
    Runs c limit levels (chain ++ [block]) := by
  intro left last hprefix
  rcases List.prefix_concat_iff.mp hprefix with same | inside
  · obtain ⟨rfl, rfl⟩ : left = chain ∧ last = block := by simpa using same
    exact hblock
  · exact h left last inside

/-- Every place among the blocks has a chain that runs. -/
def PlacesRun (c : RenderContext (List Block)) (registry : NameMap (List Block))
    (limit levels : Nat) (blocks : List Block) : Prop :=
  ∀ block ∈ blocks, IsPlace registry block →
    ∀ chain, registry.find? block.title = some chain → Runs c limit levels chain

theorem placesRun_append {first second : List Block} :
    PlacesRun c registry limit levels (first ++ second) ↔
      PlacesRun c registry limit levels first ∧ PlacesRun c registry limit levels second := by
  simp only [PlacesRun, List.mem_append, or_imp, forall_and]

variable (hc : c.blocks = .ofRegistry registry)
  (hincludes : ∀ chain names,
    Terminating limit ⟨chain, levels⟩ fun depth => includeTemplate c (render c depth) names)

include hc hincludes

/-- Nodes that end one by one end together, one level deeper. -/
theorem nodesEnd_of_sameForms {chain : List Block} (hruns : Runs c limit levels chain)
    {nodes : List Node} (h : SameForms (endingParts c limit ⟨chain, levels⟩) fun _ => nodes) :
    NodesEnd c limit ⟨chain, levels⟩ nodes := by
  intro s hs
  have steps := endingSteps hc (p := ⟨chain, levels⟩) hruns (hincludes chain)
  obtain ⟨depth, hdepth⟩ := (Terminating.of_uniform (Frame.invariant hc) (steps.renderAll h)).ends s hs
  exact ⟨depth + 1, hdepth⟩

theorem ending_body {chain : List Block} (hruns : Runs c limit levels chain) {body : List Node}
    (h : SameForms (endingParts c limit ⟨chain, levels⟩) fun _ => body) :
    (endingParts c limit ⟨chain, levels⟩).bodies fun _ => body :=
  ⟨body, rfl, nodesEnd_of_sameForms hc hincludes hruns h⟩

omit hc hincludes

mutual

/-- A block outside of the registry is its only definition, so it ends because what it encloses
does; the other blocks have to be given. -/
theorem node_ends (hc : c.blocks = .ofRegistry registry)
    (hincludes : ∀ chain names,
      Terminating limit ⟨chain, levels⟩ fun depth => includeTemplate c (render c depth) names)
    {chain : List Block} (hruns : Runs c limit levels chain) :
    ∀ node : Node, PlacesRun c registry limit levels node.blocks →
      SameForm (endingParts c limit ⟨chain, levels⟩) fun _ => node
  | .text _, _ => .text _
  | .print _ _, _ => .print _ _
  | .loop _ _ _ body fallback, h => .loop _ _ _
      (ending_body hc hincludes hruns
        (nodes_end hc hincludes hruns body (placesRun_append.mp h).1))
      (ending_body hc hincludes hruns
        (nodes_end hc hincludes hruns fallback (placesRun_append.mp h).2))
  | .emptyMark, _ => .emptyMark
  | .branch _ yes no, h => .branch _
      (ending_body hc hincludes hruns
        (nodes_end hc hincludes hruns yes (placesRun_append.mp h).1))
      (ending_body hc hincludes hruns
        (nodes_end hc hincludes hruns no (placesRun_append.mp h).2))
  | .elifMark _, _ => .elifMark _
  | .elseMark, _ => .elseMark
  | .cycle id _, _ => .cycle _ ⟨id, rfl⟩
  | .splice body, h =>
      .splice (ending_body hc hincludes hruns (nodes_end hc hincludes hruns body h))
  | .includeBy _, _ => .includeBy _ trivial
  | .block id title body, h => by
      have alone : NodesEnd c limit ⟨[], levels⟩ body :=
        nodesEnd_of_sameForms hc hincludes runs_nil
          (nodes_end hc hincludes runs_nil body fun b hb => h b (List.mem_cons_of_mem _ hb))
      have hblock : (endingParts c limit ⟨chain, levels⟩).blocks fun _ => ⟨id, title, body⟩ := by
        refine ⟨_, rfl, fun entered henter => ?_⟩
        rw [hc] at henter
        -- Either the registry has the chain of the block, or the block is its only definition.
        rcases chainOf_eq_some henter with ⟨place, hfind⟩ | rfl
        · exact h _ List.mem_cons_self place _ hfind
        · exact runs_nil.concat alone
      exact .block hblock
  | .spaceless body, h =>
      .spaceless (ending_body hc hincludes hruns (nodes_end hc hincludes hruns body h))
  | .trim body, h =>
      .trim (ending_body hc hincludes hruns (nodes_end hc hincludes hruns body h))
  | .bind _ _ body, h =>
      .bind _ _ (ending_body hc hincludes hruns (nodes_end hc hincludes hruns body h))

theorem nodes_end (hc : c.blocks = .ofRegistry registry)
    (hincludes : ∀ chain names,
      Terminating limit ⟨chain, levels⟩ fun depth => includeTemplate c (render c depth) names)
    {chain : List Block} (hruns : Runs c limit levels chain) :
    ∀ nodes : List Node, PlacesRun c registry limit levels (blocksOf nodes) →
      SameForms (endingParts c limit ⟨chain, levels⟩) fun _ => nodes
  | [], _ => .nil
  | node :: rest, h =>
      .cons (node_ends hc hincludes hruns node (placesRun_append.mp h).1)
        (nodes_end hc hincludes hruns rest (placesRun_append.mp h).2)

end

include hc hincludes

/-- A chain runs if the places that its definitions enclose do. -/
theorem runs_of_places {chain : List Block}
    (h : ∀ block ∈ chain, PlacesRun c registry limit levels (blocksOf block.body)) :
    Runs c limit levels chain := by
  induction chain using List.reverseRecOn with
  | nil => exact runs_nil
  | append_singleton chain block ih =>
      have before := ih fun b hb => h b (List.mem_append_left _ hb)
      refine before.concat (nodesEnd_of_sameForms hc hincludes before ?_)
      exact nodes_end hc hincludes before _ (h block (by simp))

/-- Every place runs: the induction is on the titles along `Leads`. -/
theorem places_run (hacyclic : Acyclic registry) (title : String) :
    ∀ chain, registry.find? title = some chain → Runs c limit levels chain := by
  induction title using hacyclic.wellFounded.induction with
  | _ title ih =>
    intro chain hfind
    refine runs_of_places hc hincludes fun definition hmem block hblock place inner hinner => ?_
    exact ih block.title ⟨chain, definition, block, hfind, hmem, hblock, rfl, place⟩ inner hinner

theorem nodesEnd_of_acyclic (hacyclic : Acyclic registry) (chain : List Block)
    (nodes : List Node) : NodesEnd c limit ⟨chain, levels⟩ nodes := by
  have places : ∀ blocks, PlacesRun c registry limit levels blocks :=
    fun _ block _ _ => places_run hc hincludes hacyclic block.title
  have hruns : Runs c limit levels chain := runs_of_places hc hincludes fun _ _ => places _
  exact nodesEnd_of_sameForms hc hincludes hruns (nodes_end hc hincludes hruns nodes (places _))

end

/-! ## Includes -/

section

variable {c : RenderContext (List Block)} {registry : NameMap (List Block)} {limit : Nat}
  (hc : c.blocks = .ofRegistry registry)

include hc

theorem terminating_includeTemplate {p : Place} {names : List String}
    (h : ∀ s, p.Holds limit s →
      (∃ cause, c.mayInclude s.includeDepth = .error cause) ∨
        ∃ levels, p.levels = levels + 1 ∧ ∀ nodes, NodesEnd c limit ⟨p.chain, levels⟩ nodes) :
    Terminating limit p fun depth => includeTemplate c (render c depth) names := by
  have hR := Frame.invariant hc
  refine ⟨rising_includeTemplate c names,
    fun depth => Preserves.includeTemplate hR (Preserves.render hR depth) names, ?_⟩
  intro s hs
  simp only [Ends, includeTemplate_run]
  cases hmay : c.mayInclude s.includeDepth with
  | error cause =>
      refine ⟨0, ?_⟩
      simp only [failWith, fail_run]
      split <;> simp
  | ok _ =>
      obtain ⟨cause, hfails⟩ | ⟨levels, hlevels, hnodes⟩ := h s hs
      · rw [hmay] at hfails
        cases hfails
      -- The include uses up one of the levels that are left.
      · have entered : (⟨p.chain, levels⟩ : Place).Holds limit
            { s with includeDepth := s.includeDepth + 1 } :=
          ⟨hs.1, by have := hs.2; simp only [hlevels] at this ⊢; omega⟩
        have load : Terminating limit ⟨p.chain, levels⟩ fun _ => loadTemplate c names := by
          refine ⟨.const _, fun _ => Preserves.loadTemplate hR names, fun s _ => ⟨0, ?_⟩⟩
          simp only [loadTemplate_run, fail_run]
          split
          · simp
          · split <;> simp
        have loaded : Terminating limit ⟨p.chain, levels⟩ fun depth =>
            loadTemplate c names >>= fun template => render c depth template.root :=
          .of_uniform hR (.bind (.given load) fun template =>
            .given (terminating_render hc (hnodes template.root)))
        simp only [withInclude, within_run]
        exact (loaded.ends _ entered).andThen loaded.rising fun _ _ _ _ => goes_eventually fun _ => rfl

/-- The induction on the include levels that are left. -/
theorem nodesEnd (hlimit : ∀ depth, limit ≤ depth → ∃ cause, c.mayInclude depth = .error cause)
    (hacyclic : Acyclic registry) (p : Place) (nodes : List Node) : NodesEnd c limit p nodes := by
  obtain ⟨chain, levels⟩ := p
  induction levels generalizing chain nodes with
  | zero =>
      refine nodesEnd_of_acyclic hc (fun chain names => ?_) hacyclic chain nodes
      exact terminating_includeTemplate hc fun s hs => .inl (hlimit _ hs.2)
  | succ levels ih =>
      refine nodesEnd_of_acyclic hc (fun chain names => ?_) hacyclic chain nodes
      exact terminating_includeTemplate hc fun s _ => .inr ⟨levels, rfl, fun nodes => ih nodes chain⟩

end

end Render

namespace Program

open Render

/-- If no title leads back to itself, every render of the program ends: at some depth it comes to a
text or to an error, unless a filter or a function breaks off, and a greater depth changes nothing.
Templates may include each other without bound while rendering. -/
theorem render_ends (p : Program) (e : Engine) (world : World) (memory : Memory)
    (data : NameMap Value) (h : Acyclic p.blocks) :
    ∃ depth, ∀ deeper, depth ≤ deeper →
      Render.render (p.context e world) deeper p.root (startState e memory data) ≠ .error .tooDeep ∧
      Render.render (p.context e world) deeper p.root (startState e memory data) =
        Render.render (p.context e world) depth p.root (startState e memory data) := by
  have hlimit : ∀ depth, e.maxIncludeDepth ≤ depth →
      ∃ cause, (p.context e world).mayInclude depth = .error cause := fun depth hdepth =>
    ⟨_, if_pos hdepth⟩
  have start : (⟨[], e.maxIncludeDepth⟩ : Place).Holds e.maxIncludeDepth
      (startState e memory data) := ⟨nofun, by simp [startState]⟩
  have hc : (p.context e world).blocks = .ofRegistry p.blocks := rfl
  obtain ⟨depth, hdepth⟩ := nodesEnd hc hlimit h _ p.root _ start
  refine ⟨depth, fun deeper hle => ?_⟩
  have same := render_eq_of_le _ hle _ _ hdepth
  exact ⟨same ▸ hdepth, same⟩

/-- A block that encloses another one and an include by a variable. -/
theorem render_ends_nested :
    let root : List Node :=
      [.block 0 "x" [.block 1 "y" [], .includeBy (.reference ⟨"v", "v", [], []⟩)], .block 2 "x" []]
    Acyclic (registryOf root) ∧
      ∃ depth, ∀ deeper, depth ≤ deeper →
        let p : Program := ⟨3, none, "", root, registryOf root⟩
        let e : Engine := .ofDelimiters .standard
        let world : World := ⟨.empty, ⟨1970, 1, 1, 0, 0, 0, 0, 0⟩, []⟩
        Render.render (p.context e world) deeper root (startState e .initial []) ≠
            .error .tooDeep ∧
          Render.render (p.context e world) deeper root (startState e .initial []) =
            Render.render (p.context e world) depth root (startState e .initial []) := by
  intro root
  have h : Acyclic (registryOf root) :=
    acyclic_of_nodup (by simp [root, blocksOf, Node.blocks])
  exact ⟨h, render_ends ⟨3, none, "", root, registryOf root⟩ (.ofDelimiters .standard)
    ⟨.empty, ⟨1970, 1, 1, 0, 0, 0, 0, 0⟩, []⟩ .initial [] h⟩

end Program

/-! ## A render that never ends

A template is included in front and again inside of a block. Its block is then the place of the
title and its most derived definition, and what it overrides encloses the place. -/

namespace Render

/-- Prints what the block around it overrides. -/
def printSuper : Node := .print true (.chain [.reference ⟨"super", "super", [], []⟩])

def loopingRoot : List Node :=
  [.splice [.block 0 "x" [printSuper]], .block 1 "x" [.splice [.block 0 "x" [printSuper]]]]

/-- The tag goes where the next definition goes. -/
theorem printSuper_stops {χ : Type} {c : RenderContext χ} {inner : Renderer χ} {reason : Stop}
    {s : RenderState χ} {scopes : Scopes} (hscopes : s.scopes = blockScope :: scopes)
    (h : renderNext c inner { s with out := "" } = .error reason) :
    renderNode c inner printSuper s = .error reason := by
  have resolved : s.scopes.resolve "super" = .callable (.shared "super") .super := by
    rw [hscopes]
    rfl
  have called : evalPath c inner ⟨"super", "super", [], []⟩ s = .error reason := by
    rw [evalPath, bind_run, scopes_run]
    simp only [andThen, resolved]
    exact bind_stops _ (tryCatch_stops _ (bind_stops _ (captured_stops h)))
  exact bind_stops _ (bind_stops _ (bind_stops _ called))

section

variable {c : RenderContext (List Block)} (hc : c.blocks = .ofRegistry (registryOf loopingRoot))

include hc

/-- Three levels further inside the same block stands again. -/
theorem loop_step {depth : Nat}
    (ih : ∀ s, render c depth [.block 0 "x" [printSuper]] s = .error .tooDeep)
    (s : RenderState (List Block)) :
    render c (depth + 3) [.block 0 "x" [printSuper]] s = .error .tooDeep := by
  have henter : c.blocks.enter ⟨0, "x", [printSuper]⟩ =
      some [⟨0, "x", [printSuper]⟩, ⟨1, "x", [.splice [.block 0 "x" [printSuper]]]⟩,
        ⟨0, "x", [printSuper]⟩] := by
    rw [hc]
    rfl
  refine bind_stops _ ?_
  simp only [renderNode, renderBlock, henter]
  refine within_stops _ ?_
  rw [renderNext_cons _ _ rfl, hc]
  refine within_stops _ (bind_stops _ (printSuper_stops rfl ?_))
  rw [renderNext_cons _ _ rfl, hc]
  exact within_stops _ (bind_stops _ (ih _))

theorem loop_stops (depth : Nat) (s : RenderState (List Block)) :
    render c depth [.block 0 "x" [printSuper]] s = .error .tooDeep := by
  have multiples : ∀ n s, render c (3 * n) [.block 0 "x" [printSuper]] s = .error .tooDeep := by
    intro n
    induction n with
    | zero => exact fun _ => rfl
    | succ n ih => exact loop_step hc ih
  obtain stops | same := rising_render c [.block 0 "x" [printSuper]] depth (3 * depth) (by omega) s
  · exact stops
  · exact same.symm.trans (multiples depth s)

end

end Render

/-- At every depth the render of this template has no result. -/
theorem Program.looping_unfinished (e : Engine) (world : World) (depth : Nat) (memory : Memory)
    (data : NameMap Value) :
    (Program.mk 2 none "" Render.loopingRoot (registryOf Render.loopingRoot)).renderWithin e world
      depth memory (.map data) = (.unfinished, memory) := by
  let p : Program := ⟨2, none, "", Render.loopingRoot, registryOf Render.loopingRoot⟩
  have stops : Render.render (p.context e world) depth p.root (startState e memory data) =
      .error .tooDeep := by
    cases depth with
    | zero => rfl
    | succ depth => exact Render.bind_stops _ (Render.loop_stops rfl depth _)
  unfold renderWithin renderIn
  simp only [dataScope]
  rw [stops]

end TextTemplate
