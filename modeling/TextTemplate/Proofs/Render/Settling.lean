import TextTemplate.Proofs.Engine.Keeping
import TextTemplate.Proofs.Render.Sparing

/-!
# Loading while rendering and putting in place

A template can include another one by a literal name, which puts its nodes in place when the template
is compiled, or by a variable, which loads it while rendering.
-/

namespace TextTemplate

namespace Render

/-- Loading while rendering beside a document that has settled templates in place. Some of them stand
for tags that include them. -/
def settling (e : Engine) (files : FileSystem) (m₀ : Memory) (base : String → Nat)
    (start : Nat → Nat → Prop) (inserts : Expr → List Node → Prop) (bounded : Prop) (reason : Stop) :
    Pairing where
  World := { rel : Nat → Nat → Prop // Unique rel ∧ ∀ i j, start i j → rel i j }
  Later v w := ∀ i j, v.1 i j → w.1 i j
  like w := ⟨w.1, (· = ·), inserts⟩
  known _ _ := True
  memories w m _ := e.Keeps files m₀ base (fun _ => False) w.1 (fun _ => False) m
  bounded
  lax := (· = reason)

/-- The context that loads what names come to. -/
noncomputable def settledContext (e : Engine) (files : FileSystem) (m₀ : Memory) (base : String → Nat)
    (mayInclude : Nat → Except Cause Unit) (world : World) : RenderContext (List Block) where
  load := e.still files m₀ (e.settled files m₀ base)
  mayInclude
  world
  blocks := .ofRegistry []

/-- The nodes that stand for tags are those of the settled template with the marked name, whose blocks
have no other titles than these. -/
structure Inserts (e : Engine) (files : FileSystem) (m₀ : Memory) (base : String → Nat) (k : Mark)
    (titles : List String) (inserts : Expr → List Node → Prop) : Prop where
  target : ∀ {target nodes}, inserts target nodes → target = k.target
  titles : ∀ {target nodes}, inserts target nodes → ∀ block ∈ blocksOf nodes, block.title ∈ titles
  found : ∀ {target nodes}, inserts target nodes → ∃ q : Program, nodes = q.root ∧
    e.resolve files m₀ (e.settled files m₀ base) [k.name] [k.name] = .ok q

section

variable {e : Engine} {files : FileSystem} {m₀ : Memory} {base : String → Nat}
  {start : Nat → Nat → Prop} {k : Mark} {inserts : Expr → List Node → Prop} {bounded : Prop}
  {reason : Stop} {mayInclude : Nat → Except Cause Unit} {c : RenderContext (List Block)}
  {titles : List String} {root root' : List Node}

theorem settling_nodes {w : (settling e files m₀ base start inserts bounded reason).World}
    {nodes nodes' : List Node} (h : Alike (numbered w.1) nodes nodes') :
    (settling e files m₀ base start inserts bounded reason).Nodes w nodes nodes' := by
  have within : (numbered w.1).Within
      ((settling e files m₀ base start inserts bounded reason).like w) :=
    ⟨id, id, False.elim⟩
  exact ⟨h.mono within, fun _ _ => trivial⟩

/-- The contexts of the two sides. -/
noncomputable abbrev settlingContexts (e : Engine) (files : FileSystem) (m₀ : Memory)
    (base : String → Nat) (mayInclude : Nat → Except Cause Unit) (c : RenderContext (List Block))
    (titles : List String) (root root' : List Node) : Side → RenderContext (List Block) :=
  Side.pick (c.sparing titles root)
    ((settledContext e files m₀ base mayInclude c.world).sparing titles root')

theorem settling_inStep
    (htitles : ∀ {target nodes}, inserts target nodes → ∀ block ∈ blocksOf nodes, block.title ∈ titles)
    (h : ∀ w, (settling e files m₀ base start inserts bounded reason).Nodes w root root') :
    InStep (settling e files m₀ base start inserts bounded reason)
      (settlingContexts e files m₀ base mayInclude c titles root root') where
  refl _ _ _ := id
  trans h h' i j hij := h' i j (h i j hij)
  within h := ⟨fun hij => h _ _ hij, id, id⟩
  known _ _ := trivial
  unique {w} := w.2.1
  clock := ⟨c.world.clock, by rintro (_ | _) <;> rfl⟩
  functions := ⟨c.world.functions, by rintro (_ | _) <;> rfl⟩
  next := by rintro (_ | _) chain <;> rfl
  enter := by
    intro w block block' hblock
    change (settling e files m₀ base start inserts bounded reason).coupling.StartCoupled w
      (if block.title ∈ titles then some [block] else chainOf (registryOf root) block)
      (if block'.title ∈ titles then some [block'] else chainOf (registryOf root') block')
    rw [← hblock.alike.title]
    by_cases hmem : block.title ∈ titles
    · rw [if_pos hmem, if_pos hmem]
      exact .cons hblock .nil
    · rw [if_neg hmem, if_neg hmem]
      refine chainOf_corresponds w.2.1 hblock ((h w).titled ?_)
      intro target nodes inserted
      -- A block of an inserted template has a spared title, and this title is not spared.
      refine List.filter_eq_nil_iff.mpr fun other hother same => hmem ?_
      rw [← beq_iff_eq.mp same]
      exact htitles inserted other hother

/-- Templates that are loaded are settled, unless the limit of compiling is reached. -/
theorem settling_loaded (hload : e.LoadsSettled files m₀ base (fun _ => False) c.load)
    {w : (settling e files m₀ base start inserts bounded reason).World} {m : Memory}
    (hm : e.Keeps files m₀ base (fun _ => False) w.1 (fun _ => False) m) (names : List String)
    (within : ¬ Limited (c.load names m).1) (m' : Memory) :
    (settling e files m₀ base start inserts bounded reason).Loaded w (c.load names m)
      (e.still files m₀ (e.settled files m₀ base) names m') := by
  have loaded := hload hm names m'
  have later : ∀ rel : Nat → Nat → Prop, (∀ {i j}, w.1 i j → rel i j) → ∀ i j, start i j → rel i j :=
    fun rel hrel i j hij => hrel (w.2.2 i j hij)
  revert loaded within
  dsimp only [Engine.still]
  rcases c.load names m with ⟨error | p, n⟩ <;>
    rcases e.resolve files m₀ (e.settled files m₀ base) names names with error' | p'
  · rintro within (limited | limited | ⟨same, rel, hrel, hm⟩)
    · exact absurd (limited_error.mpr limited) within
    · exact limited.elim
    · exact ⟨same trivial, ⟨rel, hm.unique, later rel hrel⟩, fun _ _ => hrel, hm⟩
  · exact fun within limited => absurd (limited_error.mpr limited) within
  · exact fun _ limited => limited.elim
  · rintro - ⟨rel, hrel, hm, halike⟩
    exact ⟨⟨rel, hm.unique, later rel hrel⟩, fun _ _ => hrel, hm, settling_nodes halike⟩

theorem settling_start (halike : Alike ⟨start, (· = ·), inserts⟩ root root')
    (w : (settling e files m₀ base start inserts bounded reason).World) :
    (settling e files m₀ base start inserts bounded reason).Nodes w root root' := by
  have within : Likeness.Within ⟨start, (· = ·), inserts⟩
      ((settling e files m₀ base start inserts bounded reason).like w) :=
    ⟨fun hij => w.2.2 _ _ hij, id, id⟩
  exact ⟨halike.mono within, fun _ _ => trivial⟩

/-- A watched render comes to what the settled document comes to, unless the watch stops it. -/
theorem report_settling (halike : Alike ⟨start, (· = ·), inserts⟩ root root')
    (hstep : InStep (settling e files m₀ base start inserts bounded reason)
      (settlingContexts e files m₀ base mayInclude c titles root root'))
    {watched : Renderer (List Block) → Node → RenderM (List Block) Unit}
    (hsteps : hstep.Steps (Side.pick watched
      (renderNode ((settledContext e files m₀ base mayInclude c.world).sparing titles root'))))
    {m : Memory} (hm : e.Keeps files m₀ base (fun _ => False) start (fun _ => False) m) (depth : Nat)
    (m' : Memory) (data : NameMap Value)
    (goes : renderBy watched depth root (Program.startState e m data) ≠ .error reason) :
    report (renderBy watched depth root (Program.startState e m data)) =
      report (render ((settledContext e files m₀ base mayInclude c.world).sparing titles root') depth
        root' (Program.startState e m' data)) := by
  let first : (settling e files m₀ base start inserts bounded reason).World :=
    ⟨start, hm.unique, fun _ _ => id⟩
  have coupled := hstep.coupled hsteps depth (settling_start halike first)
  have hstart : (settling e files m₀ base start inserts bounded reason).memories first m m' := hm
  have matched := coupled first (fun _ _ => id) _ _
    (Pairing.start (w := first) hstart e data)
  rw [render_eq_renderBy]
  refine matched.report_eq ?_
  rintro _ hstop rfl
  exact goes hstop

/-! ## Nodes in place of tags -/

theorem settling_steps (hinserts : Inserts e files m₀ base k titles inserts)
    (hstep : InStep (settling e files m₀ base start inserts False reason)
      (settlingContexts e files m₀ base (fun _ => .ok ()) c titles root root'))
    (hload : e.LoadsSettled files m₀ base (fun _ => False) c.load) :
    hstep.Steps (Side.pick (watchedNode (c.sparing titles root) k reason) (renderNode
      ((settledContext e files m₀ base (fun _ => .ok ()) c.world).sparing titles root'))) where
  node := by
    rintro (_ | _) inner node htarget
    · exact watchedNode_of_ne htarget
    · rfl
  targets := by
    rintro w target _ rfl inner hinner
    refine hstep.coupled_withNames hinner target
      (Side.pick (includeWatched (c.sparing titles root) k reason (inner .left) target)
        (includeTemplate
          ((settledContext e files m₀ base (fun _ => .ok ()) c.world).sparing titles root')
          (inner .right))) fun names v hv s t hst => ?_
    refine Coupling.matches_includeWatched rfl target names fun hpasses => ?_
    obtain ⟨hmay, within⟩ := permits_iff.mp (passes_iff.mp hpasses).1
    exact hstep.matches_include (fun hu => hinner fun i j hij => hu i j (hv i j hij)) hst hmay
      fun _ => settling_loaded hload hst.memory names within t.memory
  inserts := by
    intro w target nodes inserted inner hinner v hv s t hst
    obtain rfl := hinserts.target inserted
    obtain ⟨q, rfl, hq⟩ := hinserts.found inserted
    refine Coupling.matches_includeWatched rfl k.target [k.name]
      fun hpasses => ?_
    obtain ⟨hmay, within⟩ := permits_iff.mp (passes_iff.mp hpasses).1
    have loaded : (settling e files m₀ base start inserts False reason).Loaded v _ _ :=
      settling_loaded hload hst.memory [k.name] within t.memory
    -- The name in the tag comes to the template whose nodes stand in its place.
    rw [Engine.still, hq] at loaded
    exact hstep.matches_inserted (fun hu => hinner fun i j hij => hu i j (hv i j hij)) hst id hmay
      loaded

/-- A watched render comes to what the document with settled templates in place comes to. -/
theorem report_settled (hinserts : Inserts e files m₀ base k titles inserts)
    (halike : Alike ⟨start, (· = ·), inserts⟩ root root')
    (hload : e.LoadsSettled files m₀ base (fun _ => False) c.load) {m : Memory}
    (hm : e.Keeps files m₀ base (fun _ => False) start (fun _ => False) m) (depth : Nat)
    (m' : Memory) (data : NameMap Value)
    (goes : renderBy (watchedNode (c.sparing titles root) k reason) depth root
      (Program.startState e m data) ≠ .error reason) :
    report (renderBy (watchedNode (c.sparing titles root) k reason) depth root
        (Program.startState e m data)) =
      report (render ((settledContext e files m₀ base (fun _ => .ok ()) c.world).sparing titles root')
        depth root' (Program.startState e m' data)) := by
  have hstep : InStep (settling e files m₀ base start inserts False reason)
      (settlingContexts e files m₀ base (fun _ => .ok ()) c titles root root') :=
    settling_inStep hinserts.titles (settling_start halike)
  exact report_settling halike hstep (settling_steps hinserts hstep hload) hm depth m' data goes

/-! ## The same tags -/

/-- A render that never reaches the limit of compiling comes to what the settled document comes to. -/
theorem report_shallow_settled (halike : Alike (numbered start) root root')
    (hload : e.LoadsSettled files m₀ base (fun _ => False) c.load) {m : Memory}
    (hm : e.Keeps files m₀ base (fun _ => False) start (fun _ => False) m) (depth : Nat)
    (m' : Memory) (data : NameMap Value)
    (goes : Shallow (c.of root) depth root (Program.startState e m data)) :
    report (render (c.of root) depth root (Program.startState e m data)) =
      report (render ((settledContext e files m₀ base c.mayInclude c.world).of root') depth root'
        (Program.startState e m' data)) := by
  obtain ⟨reason, goes⟩ := goes
  rw [← report_shallow c root depth e m data goes]
  have none : ∀ root : List Node, ∀ title ∈ ([] : List String), titled title (blocksOf root) = [] := by
    intro root title impossible
    cases impossible
  rw [← RenderContext.sparing_eq c (none root)] at goes ⊢
  rw [← RenderContext.sparing_eq _ (none root')]
  have hstep : InStep (settling e files m₀ base start (fun _ _ => False) True reason)
      (settlingContexts e files m₀ base c.mayInclude c [] root root') :=
    settling_inStep False.elim (settling_start halike)
  refine report_settling halike hstep (shallow_steps hstep rfl trivial id id rfl ?_) hm depth m' data
    goes
  exact fun hm names within => settling_loaded hload hm names within _

end

end Render

end TextTemplate
