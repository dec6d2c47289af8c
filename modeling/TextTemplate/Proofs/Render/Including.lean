import TextTemplate.Proofs.Render.Inheritance
import TextTemplate.Proofs.Render.Settling

/-!
# Including by a name and by a variable

A template can include another one by a literal name, which puts its nodes in place when the template
is compiled, or by a variable, which loads it while rendering. The two come to the same if the
included template has no two blocks of one title and shares no title with the template around it.
Without the former they need not: the blocks of a template that is loaded while rendering are not
listed in the registry, so none of them overrides another one.
-/

namespace TextTemplate

/-- A template with a tag that includes another one, read in two ways: with a tag that gives the name
as a literal, and with a tag in its place that gives it by a variable. -/
structure Inclusion (e : Engine) (files : FileSystem) (k : Mark) (m : Memory) where
  /-- Includes by the literal name. -/
  fixed : Program
  fixedMemory : Memory
  /-- Includes by the variable. -/
  dynamic : Program
  dynamicMemory : Memory
  /-- The nodes of the latter with its tag marked. -/
  marked : List Node
  depth : Nat
  before : List Token
  before' : List Token
  behind : List Token
  behind' : List Token
  tag : Token
  tag' : Token
  tokens : e.delimiters.tokens fixed.source.toList = before ++ tag :: behind
  tokens' : e.delimiters.tokens dynamic.source.toList = before' ++ tag' :: behind'
  same_before : List.Forall₂ (fun t t' => t.reading e.filters = t'.reading e.filters) before before'
  same_behind : List.Forall₂ (fun t t' => t.reading e.filters = t'.reading e.filters) behind behind'
  reading : tag.reading e.filters = .ok (.splice [k.name])
  reading' : tag'.reading e.filters = .ok (.action (.add (.includeBy (.reference k.reference))))
  unfiltered : k.reference.filters = []
  compiled : e.compileWithin files (depth + 1) fixed.source fixed.name m = (.ok fixed, fixedMemory)
  compiled' : e.compileWithin files (depth + 1) dynamic.source fixed.name m =
    (.ok dynamic, dynamicMemory)
  read_marked : ∃ m', (TagReader.mk e.filters dynamic.source
      (e.loadWith files (e.compileWithin files depth))).nodesAround before' (.includeBy k.target)
        behind' m = (.ok marked, m')

namespace Render

/-- The watch does not stop the render: the reason that it would stop for is not what comes of it. -/
def Undisturbed (c : RenderContext (List Block)) (k : Mark) (depth : Nat) (root : List Node)
    (s : RenderState (List Block)) : Prop :=
  ∃ reason, renderBy (watchedNode c k reason) depth root s ≠ .error reason

end Render

namespace Inclusion

open Render

variable {e : Engine} {files : FileSystem} {k : Mark} {m : Memory} (T : Inclusion e files k m)

/-- How templates are loaded while the two are compiled. -/
def load (names : List String) : MemoryM Program :=
  e.loadWith files (e.compileWithin files T.depth) names

def reader (source : String) : TagReader := ⟨e.filters, source, T.load⟩

theorem fixed_nodes : ∃ n, (T.reader T.fixed.source).nodes (T.before ++ T.tag :: T.behind) m =
    (.ok T.fixed.root, n) ∧ T.fixedMemory = n.drawn := by
  obtain ⟨n, hnodes, hmemory, -⟩ := Engine.compileSource_ok T.compiled
  rw [T.tokens] at hnodes
  exact ⟨n, hnodes, hmemory⟩

/-- With the tag marked the template is the same, but for the target. -/
theorem marked_nodes : ∃ n,
    (T.reader T.dynamic.source).nodesAround T.before' (.includeBy k.target) T.behind' m =
      (.ok T.marked, n) ∧ T.dynamicMemory = n.drawn ∧ Alike (markedLike k) T.marked T.dynamic.root := by
  obtain ⟨n, hnodes, hmemory, -⟩ := Engine.compileSource_ok T.compiled'
  obtain ⟨n', hmarked⟩ := T.read_marked
  have action : (T.reader T.dynamic.source).action T.tag' =
      pure (.add (.includeBy (.reference k.reference))) := by
    funext m
    rw [TagReader.action_run,
      show T.tag'.reading (T.reader T.dynamic.source).filters = _ from T.reading']
    rfl
  have lawful : (Twins.same (markedLike k)).Lawful (T.reader T.dynamic.source)
      (T.reader T.dynamic.source) :=
    Twins.same_lawful (fun _ => rfl) (markedLike_targets k) rfl
  have both := Twins.corresponds_nodesAround lawful (w := ()) (m := m) rfl
    (Twins.sameSaying_refl rfl T.before')
    (fun _ => show NodeAlike (markedLike k) (.includeBy k.target) (.includeBy (.reference k.reference))
      from .includeBy (.inr ⟨rfl, rfl⟩))
    (Twins.sameSaying_refl rfl T.behind')
  have nodes : (T.reader T.dynamic.source).nodesAround T.before'
      (.includeBy (.reference k.reference)) T.behind' m = (.ok T.dynamic.root, n) := by
    rw [← TagReader.nodes_eq_nodesAround action, ← T.tokens']
    exact hnodes
  rw [nodes, show (T.reader T.dynamic.source).nodesAround T.before' (.includeBy k.target) T.behind' m
    = _ from hmarked] at both
  obtain ⟨_, -, rfl, halike⟩ := both
  exact ⟨n', hmarked, hmemory, halike⟩

/-! ## The settled template -/

/-- Numbers that stand for each other, in a memory that keeps what names come to. -/
def Partners (e : Engine) (files : FileSystem) (m : Memory) (base : String → Nat)
    (rel : Nat → Nat → Prop) (m' : Memory) : Prop :=
  e.Keeps files m base (fun _ => False) rel (fun _ => False) m'

/-- The settled template that has the included one in place. -/
structure Placed (T : Inclusion e files k m) (base : String → Nat) (q : Program) (root : List Node) :
    Prop where
  found : e.resolve files m (e.settled files m base) [k.name] [k.name] = .ok q
  fixed : ∃ rel, Alike (numbered rel) T.fixed.root root ∧ Partners e files m base rel T.fixedMemory
  marked : ∃ rel,
    Alike ⟨rel, (· = ·), fun target nodes => target = k.target ∧ nodes = q.root⟩ T.marked root ∧
      Partners e files m base rel T.dynamicMemory
  pieces : ∃ rel root' front back, Alike (numbered rel) T.marked root' ∧
    piecesOf root = front ++ [.splice q.root] ++ back ∧ piecesOf root' = front ++ [.lookUp] ++ back

theorem Partners.drawn {base : String → Nat} {rel : Nat → Nat → Prop} {m' : Memory}
    (h : Partners e files m base rel m') : Partners e files m base rel m'.drawn :=
  Engine.Keeps.mono (Engine.Keeps.draw h) .inl

/-- The numbers for the template itself. -/
def Room (T : Inclusion e files k m) (j : Nat) : Prop :=
  m.nextId ≤ j ∧ j < m.nextId + (T.before'.length + T.behind'.length + 1)

/-- Reads with settled templates. -/
noncomputable def still (e : Engine) (files : FileSystem) (m : Memory) (base : String → Nat)
    (source : String) : TagReader :=
  ⟨e.filters, source, e.still files m (e.settled files m base)⟩

/-- The tag with the literal name puts the settled template in place. -/
theorem settled_action {base : String → Nat} {q : Program}
    (found : e.resolve files m (e.settled files m base) [k.name] [k.name] = .ok q) :
    (still e files m base T.fixed.source).action T.tag = pure (.add (.splice q.root)) := by
  funext n
  have reading : T.tag.reading (still e files m base T.fixed.source).filters = .ok (.splice [k.name]) :=
    T.reading
  rw [TagReader.action_run, reading]
  dsimp only [still, Engine.still]
  rw [found]
  rfl

/-- The sources around the tags say the same. -/
theorem settled_same {base : String → Nat} {node : Node} {start m' : Memory} {root : List Node}
    (h : (still e files m base T.fixed.source).nodesAround T.before node T.behind start = (.ok root, m')) :
    (still e files m base T.dynamic.source).nodesAround T.before' node T.behind' start =
      (.ok root, m') := by
  have lawful : (Twins.same .strict).Lawful (still e files m base T.fixed.source)
      (still e files m base T.dynamic.source) := Twins.same_lawful (fun _ => rfl) (fun _ => rfl) rfl
  have before : List.Forall₂ ((Twins.same .strict).SameSaying (still e files m base T.fixed.source)
      (still e files m base T.dynamic.source)) T.before T.before' :=
    T.same_before.imp fun _ _ same => ⟨same, False.elim⟩
  have behind : List.Forall₂ ((Twins.same .strict).SameSaying (still e files m base T.fixed.source)
      (still e files m base T.dynamic.source)) T.behind T.behind' :=
    T.same_behind.imp fun _ _ same => ⟨same, False.elim⟩
  have both := Twins.corresponds_nodesAround lawful (w := ()) (m := start) rfl before
    (fun _ => show NodeAlike .strict node node from .refl (fun _ => rfl) fun _ _ => rfl) behind
  rw [h] at both
  obtain ⟨root', hroot', halike⟩ := Twins.same_ok both
  rw [hroot', Alike.eq halike]

section

variable {base : String → Nat} (hapart : e.Apart files m base T.Room) (plain : e.loader.Plain)

include hapart plain

theorem loads_settled : e.LoadsSettled files m base T.Room T.load :=
  Engine.loadWith_settled hapart (Engine.serves_plain plain files) T.depth

theorem reading_lawful (source : String) (inserts : Expr → List Node → Prop) :
    (e.readingTwins files m base T.Room (fun _ => False) inserts m.nextId).Lawful (T.reader source)
      (still e files m base source) :=
  Engine.readingTwins_lawful (T.loads_settled hapart plain) source inserts m.nextId

variable (session : Session e m)

include session

/-- The template that includes by the name is settled. -/
theorem settled_nodes : ∃ root rel m', (still e files m base T.fixed.source).nodes
      (T.before ++ T.tag :: T.behind) ⟨m.nextId, []⟩ = (.ok root, m') ∧
    Alike (numbered rel) T.fixed.root root ∧ Partners e files m base rel T.fixedMemory := by
  obtain ⟨n, hfixed, hmemory⟩ := T.fixed_nodes
  have hkeeps := Engine.keeps_start session.sound hapart fun _ h => h.1
  have both := Twins.corresponds_nodes
    (T.reading_lawful hapart plain T.fixed.source fun _ _ => False)
    (Engine.reading_start hkeeps _ m.nextId)
    (Twins.sameSaying_refl (by rfl) (T.before ++ T.tag :: T.behind))
  have bound := Engine.nodes_still_le (still e files m base T.fixed.source) (fun _ _ => rfl)
    (T.before ++ T.tag :: T.behind) ⟨m.nextId, []⟩
  have length : (T.before ++ T.tag :: T.behind).length = T.before'.length + T.behind'.length + 1 := by
    rw [List.length_append, List.length_cons, T.same_before.length_eq, T.same_behind.length_eq]
    rfl
  rw [length] at bound
  rw [hfixed] at both
  obtain ⟨root, rel, hroot, halike, hpartners⟩ := Engine.settled_of_corresponds hapart both bound
  exact ⟨root, rel, _, Prod.ext hroot rfl, halike, hmemory ▸ Partners.drawn hpartners⟩

/-- A tag that adds a node stands for the node in the settled template. -/
theorem settled_nodesAround (inserts : Expr → List Node → Prop) {node : Node}
    (hnode : ∀ rel, NodeAlike ⟨rel, (· = ·), inserts⟩ (.includeBy k.target) node) :
    ∃ root rel m', (still e files m base T.dynamic.source).nodesAround T.before' node T.behind'
        ⟨m.nextId, []⟩ = (.ok root, m') ∧
      Alike ⟨rel, (· = ·), inserts⟩ T.marked root ∧ Partners e files m base rel T.dynamicMemory := by
  obtain ⟨n, hmarked, hmemory, -⟩ := T.marked_nodes
  have hkeeps := Engine.keeps_start session.sound hapart fun _ h => h.1
  have both := Twins.corresponds_nodesAround
    (T.reading_lawful hapart plain T.dynamic.source inserts)
    (Engine.reading_start hkeeps inserts m.nextId) (Twins.sameSaying_refl (by rfl) T.before')
    (fun v => hnode _) (Twins.sameSaying_refl (by rfl) T.behind')
  have bound := Engine.nodesAround_still_le (still e files m base T.dynamic.source) (fun _ _ => rfl)
    T.before' node T.behind' ⟨m.nextId, []⟩
  change _ ≤ m.nextId + T.before'.length + T.behind'.length at bound
  rw [hmarked] at both
  obtain ⟨root, rel, hroot, halike, hpartners⟩ := Engine.settled_of_corresponds hapart both
    (Nat.le_trans bound (by omega))
  exact ⟨root, rel, _, Prod.ext hroot rfl, halike, hmemory ▸ Partners.drawn hpartners⟩

/-- A settled template has the included one in place. -/
theorem exists_placed {q : Program} {depth : Nat} {m' : Memory}
    (found : e.loadWith files (e.compileWithin files depth) [k.name] m = (.ok q, m')) :
    ∃ q' rel root, Alike (numbered rel) q.root q'.root ∧ T.Placed base q' root := by
  -- What the name comes to.
  have hkeeps := Engine.keeps_start session.sound hapart fun _ h => h.1
  have hfound := Engine.loadWith_settled hapart (Engine.serves_plain plain files) depth hkeeps [k.name] m
  rw [found] at hfound
  dsimp only [Engine.still] at hfound
  cases hq : e.resolve files m (e.settled files m base) [k.name] [k.name] with
  | error error =>
      rw [hq] at hfound
      exact hfound.elim
  | ok q' =>
      rw [hq] at hfound
      obtain ⟨rel, -, -, hincluded⟩ := hfound
      obtain ⟨root, rel₁, n₁, hroot, hfixed⟩ := T.settled_nodes hapart plain session
      rw [TagReader.nodes_eq_nodesAround (T.settled_action hq)] at hroot
      have hroot := T.settled_same hroot
      -- With the nodes in place the marked template is this one, and without it is around them.
      obtain ⟨root₂, rel₂, n₂, hroot₂, hmarked⟩ := T.settled_nodesAround hapart plain session
        (fun target nodes => target = k.target ∧ nodes = q'.root) fun _ => .inserted ⟨rfl, rfl⟩
      obtain ⟨root₃, rel₃, n₃, hroot₃, hplain, -⟩ := T.settled_nodesAround hapart plain session
        (fun _ _ => False) fun _ => .includeBy rfl
      obtain rfl : root = root₂ := by
        rw [hroot] at hroot₂
        exact Except.ok.inj (Prod.ext_iff.mp hroot₂).1
      obtain ⟨front, back, hpieces, hpieces₃⟩ := TagReader.pieces_nodesAround hroot hroot₃
      exact ⟨q', rel, root, hincluded, hq, ⟨rel₁, hfixed⟩, ⟨rel₂, hmarked⟩,
        ⟨rel₃, root₃, front, back, hplain, hpieces, hpieces₃⟩⟩

end

/-! ## Titles -/

section

variable {base : String → Nat} {q q' : Program} {root : List Node} {rel : Nat → Nat → Prop}
  (placed : T.Placed base q' root) (hq : Alike (numbered rel) q.root q'.root)

include T

/-- The template around the tag has no block of the titles of the included one. -/
theorem marked_absent (apart : ∀ block ∈ blocksOf q.root, ∀ other ∈ blocksOf T.dynamic.root,
    block.title ≠ other.title) :
    ∀ title ∈ (blocksOf q.root).map (·.title), titled title (blocksOf T.marked) = [] := by
  intro title htitle
  obtain ⟨block, hblock, rfl⟩ := List.mem_map.mp htitle
  obtain ⟨_, -, -, halike⟩ := T.marked_nodes
  have empty : titled block.title (blocksOf T.dynamic.root) = [] :=
    List.filter_eq_nil_iff.mpr fun other hother same =>
      apart block hblock other hother (beq_iff_eq.mp same).symm
  refine List.eq_nil_of_length_eq_zero ?_
  rw [halike.length_titled (fun _ _ => id), empty]
  rfl

include placed hq

/-- Each title of the included template has one block in the template that has it in place. -/
theorem fixed_once (distinct : ((blocksOf q.root).map (·.title)).Nodup)
    (apart : ∀ block ∈ blocksOf q.root, ∀ other ∈ blocksOf T.dynamic.root,
      block.title ≠ other.title) :
    ∀ title ∈ (blocksOf q.root).map (·.title), (titled title (blocksOf T.fixed.root)).length ≤ 1 := by
  intro title htitle
  obtain ⟨_, hfixed, -⟩ := placed.fixed
  obtain ⟨_, around, front, back, hmarked, hpieces, hpieces'⟩ := placed.pieces
  have outside : (titled title (blocksOf around)).length = 0 := by
    rw [← hmarked.length_titled (fun _ _ => id), T.marked_absent apart title htitle]
    rfl
  have inside : (titled title (blocksOf q'.root)).length ≤ 1 := by
    rw [← hq.length_titled (fun _ _ => id)]
    exact length_titled_le_one distinct title
  rw [hfixed.length_titled (fun _ _ => id), length_titled_splice hpieces hpieces', outside,
    Nat.zero_add]
  exact inside

omit placed T

/-- The settled template has the same titles. -/
theorem mem_titles : ∀ block ∈ blocksOf q'.root, block.title ∈ (blocksOf q.root).map (·.title) := by
  intro block hblock
  have length := hq.length_titled (fun _ _ => id) block.title
  have hmem : block ∈ titled block.title (blocksOf q'.root) := mem_titled.mpr ⟨hblock, rfl⟩
  have nonempty : titled block.title (blocksOf q.root) ≠ [] := by
    intro empty
    rw [empty] at length
    exact List.ne_nil_of_mem hmem (List.eq_nil_of_length_eq_zero length.symm)
  obtain ⟨other, hother⟩ := List.exists_mem_of_ne_nil _ nonempty
  obtain ⟨hother, same⟩ := mem_titled.mp hother
  exact List.mem_map.mpr ⟨other, hother, same⟩

end

/-! ## Renders -/

/-- What the engine needs to render with a document. -/
theorem context_eq {p : Program} (hblocks : p.blocks = registryOf p.root) (p' : Program) (world : World) :
    p.context e world = (p'.context e world).of p.root := by
  unfold Program.context RenderContext.of
  rw [hblocks]

section

variable (session : Session e m) (plain : e.loader.Plain) {q : Program} {depth : Nat} {m' : Memory}
  (found : e.loadWith files (e.compileWithin files depth) [k.name] m = (.ok q, m'))
  (distinct : ((blocksOf q.root).map (·.title)).Nodup)
  (apart : ∀ block ∈ blocksOf q.root, ∀ other ∈ blocksOf T.dynamic.root, block.title ≠ other.title)

include session plain found distinct apart

theorem report_eq (world : World) (depth : Nat) (data : NameMap Value)
    (hfixed : Undisturbed (T.fixed.context e world) k depth T.fixed.root
      (Program.startState e T.fixedMemory data))
    (hmarked : Undisturbed ((T.dynamic.context e world).of T.marked) k depth T.marked
      (Program.startState e T.dynamicMemory data)) :
    report (render (T.fixed.context e world) depth T.fixed.root
        (Program.startState e T.fixedMemory data)) =
      report (render (T.dynamic.context e world) depth T.dynamic.root
        (Program.startState e T.dynamicMemory data)) := by
  obtain ⟨base, hapart⟩ := e.exists_apart files m (T.before'.length + T.behind'.length + 1)
  obtain ⟨q', rel, root, hq, placed⟩ := T.exists_placed hapart plain session found
  have hload : e.LoadsSettled files m base (fun _ => False) (T.dynamic.context e world).load :=
    Engine.loadWith_settled (hapart.mono fun _ => False.elim)
      (Engine.serves_plain plain world.files) e.maxIncludeDepth
  have hinserts : Inserts e files m base k ((blocksOf q.root).map (·.title))
      fun target nodes => target = k.target ∧ nodes = q'.root := {
    target := fun inserted => inserted.1
    titles := fun inserted => inserted.2 ▸ mem_titles hq
    found := fun inserted => ⟨q', inserted.2, placed.found⟩ }
  have reads : ∀ {start : Nat → Nat → Prop},
      (numbered start).Within ⟨start, (· = ·), fun target nodes => target = k.target ∧ nodes = q'.root⟩ :=
    ⟨id, id, False.elim⟩
  obtain ⟨_, -, -, -, fixed_blocks⟩ := Engine.compileSource_ok T.compiled
  obtain ⟨_, -, -, -, dynamic_blocks⟩ := Engine.compileSource_ok T.compiled'
  rw [context_eq fixed_blocks T.dynamic] at hfixed ⊢
  -- The template with the other one in place: its blocks override none of the blocks of that one.
  have fixed : report (render ((T.dynamic.context e world).of T.fixed.root) depth T.fixed.root
        (Program.startState e T.fixedMemory data)) =
      report (render ((settledContext e files m base (fun _ => .ok ()) world).sparing
        ((blocksOf q.root).map (·.title)) root) depth root (Program.startState e m data)) := by
    obtain ⟨reason, goes⟩ := hfixed
    obtain ⟨start, halike, hpartners⟩ := placed.fixed
    have watched := report_watched (.refl (markedLike_targets k) fun _ _ => rfl) T.unfiltered depth e
      T.fixedMemory data goes
    have spared := report_sparing (c := T.dynamic.context e world) (session.holding T.compiled)
      (T.fixed_once placed hq distinct apart) (Engine.load_delivers world.files) k reason depth data
    rw [← watched, spared]
    refine report_settled hinserts (halike.mono reads) hload hpartners depth m data ?_
    exact fun stopped => goes (report_eq_error.mp (spared.trans (report_eq_error.mpr stopped)))
  -- The template that loads the other one.
  have dynamic : report (render ((T.dynamic.context e world).of T.dynamic.root) depth T.dynamic.root
        (Program.startState e T.dynamicMemory data)) =
      report (render ((settledContext e files m base (fun _ => .ok ()) world).sparing
        ((blocksOf q.root).map (·.title)) root) depth root (Program.startState e m data)) := by
    obtain ⟨reason, goes⟩ := hmarked
    obtain ⟨start, halike, hpartners⟩ := placed.marked
    obtain ⟨_, -, -, hmarkedLike⟩ := T.marked_nodes
    have watched := report_watched hmarkedLike T.unfiltered depth e T.dynamicMemory data goes
    have spared := RenderContext.sparing_eq (T.dynamic.context e world) (T.marked_absent apart)
    rw [← spared] at goes watched
    rw [← watched]
    exact report_settled hinserts halike hload hpartners depth m data goes
  rw [fixed, context_eq dynamic_blocks T.dynamic, dynamic]

end

end Inclusion

/-- What a render of a program with the name comes to. -/
def outcomeOf (name : Option String) : Except Stop (Except Error String) → Outcome
  | .error _ => .unfinished
  | .ok (.ok text) => .text text
  | .ok (.error error) => .failed (error.named name)

theorem Program.renderWithin_outcome (p : Program) (e : Engine) (world : World) (depth : Nat)
    (memory : Memory) (data : Value) :
    (p.renderWithin e world depth memory data).1 =
      match dataScope data with
      | .error error => .failed error
      | .ok data => outcomeOf p.name
          (Render.report (Render.render (p.context e world) depth p.root (startState e memory data))) := by
  unfold renderWithin renderIn
  cases dataScope data with
  | error error => rfl
  | ok data =>
      dsimp only
      rcases Render.render (p.context e world) depth p.root (startState e memory data) with
        reason | ⟨error | _, s⟩ <;> rfl

/-- Including by a literal name and including by a variable come to the same, with all data with which
the variable holds the name wherever the tag is rendered and no limit of including is reached, if the
included template, with all that it extends and includes, has no two blocks of one title and shares no
title with the template around it. -/
theorem Inclusion.renders_alike {e : Engine} {files : FileSystem} {k : Mark} {m : Memory}
    (T : Inclusion e files k m) (session : Session e m) (plain : e.loader.Plain) {q : Program}
    {depth : Nat} {m' : Memory}
    (found : e.loadWith files (e.compileWithin files depth) [k.name] m = (.ok q, m'))
    (distinct : ((blocksOf q.root).map (·.title)).Nodup)
    (apart : ∀ block ∈ blocksOf q.root, ∀ other ∈ blocksOf T.dynamic.root, block.title ≠ other.title)
    (world : World) (depth : Nat) (data : Value)
    (undisturbed : ∀ entries, dataScope data = .ok entries →
      Render.Undisturbed (T.fixed.context e world) k depth T.fixed.root
          (Program.startState e T.fixedMemory entries) ∧
        Render.Undisturbed ((T.dynamic.context e world).of T.marked) k depth T.marked
          (Program.startState e T.dynamicMemory entries)) :
    (T.fixed.renderWithin e world depth T.fixedMemory data).1 =
      (T.dynamic.renderWithin e world depth T.dynamicMemory data).1 := by
  rw [Program.renderWithin_outcome, Program.renderWithin_outcome]
  cases hdata : dataScope data with
  | error error => rfl
  | ok entries =>
      obtain ⟨hfixed, hmarked⟩ := undisturbed entries hdata
      obtain ⟨_, -, -, hname, -⟩ := Engine.compileSource_ok T.compiled'
      dsimp only
      rw [T.report_eq session plain found distinct apart world depth entries hfixed hmarked, hname]

/-! ## A template with one block

The template around it holds nothing but the tag. -/

def fixedSource : String := "\x7b% include 'base' %\x7d"

def dynamicSource : String := "\x7b% include v %\x7d"

def baseMark : Mark := ⟨⟨"v", "v", [], []⟩, "base"⟩

/-- The memory that keeps the base. -/
def baseMemory : Memory := ⟨2, [("base", ⟨none, baseProgram⟩)]⟩

theorem baseMemory_session : Session twoTemplates baseMemory := by
  have session := twoTemplates_session.load .empty 1 ["base"]
  rw [load_base] at session
  exact session

set_option maxRecDepth 10000 in
theorem tokens_fixedSource : twoTemplates.delimiters.tokens fixedSource.toList =
    [⟨.statement, "include 'base'".toList, ⟨0, 20⟩⟩] := by
  cbv

theorem tokens_dynamicSource : twoTemplates.delimiters.tokens dynamicSource.toList =
    [⟨.statement, "include v".toList, ⟨0, 15⟩⟩] := by
  cbv

set_option maxRecDepth 10000 in
theorem reading_include_base (filters : NameMap Filter) (span : Span) :
    Token.reading filters ⟨.statement, "include 'base'".toList, span⟩ = .ok (.splice ["base"]) := by
  cbv

set_option maxRecDepth 10000 in
theorem reading_include_v (filters : NameMap Filter) (span : Span) :
    Token.reading filters ⟨.statement, "include v".toList, span⟩ =
      .ok (.action (.add (.includeBy (.reference baseMark.reference)))) := by
  cbv

def fixedProgram : Program where
  serial := 2
  name := none
  source := fixedSource
  root := [.splice baseProgram.root]
  blocks := registryOf [.splice baseProgram.root]

def dynamicProgram : Program where
  serial := 2
  name := none
  source := dynamicSource
  root := [.includeBy (.reference baseMark.reference)]
  blocks := registryOf [.includeBy (.reference baseMark.reference)]

theorem load_kept_base (depth : Nat) :
    twoTemplates.loadWith .empty (twoTemplates.compileWithin .empty depth) ["base"] baseMemory =
      (.ok baseProgram, baseMemory) :=
  rfl

def baseInclusion : Inclusion twoTemplates .empty baseMark baseMemory where
  fixed := fixedProgram
  fixedMemory := baseMemory.drawn
  dynamic := dynamicProgram
  dynamicMemory := baseMemory.drawn
  marked := [.includeBy baseMark.target]
  depth := 0
  before := []
  before' := []
  behind := []
  behind' := []
  tag := ⟨.statement, "include 'base'".toList, ⟨0, 20⟩⟩
  tag' := ⟨.statement, "include v".toList, ⟨0, 15⟩⟩
  tokens := tokens_fixedSource
  tokens' := tokens_dynamicSource
  same_before := .nil
  same_behind := .nil
  reading := reading_include_base _ _
  reading' := reading_include_v _ _
  unfiltered := rfl
  compiled := by
    rw [Engine.compileWithin, Engine.compileSource_run, show fixedProgram.source = fixedSource from rfl,
      tokens_fixedSource]
    simp only [TagReader.nodes_run, TagReader.outline_cons, TagReader.action_run,
      reading_include_base, load_kept_base]
    rfl
  compiled' := by
    rw [Engine.compileWithin, Engine.compileSource_run,
      show dynamicProgram.source = dynamicSource from rfl, tokens_dynamicSource]
    simp only [TagReader.nodes_run, TagReader.outline_cons, TagReader.action_run, reading_include_v]
    rfl
  read_marked := ⟨baseMemory, rfl⟩

/-- No files, no functions, and midnight for ever. -/
def emptyWorld : World := ⟨.empty, ⟨1970, 1, 1, 0, 0, 0, 0, 0⟩, []⟩

/-- The data that let the variable hold the name. -/
def baseData : NameMap Value := [("v", .string "base")]

theorem undisturbed_fixed : Render.Undisturbed (fixedProgram.context twoTemplates emptyWorld) baseMark 4
    fixedProgram.root (Program.startState twoTemplates baseMemory.drawn baseData) :=
  ⟨.aborted, nofun⟩

theorem undisturbed_marked : Render.Undisturbed
    ((dynamicProgram.context twoTemplates emptyWorld).of baseInclusion.marked) baseMark 4
    baseInclusion.marked (Program.startState twoTemplates baseMemory.drawn baseData) :=
  ⟨.aborted, nofun⟩

theorem Inclusion.renders_alike_base :
    Session twoTemplates baseMemory ∧ twoTemplates.loader.Plain ∧
    twoTemplates.loadWith .empty (twoTemplates.compileWithin .empty 0) ["base"] baseMemory =
      (.ok baseProgram, baseMemory) ∧
    ((blocksOf baseProgram.root).map (·.title)).Nodup ∧
    (∀ block ∈ blocksOf baseProgram.root, ∀ other ∈ blocksOf dynamicProgram.root,
      block.title ≠ other.title) ∧
    (∀ entries, dataScope (.map baseData) = .ok entries →
      Render.Undisturbed (fixedProgram.context twoTemplates emptyWorld) baseMark 4 fixedProgram.root
          (Program.startState twoTemplates baseMemory.drawn entries) ∧
        Render.Undisturbed ((dynamicProgram.context twoTemplates emptyWorld).of baseInclusion.marked)
          baseMark 4 baseInclusion.marked
          (Program.startState twoTemplates baseMemory.drawn entries)) ∧
    (fixedProgram.renderWithin twoTemplates emptyWorld 4 baseMemory.drawn (.map baseData)).1 =
      (dynamicProgram.renderWithin twoTemplates emptyWorld 4 baseMemory.drawn (.map baseData)).1 := by
  have plain : twoTemplates.loader.Plain := .sources _
  have distinct : ((blocksOf baseProgram.root).map (·.title)).Nodup := List.nodup_singleton _
  have apart : ∀ block ∈ blocksOf baseProgram.root, ∀ other ∈ blocksOf dynamicProgram.root,
      block.title ≠ other.title := fun _ _ _ inside => nomatch inside
  have undisturbed : ∀ entries, dataScope (.map baseData) = .ok entries →
      Render.Undisturbed (fixedProgram.context twoTemplates emptyWorld) baseMark 4 fixedProgram.root
          (Program.startState twoTemplates baseMemory.drawn entries) ∧
        Render.Undisturbed ((dynamicProgram.context twoTemplates emptyWorld).of baseInclusion.marked)
          baseMark 4 baseInclusion.marked
          (Program.startState twoTemplates baseMemory.drawn entries) := by
    rintro _ ⟨⟩
    exact ⟨undisturbed_fixed, undisturbed_marked⟩
  exact ⟨baseMemory_session, plain, load_kept_base 0, distinct, apart, undisturbed,
    baseInclusion.renders_alike baseMemory_session plain (load_kept_base 0) distinct apart emptyWorld 4
      (.map baseData) undisturbed⟩

end TextTemplate
