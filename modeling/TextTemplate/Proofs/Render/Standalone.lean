import TextTemplate.Proofs.Render.Including

/-!
# Programs that stand alone

A program that looks up no template while rendering holds all that it needs: the templates that it
names by literals are in place, and the filters are in its expressions. From the engine it takes the
builtins and nothing else. So it renders the same on every engine with the same builtins, whatever the
engine has compiled, loaded and kept, and it changes nothing there.
-/

namespace TextTemplate

namespace Render

/-! ## Nodes that look up nothing -/

/-- Every part corresponds to itself, looks up nothing and includes nothing while rendering. -/
def Parts.closed : Parts Side where
  bodies body := ∃ nodes, looksUp nodes = false ∧ body = fun _ => nodes
  cycles id := ∃ n, id = fun _ => n
  blocks block := ∃ b : Block, looksUp b.body = false ∧ block = fun _ => b
  includes := False
  others _ := False

theorem SameForm.closed {node : Node} (h : node.looksUp = false) :
    SameForm Parts.closed fun _ => node := by
  cases node with
  | text text => exact .text _
  | print escape body => exact .print _ _
  | loop names items tag body fallback =>
      rw [Node.looksUp, Bool.or_eq_false_iff] at h
      exact .loop _ _ _ ⟨body, h.1, rfl⟩ ⟨fallback, h.2, rfl⟩
  | emptyMark => exact .emptyMark
  | branch test yes no =>
      rw [Node.looksUp, Bool.or_eq_false_iff] at h
      exact .branch _ ⟨yes, h.1, rfl⟩ ⟨no, h.2, rfl⟩
  | elifMark test => exact .elifMark _
  | elseMark => exact .elseMark
  | cycle id items => exact .cycle _ ⟨id, rfl⟩
  | splice body => exact .splice ⟨body, h, rfl⟩
  | includeBy name => cases h
  | block id title body =>
      have closed : Parts.closed.blocks fun _ => ⟨id, title, body⟩ := ⟨⟨id, title, body⟩, h, rfl⟩
      exact .block closed
  | spaceless body => exact .spaceless ⟨body, h, rfl⟩
  | trim body => exact .trim ⟨body, h, rfl⟩
  | bind name value body => exact .bind _ _ ⟨body, h, rfl⟩

theorem SameForms.closed {nodes : List Node} (h : looksUp nodes = false) :
    SameForms Parts.closed fun _ => nodes := by
  induction nodes with
  | nil => exact .nil
  | cons node rest ih =>
      rw [looksUp, Bool.or_eq_false_iff] at h
      exact .cons (.closed h.1) (ih h.2)

/-! ## Two engines side by side -/

/-- The same render twice, with two memories that stay as they are. The blocks that wait look up
nothing. -/
def standalone (m m' : Memory) : Coupling fun _ => List Block where
  World := Unit
  Later _ _ := True
  ids _ i j := i = j
  chains _ k l := k = l ∧ ∀ block ∈ k, looksUp block.body = false
  memories _ n n' := n = m ∧ n' = m'
  depths i j := i = j
  lax _ := False

namespace standalone

variable {m m' : Memory}

theorem lawful : (standalone m m').Lawful where
  refl _ := trivial
  trans _ _ := trivial
  ids_later _ h := h
  chains_later _ h := h
  ids_iff := by
    rintro _ i j i' j' rfl rfl
    rfl
  depths_succ h := congrArg (· + 1) h
  depths_pred h := congrArg (· - 1) h

variable {c : Side → RenderContext (List Block)} {registry : NameMap (List Block)}
  (blocks : ∀ i, (c i).blocks = .ofRegistry registry)

include blocks

theorem enterCoupled
    (registered : ∀ {title chain}, registry.find? title = some chain →
      ∀ block ∈ chain, looksUp block.body = false)
    {block : Block} (closed : looksUp block.body = false) :
    (standalone m m').EnterCoupled () c fun _ => block := by
  unfold Coupling.EnterCoupled
  rw [blocks, blocks]
  unfold Overriding.ofRegistry chainOf
  dsimp only
  have alone : ∀ other ∈ [block], looksUp other.body = false := by
    intro other hother
    rw [List.mem_singleton.mp hother]
    exact closed
  cases found : registry.find? block.title with
  | none => exact ⟨rfl, alone⟩
  | some chain =>
      dsimp only
      split
      · exact ⟨rfl, registered found⟩
      · split
        · trivial
        · exact ⟨rfl, alone⟩

section

variable {inner : Side → Renderer (List Block)}
  (hinner : ∀ nodes, looksUp nodes = false → (standalone m m').Coupled () fun i => inner i nodes)

include hinner

theorem nextCoupled : (standalone m m').NextCoupled () c inner := by
  rintro _ _ chain _ ⟨rfl, closed⟩
  rw [blocks, blocks]
  refine ⟨⟨rfl, fun block hblock => closed block (List.mem_of_mem_dropLast hblock)⟩, ?_⟩
  cases last : chain.getLast? with
  | none => simp [Overriding.ofRegistry, last]
  | some block =>
      simp only [Overriding.ofRegistry, last]
      exact hinner block.body (closed block (List.mem_of_getLast? last))

theorem nodeSteps
    (clock : (c .left).world.clock = (c .right).world.clock)
    (functions : (c .left).world.functions = (c .right).world.functions)
    (registered : ∀ {title chain}, registry.find? title = some chain →
      ∀ block ∈ chain, looksUp block.body = false) :
    NodeSteps (fun _ act => (standalone m m').Coupled () act) c inner Parts.closed where
  clock := by
    refine ⟨(c .right).world.clock, fun i => ?_⟩
    cases i with
    | left => exact clock
    | right => rfl
  functions := by
    refine ⟨(c .right).world.functions, fun i => ?_⟩
    cases i with
    | left => exact functions
    | right => rfl
  super := .captured (.given (Coupling.coupled_renderNext lawful (nextCoupled blocks hinner)))
  bodies := by
    rintro _ ⟨nodes, closed, rfl⟩
    exact .given (hinner nodes closed)
  cycleAt := by
    rintro _ ⟨id, rfl⟩
    exact .given (.cycleAt lawful rfl)
  putCycle := by
    rintro _ state ⟨id, rfl⟩
    refine .given (.putCycle lawful ?_ state)
    rfl
  blocks := by
    rintro _ ⟨block, closed, rfl⟩
    exact .given (Coupling.coupled_renderBlock lawful (nextCoupled blocks hinner)
      (enterCoupled blocks registered closed))
  includes h := h.elim
  others _ h := h.elim

end

/-- Nodes that look up nothing render the same on both sides. -/
theorem coupled_render (clock : (c .left).world.clock = (c .right).world.clock)
    (functions : (c .left).world.functions = (c .right).world.functions)
    (registered : ∀ {title chain}, registry.find? title = some chain →
      ∀ block ∈ chain, looksUp block.body = false) (depth : Nat) :
    ∀ nodes, looksUp nodes = false → (standalone m m').Coupled () fun i => render (c i) depth nodes := by
  induction depth with
  | zero => exact fun _ _ => .stop _
  | succ depth ih =>
      intro nodes closed
      have steps := nodeSteps blocks ih clock functions registered
      exact .of_uniform lawful (steps.renderAll (.closed closed))

end standalone

end Render

/-! ## Rendering anywhere -/

theorem closed_of_registryOf {root : List Node} (closed : looksUp root = false) {title : String}
    {chain : List Block} (found : (registryOf root).find? title = some chain) :
    ∀ block ∈ chain, looksUp block.body = false := by
  intro block hblock
  rw [← (find?_registryOf.mp found).1] at hblock
  by_contra looks
  rw [Bool.not_eq_false] at looks
  rw [looksUp_of_mem_blocksOf (mem_titled.mp hblock).1 looks] at closed
  cases closed

namespace Program

theorem standalone_outcome {p : Program} (blocks : p.blocks = registryOf p.root)
    (closed : looksUp p.root = false) {e e' : Engine} (builtins : e.builtins = e'.builtins)
    {world world' : World} (clock : world.clock = world'.clock)
    (functions : world.functions = world'.functions) (m m' : Memory) (depth : Nat) (data : Value) :
    ∃ outcome, p.renderWithin e world depth m data = (outcome, m) ∧
      p.renderWithin e' world' depth m' data = (outcome, m') := by
  unfold renderWithin renderIn
  cases dataScope data with
  | error error => exact ⟨_, rfl, rfl⟩
  | ok entries =>
      let c : Render.Side → RenderContext (List Block) :=
        Render.Side.pick (p.context e world) (p.context e' world')
      have same : ∀ i, (c i).blocks = .ofRegistry (registryOf p.root) := by
        intro i
        cases i <;> exact congrArg Overriding.ofRegistry blocks
      have start : (Render.standalone m m').States () (startState e m entries)
          (startState e' m' entries) :=
        ⟨congrArg (Scopes.initial · entries) builtins, .nil, .nil, rfl, rfl, ⟨rfl, rfl⟩, rfl⟩
      have renders := Render.standalone.coupled_render same clock functions
        (closed_of_registryOf closed) depth p.root closed () trivial _ _ start
      change (Render.standalone m m').Matches () (Render.render (p.context e world) depth p.root _)
        (Render.render (p.context e' world') depth p.root _) at renders
      revert renders
      dsimp only
      rcases Render.render (p.context e world) depth p.root (startState e m entries) with
        reason | ⟨result, s⟩ <;>
      rcases Render.render (p.context e' world') depth p.root (startState e' m' entries) with
        reason' | ⟨result', t⟩
      · exact fun _ => ⟨_, rfl, rfl⟩
      · rintro (impossible | impossible)
        · exact impossible.elim
        · cases impossible
      · exact False.elim
      · rintro ⟨rfl, _, -, hst⟩
        obtain ⟨left, right⟩ := hst.memory
        rw [← left, ← right]
        have out : s.out = t.out := hst.out
        cases result with
        | error error => exact ⟨_, rfl, rfl⟩
        | ok _ =>
            refine ⟨.text s.out, rfl, ?_⟩
            rw [out]

/-- A compiled program that looks up no template while rendering comes to the same on any two engines
with the same builtins: the same text or the same error. Their templates, loaders, filters, delimiters
and limits may be any, and so may the files and what was compiled and kept before. The render leaves
both memories as they were. So a filter or a template that is added to the engine or replaced changes
nothing in what the program renders. -/
theorem renders_standalone {e₀ : Engine} {files₀ : FileSystem} {depth₀ : Nat} {source : String}
    {name : Option String} {m₀ n₀ : Memory} {p : Program}
    (run : e₀.compileWithin files₀ depth₀ source name m₀ = (.ok p, n₀))
    (closed : looksUp p.root = false) :
    (∀ (e e' : Engine) (world world' : World), e.builtins = e'.builtins →
      world.clock = world'.clock → world.functions = world'.functions →
      ∀ m m' depth data, ∃ outcome, p.renderWithin e world depth m data = (outcome, m) ∧
        p.renderWithin e' world' depth m' data = (outcome, m')) ∧
    ∀ (e : Engine) (world : World) m depth data,
      (∀ name filter, p.renderWithin (e.addFilter name filter) world depth m data =
        p.renderWithin e world depth m data) ∧
      ∀ files name source e' m', e.addTemplate files name source m = (.ok e', m') →
        (p.renderWithin e' world depth m' data).1 = (p.renderWithin e world depth m data).1 := by
  obtain ⟨-, -, blocks⟩ := Engine.compileWithin_ok run
  refine ⟨?_, ?_⟩
  · intro e e' world world' builtins clock functions m m' depth data
    exact standalone_outcome blocks closed builtins clock functions m m' depth data
  · intro e world m depth data
    constructor
    · intro name filter
      obtain ⟨outcome, before, after⟩ := standalone_outcome blocks closed
        (show e.builtins = (e.addFilter name filter).builtins from rfl) (Eq.refl world.clock)
        (Eq.refl world.functions) m m depth data
      rw [before, after]
    · intro files name source e' m' added
      obtain ⟨q, -, rfl⟩ := Engine.addTemplate_ok added
      obtain ⟨outcome, before, after⟩ := standalone_outcome blocks closed
        (show e.builtins = { e with templates := e.templates.insert name q }.builtins from rfl)
        (Eq.refl world.clock) (Eq.refl world.functions) m m' depth data
      rw [before, after]

/-- The derived template renders its own block on the engine that compiled it, and on one that knows no
template at all. -/
theorem renders_standalone_derived :
    twoTemplates.compileWithin .empty 2 derivedSource none ⟨0, []⟩ =
      (.ok derivedProgram, ⟨4, [("base", ⟨none, baseProgram⟩)]⟩) ∧
    looksUp derivedProgram.root = false ∧
    derivedProgram.renderWithin twoTemplates emptyWorld 4 baseMemory .none = (.text "B", baseMemory) ∧
    derivedProgram.renderWithin (.ofDelimiters .standard) emptyWorld 4 ⟨0, []⟩ .none =
      (.text "B", ⟨0, []⟩) := by
  have closed : looksUp derivedProgram.root = false := rfl
  have here : derivedProgram.renderWithin twoTemplates emptyWorld 4 baseMemory .none =
      (.text "B", baseMemory) := rfl
  obtain ⟨outcome, left, right⟩ := (renders_standalone compile_derivedSource closed).1 twoTemplates
    (.ofDelimiters .standard) emptyWorld emptyWorld rfl rfl rfl baseMemory ⟨0, []⟩ 4 .none
  rw [here] at left
  cases left
  exact ⟨compile_derivedSource, closed, here, right⟩

end Program

end TextTemplate
