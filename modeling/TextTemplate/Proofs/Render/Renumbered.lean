import TextTemplate.Proofs.Engine.Renumbering
import TextTemplate.Proofs.Render.Including

/-!
# Renders with other numbers

Cycles and blocks are told apart by their numbers, and nothing else is done with a number. So templates
that differ in nothing but numbers render alike, also while they load others that then differ in
nothing but numbers, and where the memory stands never shows.
-/

namespace TextTemplate

/-- The programs have one name and differ in nothing but numbers. -/
structure Program.Renumbered (rel : Nat → Nat → Prop) (p p' : Program) : Prop where
  name : p.name = p'.name
  root : Alike (numbered rel) p.root p'.root
  blocks : p.blocks = registryOf p.root
  blocks' : p'.blocks = registryOf p'.root

namespace Render

/-- Two renders whose numbers are partners, starting with these. -/
def renumbered (e : Engine) (files : FileSystem) (start : Nat → Nat → Prop) : Pairing where
  World := { rel : Nat → Nat → Prop // Unique rel ∧ ∀ i j, start i j → rel i j }
  Later v w := ∀ i j, v.1 i j → w.1 i j
  like w := numbered w.1
  known _ _ := True
  memories w := e.Renumbers files w.1
  bounded := True
  lax _ := False

section

variable {e : Engine} {files : FileSystem} {start : Nat → Nat → Prop}
  {c : RenderContext (List Block)} {root root' : List Node} (alike : Alike (numbered start) root root')

include alike

theorem renumbered_nodes (w : (renumbered e files start).World) :
    (renumbered e files start).Nodes w root root' :=
  ⟨alike.mono (numbered_within fun hij => w.2.2 _ _ hij), fun _ _ => trivial⟩

/-- Which block overrides which depends on nothing but which numbers are equal. -/
theorem renumbered_inStep :
    InStep (renumbered e files start) (Side.pick (c.of root) (c.of root')) where
  refl _ _ _ := id
  trans h h' i j hij := h' i j (h i j hij)
  within h := numbered_within fun hij => h _ _ hij
  known _ _ := trivial
  unique {w} := w.2.1
  clock := ⟨c.world.clock, by rintro (_ | _) <;> rfl⟩
  functions := ⟨c.world.functions, by rintro (_ | _) <;> rfl⟩
  next := by rintro (_ | _) chain <;> rfl
  enter := by
    intro w block block' hblock
    exact chainOf_corresponds w.2.1 hblock
      ((renumbered_nodes alike w).titled fun _ _ inserted => inserted.elim)

variable (hload : e.LoadsRenumbered files c.load)

omit alike in
include hload in
/-- What is loaded while rendering differs in nothing but numbers. -/
theorem renumbered_loaded {w : (renumbered e files start).World} {m m' : Memory}
    (hm : e.Renumbers files w.1 m m') (names : List String) :
    (renumbered e files start).Loaded w (c.load names m) (c.load names m') := by
  have loaded := hload hm names
  revert loaded
  rcases c.load names m with ⟨error | p, n⟩ <;> rcases c.load names m' with ⟨error' | p', n'⟩
  · rintro (impossible | impossible | ⟨same, v, hv, hn⟩)
    · exact impossible.elim
    · exact impossible.elim
    · exact ⟨same trivial, ⟨v, hn.unique, fun i j hij => hv (w.2.2 i j hij)⟩, fun _ _ hij => hv hij, hn⟩
  · exact id
  · exact id
  · rintro ⟨v, hv, hn, roots⟩
    exact ⟨⟨v, hn.unique, fun i j hij => hv (w.2.2 i j hij)⟩, fun _ _ hij => hv hij, hn, roots,
      fun _ _ => trivial⟩

include hload

theorem renumbered_steps :
    (@renumbered_inStep e files start c root root' alike).Steps
      (fun i => renderNode (Side.pick (c.of root) (c.of root') i)) where
  node _ _ _ _ := rfl
  inserts inserted := inserted.elim
  targets := by
    rintro w target _ rfl inner hinner
    have hstep : InStep (renumbered e files start) (Side.pick (c.of root) (c.of root')) :=
      renumbered_inStep alike
    have act := hstep.coupled_withNames hinner target
      (Side.pick (includeTemplate (c.of root) (inner .left))
        (includeTemplate (c.of root') (inner .right))) fun names v hv s t hst => ?_
    · exact act
    · have hdepth : s.includeDepth = t.includeDepth := hst.includeDepth trivial
      have inside : hstep.Inner v inner := fun hu => hinner (hstep.trans hv hu)
      have hmay : c.mayInclude s.includeDepth = c.mayInclude t.includeDepth := by rw [hdepth]
      exact hstep.matches_include inside hst hmay fun _ => renumbered_loaded hload hst.memory names

theorem report_renumbered {m m' : Memory} (hm : e.Renumbers files start m m') (depth : Nat)
    (data : NameMap Value) :
    report (render (c.of root) depth root (Program.startState e m data)) =
      report (render (c.of root') depth root' (Program.startState e m' data)) := by
  let first : (renumbered e files start).World := ⟨start, hm.unique, fun _ _ => id⟩
  have coupled := (renumbered_inStep alike).coupled (renumbered_steps alike hload) depth
    (renumbered_nodes alike first)
  have memories : (renumbered e files start).memories first m m' := hm
  rw [render_eq_renderBy, render_eq_renderBy]
  exact (coupled first (fun _ _ => id) _ _ (Pairing.start memories e data)).report_eq fun _ _ => id

end

end Render

/-- Programs that differ in nothing but numbers render alike in memories that do. -/
theorem Program.Renumbered.renders {e : Engine} (plain : e.loader.Plain) {world : World}
    {rel : Nat → Nat → Prop} {p p' : Program} (h : p.Renumbered rel p') {m m' : Memory}
    (hm : e.Renumbers world.files rel m m') (depth : Nat) (data : Value) :
    (p.renderWithin e world depth m data).1 = (p'.renderWithin e world depth m' data).1 := by
  rw [renderWithin_outcome, renderWithin_outcome]
  cases dataScope data with
  | error error => rfl
  | ok entries =>
      have hload : e.LoadsRenumbered world.files (p.context e world).load :=
        Engine.loadWith_renumbered plain world.files e.maxIncludeDepth
      dsimp only
      rw [Inclusion.context_eq h.blocks p, Inclusion.context_eq h.blocks' p, h.name,
        Render.report_renumbered h.root hload hm]

namespace Engine

/-- Compiles a source and renders it. -/
def renderSource (e : Engine) (world : World) (depth : Nat) (source : String) (name : Option String)
    (data : Value) (m : Memory) : Outcome × Memory :=
  match e.compile world.files source name m with
  | (.error error, m) => (.failed error, m)
  | (.ok p, m) => p.renderWithin e world depth m data

/-- Compiling comes to the same error, or to programs that differ in nothing but numbers. -/
theorem compile_renumbered {e : Engine} (plain : e.loader.Plain) {files : FileSystem}
    {rel : Nat → Nat → Prop} {m m' : Memory} (h : e.Renumbers files rel m m') (source : String)
    (name : Option String) :
    (∃ error n n', e.compile files source name m = (.error error, n) ∧
      e.compile files source name m' = (.error error, n')) ∨
    ∃ p p' n n' v, e.compile files source name m = (.ok p, n) ∧
      e.compile files source name m' = (.ok p', n') ∧ p.Renumbered v p' ∧ e.Renumbers files v n n' := by
  have compiled := compileWithin_renumbered plain files e.maxIncludeDepth h source name
  revert compiled
  rcases run : e.compile files source name m with ⟨error | p, n⟩ <;>
    rcases run' : e.compile files source name m' with ⟨error' | p', n'⟩ <;>
    rw [compile] at run run' <;> rw [run, run']
  · rintro (impossible | impossible | ⟨same, -⟩)
    · exact impossible.elim
    · exact impossible.elim
    · exact .inl ⟨error, n, n', rfl, by rw [same trivial]⟩
  · exact False.elim
  · exact False.elim
  · rintro ⟨v, -, hn, alike⟩
    obtain ⟨hname, -, hblocks⟩ := compileWithin_ok run
    obtain ⟨hname', -, hblocks'⟩ := compileWithin_ok run'
    exact .inr ⟨p, p', n, n', v, rfl, rfl, ⟨hname.trans hname'.symm, alike, hblocks, hblocks'⟩, hn⟩

theorem renderSource_renumbered {e : Engine} (plain : e.loader.Plain) {world : World}
    {rel : Nat → Nat → Prop} {m m' : Memory} (h : e.Renumbers world.files rel m m') (source : String)
    (name : Option String) (depth : Nat) (data : Value) :
    (e.renderSource world depth source name data m).1 =
      (e.renderSource world depth source name data m').1 := by
  unfold renderSource
  rcases compile_renumbered plain h source name with
    ⟨error, n, n', run, run'⟩ | ⟨p, p', n, n', v, run, run', alike, hn⟩
  · rw [run, run']
  · rw [run, run']
    exact alike.renders plain hn depth data

/-- Where numbering starts never shows, as long as the numbers in use lie below. Without a loader, two
programs that are compiled from one source one after the other render alike from then on. And
programs that differ in nothing but numbers render alike wherever what they load does. -/
theorem numbers_never_show {e : Engine} (plain : e.loader.Plain) {m : Memory} {k k' : Nat}
    (below : ∀ p, Known e (fun _ => False) m p → ∀ id ∈ idsOf p.root, id < k ∧ id < k')
    (world : World) (source : String) (name : Option String) :
    (∀ depth data, (e.renderSource world depth source name data ⟨k, m.cache⟩).1 =
      (e.renderSource world depth source name data ⟨k', m.cache⟩).1) ∧
    (e.loader = .added →
      ∀ {p n}, e.compile world.files source name ⟨k, m.cache⟩ = (.ok p, n) →
        ∃ p' n', e.compile world.files source name n = (.ok p', n') ∧
          ∀ {later later' : Memory}, n'.nextId ≤ later.nextId → n'.nextId ≤ later'.nextId →
            ∀ depth data, (p.renderWithin e world depth later data).1 =
              (p'.renderWithin e world depth later' data).1) ∧
    ∀ {rel} {p p' : Program} {n n'}, p.Renumbered rel p' → e.Renumbers world.files rel n n' →
      ∀ depth data, (p.renderWithin e world depth n data).1 =
        (p'.renderWithin e world depth n' data).1 := by
  refine ⟨fun depth data => ?_, fun hloader p n run => ?_, fun alike hn => alike.renders plain hn⟩
  · exact renderSource_renumbered plain (renumbers_start below) source name depth data
  · have grown : k ≤ n.nextId := compile_nextId hloader run
    have start : e.Renumbers world.files _ ⟨k, m.cache⟩ ⟨n.nextId, m.cache⟩ :=
      renumbers_start fun p known id hid =>
        ⟨(below p known id hid).1, Nat.lt_of_lt_of_le (below p known id hid).1 grown⟩
    have second : e.Renumbers world.files _ ⟨k, m.cache⟩ n :=
      start.of_added hloader (Nat.le_refl _) (Nat.le_refl _)
    rcases compile_renumbered plain second source name with
      ⟨error, _, _, failed, -⟩ | ⟨q, p', n₁, n', v, first, again, alike, hn⟩
    · rw [run] at failed
      cases failed
    · obtain ⟨⟩ : (Except.ok p, n) = (.ok q, n₁) := run.symm.trans first
      have further : n.nextId ≤ n'.nextId := compile_nextId hloader again
      refine ⟨p', n', again, fun later later' depth data => ?_⟩
      exact alike.renders plain (hn.of_added hloader (further.trans later) later') depth data

end Engine

/-! ## A template that extends an added one

The added template has the number 0. -/

/-- An engine without a loader to which the base was added. -/
def engineWithBase : Engine :=
  { Engine.ofDelimiters .standard with templates := [("base", baseProgram)] }

/-- The derived template as it is compiled from this number on. -/
def derivedFrom (k : Nat) : Program where
  serial := k + 1
  name := none
  source := derivedSource
  root := [.splice baseProgram.root, .block k "x" [.text "B"]]
  blocks := registryOf [.splice baseProgram.root, .block k "x" [.text "B"]]

theorem engineWithBase_compile (k : Nat) :
    engineWithBase.compile .empty derivedSource none ⟨k, []⟩ = (.ok (derivedFrom k), ⟨k + 2, []⟩) := by
  have load : ∀ depth, engineWithBase.loadWith .empty (engineWithBase.compileWithin .empty depth)
      ["base"] ⟨k, []⟩ = (.ok baseProgram, ⟨k, []⟩) := fun _ => rfl
  have tokens : engineWithBase.delimiters.tokens derivedSource.toList = _ := tokens_derivedSource
  rw [Engine.compile, show engineWithBase.maxIncludeDepth = 63 + 1 from rfl, Engine.compileWithin,
    Engine.compileSource_run, tokens]
  simp only [TagReader.nodes_run, TagReader.outline_cons, TagReader.action_run,
    reading_extends_base, reading_block_x, reading_text, reading_endblock, load]
  rfl

theorem derivedFrom_renumbered (k k' : Nat) :
    (derivedFrom k).Renumbered (fun i j => i = 0 ∧ j = 0 ∨ i = k ∧ j = k') (derivedFrom k') where
  name := rfl
  root := .cons (.splice (.cons (.block "x" (.inl ⟨rfl, rfl⟩) (.cons (.text "A") .nil)) .nil))
    (.cons (.block "x" (.inr ⟨rfl, rfl⟩) (.cons (.text "B") .nil)) .nil)
  blocks := rfl
  blocks' := rfl

theorem engineWithBase_renumbers (k k' : Nat) (hk : 0 < k) (hk' : 0 < k') :
    engineWithBase.Renumbers .empty (fun i j => i = 0 ∧ j = 0 ∨ i = k ∧ j = k') ⟨k + 2, []⟩
      ⟨k' + 2, []⟩ where
  unique := by
    unfold Unique
    omega
  drawn := by
    rintro i j (⟨rfl, rfl⟩ | ⟨rfl, rfl⟩) <;> simp
  kept name := by
    have kept : ∀ n, engineWithBase.kept .empty ⟨n, []⟩ name =
      if "base" = name then some baseProgram else none := fun _ => rfl
    rw [kept, kept]
    split
    · exact .cons (.block "x" (.inl ⟨rfl, rfl⟩) (.cons (.text "A") .nil)) .nil
    · trivial

theorem Engine.numbers_never_show_derived :
    engineWithBase.loader.Plain ∧
    (∀ p, Known engineWithBase (fun _ => False) ⟨2, []⟩ p → ∀ id ∈ idsOf p.root, id < 2 ∧ id < 7) ∧
    engineWithBase.compile .empty derivedSource none ⟨2, []⟩ = (.ok (derivedFrom 2), ⟨4, []⟩) ∧
    (derivedFrom 2).Renumbered (fun i j => i = 0 ∧ j = 0 ∨ i = 2 ∧ j = 7) (derivedFrom 7) ∧
    engineWithBase.Renumbers .empty (fun i j => i = 0 ∧ j = 0 ∨ i = 2 ∧ j = 7) ⟨4, []⟩ ⟨9, []⟩ ∧
    (engineWithBase.renderSource emptyWorld 4 derivedSource none .none ⟨2, []⟩).1 = .text "B" ∧
    (engineWithBase.renderSource emptyWorld 4 derivedSource none .none ⟨7, []⟩).1 = .text "B" ∧
    ((derivedFrom 2).renderWithin engineWithBase emptyWorld 4 ⟨6, []⟩ .none).1 =
      ((derivedFrom 4).renderWithin engineWithBase emptyWorld 4 ⟨6, []⟩ .none).1 ∧
    ((derivedFrom 2).renderWithin engineWithBase emptyWorld 4 ⟨4, []⟩ .none).1 =
      ((derivedFrom 7).renderWithin engineWithBase emptyWorld 4 ⟨9, []⟩ .none).1 := by
  have plain : engineWithBase.loader.Plain := .added
  have below : ∀ p, Known engineWithBase (fun _ => False) ⟨2, []⟩ p →
      ∀ id ∈ idsOf p.root, id < 2 ∧ id < 7 := by
    rintro p (held | ⟨name, added⟩ | ⟨_, _, cached, -⟩)
    · exact held.elim
    · have find : engineWithBase.templates.find? name =
        if "base" = name then some baseProgram else none := rfl
      rw [find] at added
      split at added
      · cases added
        decide
      · cases added
    · cases cached
  have alike := derivedFrom_renumbered 2 7
  have memories := engineWithBase_renumbers 2 7 (by decide) (by decide)
  obtain ⟨starts, twice, renumbered⟩ :=
    numbers_never_show plain (m := ⟨2, []⟩) below emptyWorld derivedSource none
  have first : (engineWithBase.renderSource emptyWorld 4 derivedSource none .none ⟨2, []⟩).1 =
      .text "B" := by
    rw [renderSource, show emptyWorld.files = .empty from rfl, engineWithBase_compile]
    rfl
  obtain ⟨_, _, second, same⟩ := twice rfl (engineWithBase_compile 2)
  obtain ⟨⟩ : (Except.ok (derivedFrom 4), (⟨6, []⟩ : Memory)) = (.ok _, _) :=
    (engineWithBase_compile 4).symm.trans second
  exact ⟨plain, below, engineWithBase_compile 2, alike, memories, first,
    (starts 4 .none).symm.trans first, same (Nat.le_refl _) (Nat.le_refl _) 4 .none,
    renumbered alike memories 4 .none⟩

end TextTemplate
