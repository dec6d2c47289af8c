import TextTemplate.Proofs.Engine.Session
import TextTemplate.Proofs.Render.Watching

/-!
# Blocks that stand for themselves

A title that a document gives to one block only overrides nothing. Wherever a block of that title
stands, also in a template loaded while rendering, it renders itself: if it is the block of the
document, then because the number of a block tells which one it is.
-/

namespace TextTemplate

/-- Overriding by a registry, where blocks of some titles stand for themselves. -/
def Overriding.sparing (titles : List String) (registry : NameMap (List Block)) :
    Overriding (List Block) where
  enter block := if block.title ∈ titles then some [block] else chainOf registry block
  next chain := (chain.getLast?, chain.dropLast)

/-- The context in which a document overrides no blocks of the titles. -/
def RenderContext.sparing (c : RenderContext (List Block)) (titles : List String) (root : List Node) :
    RenderContext (List Block) :=
  { c with blocks := .sparing titles (registryOf root) }

/-- The number of a block tells which one it is. -/
def Consistent (held : Program → Prop) : Prop :=
  ∀ {p q}, held p → held q → ∀ {b b'}, b ∈ blocksOf p.root → b' ∈ blocksOf q.root →
    b.id = b'.id → b = b'

theorem Sound.consistent {e : Engine} {held : Program → Prop} {pending : Nat → Prop} {m : Memory}
    (h : Sound e held pending m) : Consistent held :=
  fun hp hq => h.same (.inl hp) (.inl hq)

namespace Render

theorem chainOf_absent {root : List Node} {block : Block}
    (h : titled block.title (blocksOf root) = []) : chainOf (registryOf root) block = some [block] := by
  rw [chainOf_registryOf, h]
  rfl

/-- A document that has none of the titles overrides none of their blocks anyway. -/
theorem RenderContext.sparing_eq (c : RenderContext (List Block)) {titles : List String}
    {root : List Node} (h : ∀ title ∈ titles, titled title (blocksOf root) = []) :
    c.sparing titles root = c.of root := by
  have same : Overriding.sparing titles (registryOf root) = .ofRegistry (registryOf root) := by
    unfold Overriding.sparing Overriding.ofRegistry
    congr 1
    funext block
    split
    · next hmem => exact (chainOf_absent (h _ hmem)).symm
    · rfl
  unfold RenderContext.sparing RenderContext.of
  rw [same]

/-- A block starts with itself if no other one of its title stands in the document. -/
theorem chainOf_of_once {held : Program → Prop} (hheld : Consistent held) {p q : Program} (hp : held p)
    (hq : held q) {block : Block} (hblock : block ∈ blocksOf q.root)
    (once : (titled block.title (blocksOf p.root)).length ≤ 1) :
    chainOf (registryOf p.root) block = some [block] := by
  rw [chainOf_registryOf]
  match hchain : titled block.title (blocksOf p.root) with
  | [] => rfl
  | [only] =>
      have listed : only ∈ titled block.title (blocksOf p.root) := by
        rw [hchain]
        exact List.mem_singleton_self only
      have honly : only ∈ blocksOf p.root := (mem_titled.mp listed).1
      by_cases same : only.id = block.id
      · have : only = block := hheld hp hq honly hblock same
        simp [this]
      · simp [same]
  | _ :: _ :: _ =>
      rw [hchain] at once
      simp at once

/-- A render beside the same one where some blocks are spared. -/
def sparing (e : Engine) (p : Program) : Pairing where
  World := { held : Program → Prop // held p ∧ Consistent held }
  Later v w := ∀ q, v.1 q → w.1 q
  like _ := .strict
  known w block := ∃ q, w.1 q ∧ block ∈ blocksOf q.root
  memories w m m' := m = m' ∧ Sound e w.1 (fun _ => False) m
  bounded := True
  lax _ := False

section

variable {e : Engine} {p : Program} {titles : List String} {c : RenderContext (List Block)}

theorem sparing_nodes {w : (sparing e p).World} {q : Program} (hq : w.1 q) :
    (sparing e p).Nodes w q.root q.root :=
  ⟨.refl (fun _ => rfl) fun _ _ => rfl, fun _ hblock => ⟨q, hq, hblock⟩⟩

theorem sparing_inStep
    (once : ∀ title ∈ titles, (titled title (blocksOf p.root)).length ≤ 1) :
    InStep (sparing e p) (Side.pick (c.of p.root) (c.sparing titles p.root)) where
  refl _ _ := id
  trans h h' q hq := h' q (h q hq)
  within _ := ⟨id, id, id⟩
  known h := fun ⟨q, hq, hblock⟩ => ⟨q, h q hq, hblock⟩
  unique := by
    rintro _ i j i' j' rfl rfl
    rfl
  clock := ⟨c.world.clock, by rintro (_ | _) <;> rfl⟩
  functions := ⟨c.world.functions, by rintro (_ | _) <;> rfl⟩
  next := by rintro (_ | _) chain <;> rfl
  enter := by
    intro w block block' hblock
    change (sparing e p).coupling.StartCoupled w (chainOf (registryOf p.root) block)
      (if block'.title ∈ titles then some [block'] else chainOf (registryOf p.root) block')
    rw [← hblock.alike.title]
    by_cases hmem : block.title ∈ titles
    · obtain ⟨q, hq, hknown⟩ := hblock.known
      rw [if_pos hmem, chainOf_of_once w.2.2 w.2.1 hq hknown (once _ hmem)]
      exact .cons hblock .nil
    · rw [if_neg hmem]
      refine chainOf_corresponds ?_ hblock ((sparing_nodes w.2.1).titled fun _ _ => False.elim)
      rintro i j i' j' rfl rfl
      rfl

/-- Loading delivers blocks that are known from then on. -/
theorem sparing_loaded (hload : LoadsFormed e c.load) {w : (sparing e p).World} {m : Memory}
    (hm : Sound e w.1 (fun _ => False) m) (names : List String) :
    (sparing e p).Loaded w (c.load names m) (c.load names m) := by
  have delivered := hload _ _ names m hm
  revert delivered
  rcases c.load names m with ⟨error | q, m'⟩
  · exact fun delivered => ⟨rfl, w, fun _ => id, rfl, delivered.sound⟩
  · intro delivered
    have sound := delivered.holding rfl
    exact ⟨⟨fun r => w.1 r ∨ r = q, .inl w.2.1, sound.consistent⟩, fun _ => .inl, ⟨rfl, sound⟩,
      sparing_nodes (.inr rfl)⟩

theorem sparing_steps (once : ∀ title ∈ titles, (titled title (blocksOf p.root)).length ≤ 1)
    (hload : LoadsFormed e c.load) (k : Mark) (reason : Stop) :
    (sparing_inStep (e := e) (c := c) once).Steps
      fun i => watchedNode (Side.pick (c.of p.root) (c.sparing titles p.root) i) k reason where
  node _ _ _ htarget := watchedNode_of_ne htarget
  inserts := False.elim
  targets := by
    rintro w target _ rfl inner hinner
    have hstep := sparing_inStep (e := e) (c := c) once
    have act := hstep.coupled_withNames hinner target (fun i =>
      includeWatched (Side.pick (c.of p.root) (c.sparing titles p.root) i) k reason (inner i) target)
      fun names v hv s t hst => ?_
    · intro v hv s t hst
      exact act v hv s t hst
    · obtain ⟨hmemory, hsound⟩ : s.memory = t.memory ∧ Sound e v.1 (fun _ => False) s.memory :=
        hst.memory
      have hdepth : s.includeDepth = t.includeDepth := hst.includeDepth trivial
      have hscopes : s.scopes = t.scopes := hst.scopes
      have loaded : (sparing e p).Loaded v (c.load names s.memory) (c.load names t.memory) := by
        rw [← hmemory]
        exact sparing_loaded hload hsound names
      have included := hstep.matches_include (fun hu => hinner (fun q hq => hu q (hv q hq))) hst
        (congrArg _ hdepth) fun _ => loaded
      -- What the watch asks for is the same on both sides.
      have same : passes (c.of p.root) k target names s =
          passes (c.sparing titles p.root) k target names t := by
        simp only [passes, permits, RenderContext.of, RenderContext.sparing, hmemory, hdepth, hscopes]
      unfold includeWatched
      change (sparing e p).coupling.Matches v
        (if passes (c.of p.root) k target names s = true then _ else _)
        (if passes (c.sparing titles p.root) k target names t = true then _ else _)
      rw [same]
      split
      · exact included
      · exact .inr rfl

/-- A watched render comes to the same where it spares blocks of titles that stand once only. -/
theorem report_sparing (hsound : Sound e (fun q => q = p) (fun _ => False) m)
    (once : ∀ title ∈ titles, (titled title (blocksOf p.root)).length ≤ 1)
    (hload : LoadsFormed e c.load) (k : Mark) (reason : Stop) (depth : Nat) (data : NameMap Value) :
    report (renderBy (watchedNode (c.of p.root) k reason) depth p.root
        (Program.startState e m data)) =
      report (renderBy (watchedNode (c.sparing titles p.root) k reason) depth p.root
        (Program.startState e m data)) := by
  let start : (sparing e p).World := ⟨fun q => q = p, rfl, hsound.consistent⟩
  have coupled := (sparing_inStep (e := e) (c := c) once).coupled
    (sparing_steps once hload k reason) depth (sparing_nodes (w := start) rfl)
  have matched := coupled start (fun _ => id) _ _ ((sparing e p).start ⟨rfl, hsound⟩ e data)
  exact matched.report_eq fun _ _ => id

end

end Render

end TextTemplate
