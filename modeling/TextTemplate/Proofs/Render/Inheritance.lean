import TextTemplate.Proofs.Engine.Lineage
import TextTemplate.Proofs.Render.Coupling
import TextTemplate.Proofs.Render.SuperCalls
import TextTemplate.Proofs.Render.Termination

/-!
# Inheritance

Templates that extend each other form a document: the base first, then what each further template
adds. Where the titles are distinct within each template, blocks override each other as the levels of
the document say. `Overriding.ofLevels` spells that out without a registry and without chains: the
first block of a title is its place, and each `super` asks for the definition of the next level below.
`RendersByLevels` says what comes out then, at the place of a title and elsewhere, and from each
`super`; `superCalls_iff` says which definitions the calls in a block find.
-/

namespace TextTemplate

/-! ## Overriding by levels -/

/-- The blocks of a title, the most derived first: one of each level that has the title. -/
def definitions (levels : List (List Node)) (title : String) : List Block :=
  levels.reverse.filterMap fun own => (blocksOf own).find? (·.title == title)

/-- The first block of a title in the document. -/
def placeOf (levels : List (List Node)) (title : String) : Option Block :=
  (levels.flatMap blocksOf).find? (·.title == title)

/-- What is left of a block is its title and how many definitions it was asked for. -/
def Overriding.ofLevels (levels : List (List Node)) : Overriding (String × Nat) where
  enter block :=
    if (placeOf levels block.title).map (·.id) = some block.id then some (block.title, 0) else none
  next := fun (title, asked) => ((definitions levels title)[asked]?, (title, asked + 1))

/-- A title that has a place has a most derived definition. -/
theorem exists_definition {levels : List (List Node)} {title : String} {block : Block}
    (h : placeOf levels title = some block) : ∃ body, (definitions levels title)[0]? = some body := by
  rw [placeOf] at h
  obtain ⟨own, hown, hblock⟩ := List.mem_flatMap.mp (List.mem_of_find?_eq_some h)
  have titled : (block.title == title) = true := by
    simpa using List.find?_some h
  have found : ((blocksOf own).find? (·.title == title)).isSome :=
    List.find?_isSome.mpr ⟨block, hblock, titled⟩
  obtain ⟨body, hbody⟩ := Option.isSome_iff_exists.mp found
  have mem : body ∈ definitions levels title :=
    List.mem_filterMap.mpr ⟨own, List.mem_reverse.mpr hown, hbody⟩
  exact ⟨_, List.getElem?_eq_getElem (List.length_pos_of_mem mem)⟩

/-- The numbers tell the blocks apart, so the number of the first block of a title tells its place. -/
theorem entersAt_iff {levels : List (List Node)} {block : Block}
    (distinct : ((levels.flatMap blocksOf).map (·.id)).Nodup)
    (h : block ∈ levels.flatMap blocksOf) :
    (placeOf levels block.title).map (·.id) = some block.id ↔
      placeOf levels block.title = some block := by
  constructor
  · intro same
    obtain ⟨first, hfirst, hid⟩ := Option.map_eq_some_iff.mp same
    have mem : first ∈ levels.flatMap blocksOf := List.mem_of_find?_eq_some hfirst
    rw [hfirst, List.inj_on_of_nodup_map distinct mem h hid]
  · intro here
    rw [here, Option.map_some]

theorem titled_eq_find? {title : String} {blocks : List Block}
    (h : (blocks.map (·.title)).Nodup) :
    titled title blocks = (blocks.find? (·.title == title)).toList := by
  induction blocks with
  | nil => rfl
  | cons block rest ih =>
      rw [List.map_cons, List.nodup_cons] at h
      by_cases same : block.title = title
      · have others : titled title rest = [] := by
          rw [titled, List.filter_eq_nil_iff]
          intro b hb hsame
          exact h.1 (List.mem_map.mpr ⟨b, hb, by simpa [same] using hsame⟩)
        simpa [titled, same] using others
      · simpa [titled, same] using ih h.2

/-- The registry lists the definitions of a title from the base on. -/
theorem titled_document {levels : List (List Node)}
    (h : ∀ own ∈ levels, ((blocksOf own).map (·.title)).Nodup) (title : String) :
    titled title (levels.flatMap blocksOf) = (definitions levels title).reverse := by
  rw [definitions, List.filterMap_reverse, List.reverse_reverse, titled, List.filter_flatMap,
    List.filterMap_eq_flatMap_toList]
  exact List.flatMap_congr fun own hown => titled_eq_find? (h own hown)

namespace Render

/-! ## The registry and the levels side by side -/

/-- A list of definitions against a title with a count. -/
def LevelChains : Side → Type
  | .left => List Block
  | .right => String × Nat

/-- The definitions that were not asked for yet. -/
def byLevels (levels : List (List Node)) : Coupling LevelChains :=
  .ofChains (fun (chain : List Block) (l : String × Nat) =>
    chain = ((definitions levels l.1).drop l.2).reverse) fun _ => False

/-- One context that overrides by a registry and one that overrides by levels. -/
def levelContexts (c : RenderContext (List Block)) (levels : List (List Node)) :
    (i : Side) → RenderContext (LevelChains i)
  | .left => c
  | .right => { load := c.load, mayInclude := c.mayInclude, world := c.world, blocks := .ofLevels levels }

/-- The blocks of the nodes belong to the document, and the nodes look up nothing. -/
structure Within (root nodes : List Node) : Prop where
  blocks : ∀ block ∈ blocksOf nodes, block ∈ blocksOf root
  complete : looksUp nodes = false

theorem Within.body {root : List Node} (h : looksUp root = false) {block : Block}
    (hblock : block ∈ blocksOf root) : Within root block.body where
  blocks inner hinner := by
    obtain ⟨before, behind, heq⟩ := exists_blocksOf_eq hblock
    rw [heq]
    simp [hinner]
  complete := by
    rw [← Bool.not_eq_true]
    exact fun hbody => by simp [looksUp_of_mem_blocksOf hblock hbody] at h

/-- Parts of the document correspond to themselves. -/
def documentParts (root : List Node) : Parts Side where
  bodies body := ∃ b, body = (fun _ => b) ∧ Within root b
  cycles id := ∃ n, id = fun _ => n
  blocks block := ∃ b, block = (fun _ => b) ∧ b ∈ blocksOf root
  includes := False
  others _ := False

theorem sameForm_document {root : List Node} {node : Node}
    (hblocks : ∀ block ∈ node.blocks, block ∈ blocksOf root) (hcomplete : node.looksUp = false) :
    SameForm (documentParts root) fun _ => node := by
  cases node with
  | text text => exact .text _
  | print escape body => exact .print _ _
  | loop names items tag body fallback =>
      obtain ⟨hbody, hfallback⟩ := Bool.or_eq_false_iff.mp hcomplete
      exact .loop _ _ _
        ⟨body, rfl, fun b hb => hblocks b (List.mem_append_left _ hb), hbody⟩
        ⟨fallback, rfl, fun b hb => hblocks b (List.mem_append_right _ hb), hfallback⟩
  | emptyMark => exact .emptyMark
  | branch test yes no =>
      obtain ⟨hyes, hno⟩ := Bool.or_eq_false_iff.mp hcomplete
      exact .branch _
        ⟨yes, rfl, fun b hb => hblocks b (List.mem_append_left _ hb), hyes⟩
        ⟨no, rfl, fun b hb => hblocks b (List.mem_append_right _ hb), hno⟩
  | elifMark test => exact .elifMark _
  | elseMark => exact .elseMark
  | cycle id items => exact .cycle _ ⟨id, rfl⟩
  | splice body => exact .splice ⟨body, rfl, hblocks, hcomplete⟩
  | includeBy name => cases hcomplete
  | block id title body =>
      have hblock : (documentParts root).blocks fun _ => ⟨id, title, body⟩ :=
        ⟨_, rfl, hblocks _ List.mem_cons_self⟩
      exact .block hblock
  | spaceless body => exact .spaceless ⟨body, rfl, hblocks, hcomplete⟩
  | trim body => exact .trim ⟨body, rfl, hblocks, hcomplete⟩
  | bind name value body => exact .bind _ _ ⟨body, rfl, hblocks, hcomplete⟩

theorem Within.sameForms {root nodes : List Node} (h : Within root nodes) :
    SameForms (documentParts root) fun _ => nodes := by
  induction nodes with
  | nil => exact .nil
  | cons node rest ih =>
      obtain ⟨hnode, hrest⟩ := Bool.or_eq_false_iff.mp h.complete
      exact .cons
        (sameForm_document (fun b hb => h.blocks b (List.mem_append_left _ hb)) hnode)
        (ih ⟨fun b hb => h.blocks b (List.mem_append_right _ hb), hrest⟩)

section

variable {c : RenderContext (List Block)} {levels : List (List Node)} {root : List Node}
  (hc : c.blocks = .ofRegistry (registryOf root))
  (hdocument : blocksOf root = levels.flatMap blocksOf)

theorem mem_of_mem_definitions {title : String} {block : Block}
    (h : block ∈ definitions levels title) : block ∈ levels.flatMap blocksOf := by
  obtain ⟨own, hown, hfind⟩ := List.mem_filterMap.mp h
  exact List.mem_flatMap.mpr ⟨own, List.mem_reverse.mp hown, List.mem_of_find?_eq_some hfind⟩

include hc hdocument

theorem nextCoupled_byLevels {inner : (i : Side) → Renderer (LevelChains i)}
    (hcomplete : looksUp root = false)
    (hinner : ∀ nodes, Within root nodes → (byLevels levels).Coupled () fun i => inner i nodes) :
    (byLevels levels).NextCoupled () (levelContexts c levels) inner := by
  rintro _ _ chain ⟨title, asked⟩ rfl
  have hnext : (levelContexts c levels .left).blocks.next
      ((definitions levels title).drop asked).reverse =
        ((definitions levels title)[asked]?, ((definitions levels title).drop (asked + 1)).reverse) := by
    simp only [levelContexts, hc, Overriding.ofRegistry]
    rw [List.getLast?_reverse, List.head?_drop, List.dropLast_reverse, List.tail_drop]
  refine ⟨congrArg Prod.snd hnext, ?_⟩
  rw [hnext]
  simp only [levelContexts, Overriding.ofLevels]
  cases hfind : (definitions levels title)[asked]? with
  | none => trivial
  | some block =>
      have hblock : block ∈ blocksOf root := by
        rw [hdocument]
        exact mem_of_mem_definitions (List.mem_of_getElem? hfind)
      exact fun v hv s t hst => hinner _ (.body hcomplete hblock) v hv s t hst

theorem enterCoupled_byLevels {block : Block} (h : block ∈ blocksOf root)
    (distinct : ∀ own ∈ levels, ((blocksOf own).map (·.title)).Nodup) :
    (byLevels levels).EnterCoupled () (levelContexts c levels) fun _ => block := by
  have hmem : block ∈ titled block.title (levels.flatMap blocksOf) :=
    mem_titled.mpr ⟨hdocument ▸ h, rfl⟩
  have hfind : (registryOf root).find? block.title =
      some (titled block.title (levels.flatMap blocksOf)) :=
    find?_registryOf.mpr ⟨by rw [hdocument], List.ne_nil_of_mem hmem⟩
  have hplace : (placeOf levels block.title).map (·.id) =
      (titled block.title (levels.flatMap blocksOf)).head?.map (·.id) := by
    rw [placeOf, titled, List.head?_filter]
  have hany : (titled block.title (levels.flatMap blocksOf)).any (·.id == block.id) = true :=
    List.any_eq_true.mpr ⟨block, hmem, by simp⟩
  unfold Coupling.EnterCoupled
  simp only [levelContexts, hc, Overriding.ofRegistry, Overriding.ofLevels, chainOf, hfind, hplace]
  by_cases first : (titled block.title (levels.flatMap blocksOf)).head?.map (·.id) = some block.id
  · simp only [first, beq_self_eq_true, if_true]
    exact titled_document distinct block.title
  · simp [first, hany, Coupling.StartCoupled]

/-- The two sides render the document in step. -/
theorem coupled_byLevels (hcomplete : looksUp root = false)
    (distinct : ∀ own ∈ levels, ((blocksOf own).map (·.title)).Nodup) (depth : Nat)
    (nodes : List Node) (h : Within root nodes) :
    (byLevels levels).Coupled () fun i => render (levelContexts c levels i) depth nodes := by
  induction depth generalizing nodes with
  | zero => exact Coupling.Coupled.stop .tooDeep
  | succ depth ih =>
      have hnext := nextCoupled_byLevels hc hdocument hcomplete ih
      have steps : NodeSteps (fun _ act => (byLevels levels).Coupled () act)
          (levelContexts c levels) (fun i => render (levelContexts c levels i) depth)
          (documentParts root) :=
        { clock := ⟨c.world.clock, by rintro (_ | _) <;> rfl⟩
          functions := ⟨c.world.functions, by rintro (_ | _) <;> rfl⟩
          super := .captured (.given (Coupling.coupled_renderNext Coupling.ofChains.lawful hnext))
          bodies := by
            rintro _ ⟨body, rfl, hbody⟩
            exact .given (ih body hbody)
          cycleAt := by
            rintro _ ⟨id, rfl⟩
            exact .given (.cycleAt Coupling.ofChains.lawful rfl)
          putCycle := by
            rintro _ state ⟨id, rfl⟩
            refine .given (.putCycle Coupling.ofChains.lawful ?_ state)
            rfl
          blocks := by
            rintro _ ⟨block, rfl, hblock⟩
            exact .given (Coupling.coupled_renderBlock Coupling.ofChains.lawful hnext
              (enterCoupled_byLevels hc hdocument hblock distinct))
          includes := fun h => h.elim
          others := fun _ h => h.elim }
      exact Coupling.Coupled.of_uniform Coupling.ofChains.lawful (steps.renderAll h.sameForms)

end

end Render

/-! ## What comes out -/

namespace Render

/-- What blocks and `super` come to if blocks override each other as the levels say. For each block
being rendered the state holds its title and how many of its definitions were taken so far: one for
the body, and one more for each `super`. -/
structure RendersByLevels (levels : List (List Node)) (c : RenderContext (String × Nat))
    (inner : Renderer (String × Nat)) : Prop where
  /-- The first block of a title renders the body of the most derived definition. -/
  place : ∀ {block}, placeOf levels block.title = some block →
    ∃ body, (definitions levels block.title)[0]? = some body ∧
      ∀ s, renderNode c inner (.block block.id block.title block.body) s =
        andThen (inner body.body { s with
            scopes := blockScope :: s.scopes, chains := (block.title, 1) :: s.chains })
          fun result t =>
            .ok (result, { t with scopes := t.scopes.drop 1, chains := t.chains.drop 1 })
  /-- Every other block renders nothing. -/
  elsewhere : ∀ {block}, block ∈ levels.flatMap blocksOf → placeOf levels block.title ≠ some block →
    ∀ s, renderNode c inner (.block block.id block.title block.body) s = .ok (.ok (), s)
  /-- The text of `super` is what the next less derived definition writes. -/
  next : ∀ {title taken body chains s}, s.chains = (title, taken) :: chains →
    (definitions levels title)[taken]? = some body →
      renderSuper c inner s =
        andThen (inner body.body { s with
            scopes := blockScope :: s.scopes, chains := (title, taken + 1) :: chains, out := "" })
          fun result t =>
            .ok (result.map fun _ => t.out, { t with scopes := t.scopes.drop 1, out := s.out })
  /-- The text of `super` is empty once no definition is left. -/
  last : ∀ {title taken chains s}, s.chains = (title, taken) :: chains →
    (definitions levels title)[taken]? = none →
      renderSuper c inner s = .ok (.ok "", { s with chains := (title, taken + 1) :: chains })
  /-- A call of `super` gives its text, or fails with the text of the error inside. -/
  call : ∀ arguments s, callFunction c inner .super arguments s =
    andThen (renderSuper c inner s) fun
      | .ok text, t => .ok (.ok (.ok (.string text)), t)
      | .error e, t => .ok (.ok (.error (.reason e.display)), t)

theorem next_byLevels {levels : List (List Node)} {c : RenderContext (String × Nat)}
    (hc : c.blocks = .ofLevels levels) (title : String) (taken : Nat) :
    c.blocks.next (title, taken) = ((definitions levels title)[taken]?, (title, taken + 1)) := by
  rw [hc]
  rfl

theorem rendersByLevels {levels : List (List Node)} {c : RenderContext (String × Nat)}
    (hc : c.blocks = .ofLevels levels) (distinct : ((levels.flatMap blocksOf).map (·.id)).Nodup)
    (inner : Renderer (String × Nat)) : RendersByLevels levels c inner where
  place {block} here := by
    obtain ⟨body, hbody⟩ := exists_definition here
    have entered : c.blocks.enter block = some (block.title, 0) := by
      rw [hc]
      exact if_pos (by rw [here, Option.map_some])
    refine ⟨body, hbody, fun s => ?_⟩
    rw [renderNode, renderBlock, entered]
    dsimp only
    rw [withChain, within_run, renderNext_cons c inner rfl, next_byLevels hc, hbody]
    dsimp only
    rw [withScope, within_run]
    rcases inner body.body _ with reason | ⟨result, t⟩ <;> rfl
  elsewhere {block} hblock other s := by
    have absent : c.blocks.enter block = none := by
      rw [hc]
      exact if_neg fun same => other ((entersAt_iff distinct hblock).mp same)
    rw [renderNode, renderBlock, absent]
    rfl
  next hchains hbody := by
    rw [renderSuper_cons c inner hchains, next_byLevels hc, hbody]
  last hchains hnone := by
    rw [renderSuper_cons c inner hchains, next_byLevels hc, hnone]
  call arguments s := by
    rw [callFunction, tryCatch_run, bind_run]
    rcases renderSuper c inner s with reason | ⟨_ | text, t⟩ <;> rfl

/-- What so many calls of `super` find one after the other. -/
def nextDefinitions (levels : List (List Node)) (title : String) (taken count : Nat) :
    List (Option Block) :=
  (List.range count).map fun call => (definitions levels title)[taken + call]?

theorem nextDefinitions_succ (levels : List (List Node)) (title : String) (taken count : Nat) :
    nextDefinitions levels title taken (count + 1) =
      (definitions levels title)[taken]? :: nextDefinitions levels title (taken + 1) count := by
  rw [nextDefinitions, List.range_succ_eq_map, List.map_cons, List.map_map]
  congr 1
  refine List.map_congr_left fun call _ => ?_
  simp only [Function.comp, Nat.succ_eq_add_one]
  congr 1
  omega

theorem nextDefinitions_add (levels : List (List Node)) (title : String) (taken count more : Nat) :
    nextDefinitions levels title taken (count + more) =
      nextDefinitions levels title taken count ++
        nextDefinitions levels title (taken + count) more := by
  induction count generalizing taken with
  | zero => simp [nextDefinitions]
  | succ count ih =>
      rw [Nat.add_right_comm, nextDefinitions_succ, nextDefinitions_succ, ih, List.cons_append,
        Nat.add_right_comm taken, Nat.add_assoc taken]

/-- The calls found the definitions of the innermost block one after the other, and the chains count
them. -/
def Finds (levels : List (List Node)) (before after : List (String × Nat))
    (calls : List (Option Block)) : Prop :=
  ∀ title taken chains, before = (title, taken) :: chains →
    calls = nextDefinitions levels title taken calls.length ∧
      after = (title, taken + calls.length) :: chains

theorem Finds.trans {levels : List (List Node)} {before middle after : List (String × Nat)}
    {calls calls' : List (Option Block)} (h : Finds levels before middle calls)
    (h' : Finds levels middle after calls') : Finds levels before after (calls ++ calls') := by
  intro title taken chains around
  obtain ⟨found, left⟩ := h title taken chains around
  obtain ⟨found', left'⟩ := h' _ _ _ left
  rw [List.length_append, nextDefinitions_add, ← found, ← found', ← Nat.add_assoc]
  exact ⟨rfl, left'⟩

theorem SuperCalls.finds {levels : List (List Node)} {c : RenderContext (String × Nat)}
    (hc : c.blocks = .ofLevels levels) {α : Type} {act : RenderM (String × Nat) α}
    {s t : RenderState (String × Nat)} {result : Except Error α} {calls : List (Option Block)}
    (h : SuperCalls c act s result t calls) : Finds levels s.chains t.chains calls := by
  induction h with
  | quiet run same => exact fun title taken chains around => ⟨rfl, same.trans around⟩
  | bind first rest ihfirst ihrest => exact ihfirst.trans ihrest
  | failed first ih => exact ih
  | caught first rest ihfirst ihrest => exact ihfirst.trans ihrest
  | passed first ih => exact ih
  | within entered left inside ih =>
      rw [entered] at ih
      rw [left]
      exact ih
  | captured inside ih => exact ih
  | definition here taking inside ih =>
      intro title taken chains around
      cases here.symm.trans around
      obtain ⟨found, rfl⟩ := Prod.mk.inj ((next_byLevels hc title taken).symm.trans taking)
      obtain ⟨others, left⟩ := ih _ _ _ rfl
      rw [Nat.add_right_comm] at left
      rw [List.length_cons, nextDefinitions_succ, found, ← others]
      exact ⟨rfl, left⟩
  | exhausted here taking =>
      intro title taken chains around
      cases here.symm.trans around
      obtain ⟨found, rfl⟩ := Prod.mk.inj ((next_byLevels hc title taken).symm.trans taking)
      rw [List.length_singleton, nextDefinitions_succ, found]
      exact ⟨rfl, rfl⟩

/-- The calls of `super` in a run inside a block. -/
theorem superCalls_iff {levels : List (List Node)} {c : RenderContext (String × Nat)}
    (hc : c.blocks = .ofLevels levels) {depth : Nat} {nodes : List Node}
    {s t : RenderState (String × Nat)} {result : Except Error Unit} {title : String} {taken : Nat}
    {chains : List (String × Nat)} (around : s.chains = (title, taken) :: chains)
    (run : render c depth nodes s = .ok (result, t)) :
    ∃ count, t.chains = (title, taken + count) :: chains ∧
      ∀ calls, SuperCalls c (render c depth nodes) s result t calls ↔
        calls = nextDefinitions levels title taken count := by
  obtain ⟨calls, hcalls⟩ := Records.render c depth nodes s result t run
  obtain ⟨found, left⟩ := hcalls.finds hc title taken chains around
  refine ⟨calls.length, left, fun others => ⟨fun hothers => ?_, fun same => ?_⟩⟩
  · obtain ⟨found', left'⟩ := hothers.finds hc title taken chains around
    have length : others.length = calls.length := by
      have same := left'.symm.trans left
      simp only [List.cons.injEq, Prod.mk.injEq] at same
      omega
    rw [found', length]
  · rw [same, ← found]
    exact hcalls

/-- Rendering nodes is rendering one after the other. -/
theorem renderAll_eq_forM {χ : Type} (step : Node → RenderM χ Unit) (nodes : List Node) :
    renderAll step nodes = forM nodes step := by
  induction nodes with
  | nil => rfl
  | cons node rest ih => rw [renderAll, ih, List.forM_cons]

end Render

open Render

/-- Sides that differ in nothing but the chains come to the same outcome. -/
theorem Program.renderIn_eq {χ : Side → Type} {chains : χ .left → χ .right → Prop}
    {contexts : (i : Side) → RenderContext (χ i)} {p : Program} {depth : Nat}
    (h : (Coupling.ofChains chains fun _ => False).Coupled () fun i =>
      Render.render (contexts i) depth p.root) (e : Engine) (memory : Memory) (data : Value) :
    renderIn (contexts .left) p e depth memory data =
      renderIn (contexts .right) p e depth memory data := by
  unfold renderIn
  cases dataScope data with
  | error error => rfl
  | ok data =>
      have start : (Coupling.ofChains chains fun _ => False).States ()
          (startState e memory data) (startState e memory data) :=
        ⟨rfl, .nil, .nil, rfl, rfl, rfl, rfl⟩
      have matched := h () trivial _ _ start
      revert matched
      dsimp only
      rcases Render.render (contexts .left) depth p.root (startState e memory data) with
        reason | ⟨result, s⟩ <;>
      rcases Render.render (contexts .right) depth p.root (startState e memory data) with
        reason' | ⟨result', t⟩
      · exact fun _ => rfl
      · rintro (h | h)
        · exact h.elim
        · cases h
      · exact False.elim
      · rintro ⟨rfl, _, _, hst⟩
        have hout : s.out = t.out := hst.out
        have hmemory : s.memory = t.memory := hst.memory
        cases result <;> simp only [hout, hmemory]

/-- Inheritance from the base to the most derived template. The document consists of the levels, and
all of its blocks are different. A program renders all data as its nodes render one after the other
when blocks override each other by levels: a block that is the first of its title renders the most
derived definition, every other block renders nothing, and a call of `super` gives the text of the
next less derived definition, or no text if none is left. Wherever in a block the calls are made, they
find the definitions of its title in their order, and the calls in a block inside do not count. And
the render ends. -/
theorem Program.renders_by_levels {p : Program} {levels : List (List Node)} (h : Lineage p levels)
    (distinct : ∀ own ∈ levels, ((blocksOf own).map (·.title)).Nodup) :
    blocksOf p.root = levels.flatMap blocksOf ∧
    ((blocksOf p.root).map (·.id)).Nodup ∧
    ∀ (e : Engine) (world : World) (memory : Memory),
      let c : RenderContext (String × Nat) :=
        { load := e.load world.files, mayInclude := e.mayInclude, world, blocks := .ofLevels levels }
      (∀ (depth : Nat) (data : Value), p.renderWithin e world depth memory data =
        match dataScope data with
        | .error error => (.failed error, memory)
        | .ok entries =>
          match Render.render c depth p.root (startState e memory entries) with
          | .ok (.ok _, t) => (.text t.out, t.memory)
          | .ok (.error error, t) => (.failed (error.named p.name), t.memory)
          | .error _ => (.unfinished, memory)) ∧
      (∀ (depth : Nat) (nodes : List Node), Render.render c (depth + 1) nodes =
        forM nodes (renderNode c (Render.render c depth))) ∧
      (∀ depth, RendersByLevels levels c (Render.render c depth)) ∧
      (∀ depth nodes s result t title taken chains, s.chains = (title, taken) :: chains →
        Render.render c depth nodes s = .ok (result, t) →
        ∃ count, t.chains = (title, taken + count) :: chains ∧
          ∀ calls, SuperCalls c (Render.render c depth nodes) s result t calls ↔
            calls = nextDefinitions levels title taken count) ∧
      ∀ data : NameMap Value, ∃ depth, ∀ deeper, depth ≤ deeper →
        Render.render (p.context e world) deeper p.root (startState e memory data) ≠
          .error .tooDeep := by
  have assembled := h.assembled
  refine ⟨assembled.document, assembled.distinct, fun e world memory => ?_⟩
  intro c
  have hids : ((levels.flatMap blocksOf).map (·.id)).Nodup := assembled.document ▸ assembled.distinct
  refine ⟨?outcome, fun depth nodes => renderAll_eq_forM _ nodes,
    fun depth => rendersByLevels rfl hids _,
    fun depth nodes s result t title taken chains around run => superCalls_iff rfl around run, ?ends⟩
  case outcome =>
    intro depth data
    have hc : (p.context e world).blocks = .ofRegistry (registryOf p.root) := by
      rw [← assembled.blocks]
      rfl
    have whole : Within p.root p.root := ⟨fun _ h => h, assembled.complete⟩
    have coupled := coupled_byLevels hc assembled.document assembled.complete distinct depth
      p.root whole
    have same : p.renderWithin e world depth memory data = renderIn c p e depth memory data :=
      renderIn_eq coupled e memory data
    rw [same, renderIn]
    cases dataScope data with
    | error error => rfl
    | ok entries =>
        dsimp only
        rcases Render.render c depth p.root (startState e memory entries) with
          reason | ⟨error | _, t⟩ <;> rfl
  case ends =>
    intro data
    have hlimit : ∀ depth, e.maxIncludeDepth ≤ depth →
        ∃ cause, (p.context e world).mayInclude depth = .error cause := fun depth hdepth =>
      ⟨_, if_pos hdepth⟩
    have acyclic : Acyclic p.blocks := assembled.blocks ▸ acyclic_of_nodup assembled.distinct
    have start : (⟨[], e.maxIncludeDepth⟩ : Place).Holds e.maxIncludeDepth
        (startState e memory data) := ⟨nofun, by simp [startState]⟩
    have ends := nodesEnd (c := p.context e world) rfl hlimit acyclic _ p.root _ start
    exact ends.eventually (rising_render _ _)

/-! A template with one block, and one that overrides it. -/

def baseSource : String := "\x7b% block x %\x7dA\x7b% endblock %\x7d"

def derivedSource : String := "\x7b% extends 'base' %\x7d\x7b% block x %\x7dB\x7b% endblock %\x7d"

/-- Overrides the block with calls of `super`, of which the second finds no definition left. -/
def callingSource : String :=
  "\x7b% extends 'base' %\x7d\x7b% block x %\x7dB\x7b\x7b super \x7d\x7d.\x7b\x7b super \x7d\x7d\x7b% endblock %\x7d"

def twoTemplates : Engine :=
  { Engine.ofDelimiters .standard with loader := .sources [("base", baseSource)] }

def baseProgram : Program where
  serial := 1
  name := some "base"
  source := baseSource
  root := [.block 0 "x" [.text "A"]]
  blocks := registryOf [.block 0 "x" [.text "A"]]

def derivedProgram : Program where
  serial := 3
  name := none
  source := derivedSource
  root := [.splice baseProgram.root, .block 2 "x" [.text "B"]]
  blocks := registryOf [.splice baseProgram.root, .block 2 "x" [.text "B"]]

def printSuper : Node := .print false (.chain [.reference ⟨"super", "super", [], []⟩])

def callingProgram : Program where
  serial := 3
  name := none
  source := callingSource
  root := [.splice baseProgram.root, .block 2 "x" [.text "B", printSuper, .text ".", printSuper]]
  blocks := registryOf
    [.splice baseProgram.root, .block 2 "x" [.text "B", printSuper, .text ".", printSuper]]

theorem twoTemplates_session : Session twoTemplates ⟨0, []⟩ :=
  .setLoader (.start .standard 0) rfl

section

variable (filters : NameMap Filter) (span : Span)

set_option maxRecDepth 10000 in
theorem reading_extends_base :
    Token.reading filters ⟨.statement, "extends 'base'".toList, span⟩ = .ok (.splice ["base"]) := by
  cbv

theorem reading_block_x :
    Token.reading filters ⟨.statement, "block x".toList, span⟩ = .ok (.block "x") := by
  cbv

theorem reading_endblock :
    Token.reading filters ⟨.statement, "endblock".toList, span⟩ =
      .ok (.action (.leave "endblock")) := by
  cbv

set_option maxRecDepth 10000 in
theorem reading_super :
    Token.reading filters ⟨.print false, "super".toList, span⟩ = .ok (.action (.add printSuper)) := by
  cbv

theorem reading_text (text : List Char) :
    Token.reading filters ⟨.text, text, span⟩ = .ok (.action (.add (.text (String.ofList text)))) :=
  rfl

end

theorem tokens_baseSource : twoTemplates.delimiters.tokens baseSource.toList =
    [⟨.statement, "block x".toList, ⟨0, 13⟩⟩, ⟨.text, "A".toList, ⟨13, 14⟩⟩,
      ⟨.statement, "endblock".toList, ⟨14, 28⟩⟩] := by
  cbv

set_option maxRecDepth 10000 in
theorem tokens_derivedSource : twoTemplates.delimiters.tokens derivedSource.toList =
    [⟨.statement, "extends 'base'".toList, ⟨0, 20⟩⟩, ⟨.statement, "block x".toList, ⟨20, 33⟩⟩,
      ⟨.text, "B".toList, ⟨33, 34⟩⟩, ⟨.statement, "endblock".toList, ⟨34, 48⟩⟩] := by
  cbv

set_option maxRecDepth 10000 in
theorem tokens_callingSource : twoTemplates.delimiters.tokens callingSource.toList =
    [⟨.statement, "extends 'base'".toList, ⟨0, 20⟩⟩, ⟨.statement, "block x".toList, ⟨20, 33⟩⟩,
      ⟨.text, "B".toList, ⟨33, 34⟩⟩, ⟨.print false, "super".toList, ⟨34, 45⟩⟩,
      ⟨.text, ".".toList, ⟨45, 46⟩⟩, ⟨.print false, "super".toList, ⟨46, 57⟩⟩,
      ⟨.statement, "endblock".toList, ⟨57, 71⟩⟩] := by
  cbv

theorem compile_baseSource (depth : Nat) :
    twoTemplates.compileWithin .empty (depth + 1) baseSource (some "base") ⟨0, []⟩ =
      (.ok baseProgram, ⟨2, []⟩) := by
  rw [Engine.compileWithin, Engine.compileSource_run, tokens_baseSource]
  simp only [TagReader.nodes_run, TagReader.outline_cons, TagReader.action_run, reading_block_x,
    reading_text, reading_endblock]
  rfl

theorem load_base : twoTemplates.loadWith .empty (twoTemplates.compileWithin .empty 1) ["base"]
    ⟨0, []⟩ = (.ok baseProgram, ⟨2, [("base", ⟨none, baseProgram⟩)]⟩) := by
  change Engine.loadFromSources [("base", baseSource)] _ ["base"] ["base"] ⟨0, []⟩ = _
  rw [Engine.loadFromSources, MemoryM.bind_run]
  change (twoTemplates.compileWithin .empty 1 baseSource (some "base") >>= Engine.keepFirst "base")
    ⟨0, []⟩ = _
  rw [MemoryM.bind_run, compile_baseSource]
  rfl

theorem compile_derivedSource :
    twoTemplates.compileWithin .empty 2 derivedSource none ⟨0, []⟩ =
      (.ok derivedProgram, ⟨4, [("base", ⟨none, baseProgram⟩)]⟩) := by
  rw [Engine.compileWithin, Engine.compileSource_run, tokens_derivedSource]
  simp only [TagReader.nodes_run, TagReader.outline_cons, TagReader.action_run,
    reading_extends_base, reading_block_x, reading_text, reading_endblock, load_base]
  rfl

theorem compile_callingSource :
    twoTemplates.compileWithin .empty 2 callingSource none ⟨0, []⟩ =
      (.ok callingProgram, ⟨4, [("base", ⟨none, baseProgram⟩)]⟩) := by
  rw [Engine.compileWithin, Engine.compileSource_run, tokens_callingSource]
  simp only [TagReader.nodes_run, TagReader.outline_cons, TagReader.action_run,
    reading_extends_base, reading_block_x, reading_text, reading_super, reading_endblock, load_base]
  rfl

theorem not_inclusion_block_x (span : Span) :
    ¬ Token.Inclusion ⟨.statement, "block x".toList, span⟩ := by
  have word : TagName.ofWord? (String.ofList
      (Token.word ⟨.statement, "block x".toList, span⟩)) = some .block := by cbv
  rintro ⟨_, h | h⟩ <;> rw [word] at h <;> cases h

theorem not_inclusion_endblock (span : Span) :
    ¬ Token.Inclusion ⟨.statement, "endblock".toList, span⟩ := by
  have word : TagName.ofWord? (String.ofList
      (Token.word ⟨.statement, "endblock".toList, span⟩)) = none := by cbv
  rintro ⟨_, h | h⟩ <;> rw [word] at h <;> cases h

/-- The tokens of a block named `x` without tags inside name no template. -/
theorem plain_block_x (inside : List Token) (h : ∀ t ∈ inside, t.kind ≠ .statement) (a b : Span) :
    ∀ t ∈ (⟨.statement, "block x".toList, a⟩ :: (inside ++ [⟨.statement, "endblock".toList, b⟩]) :
      List Token), ¬ t.Inclusion := by
  refine List.forall_mem_cons.mpr ⟨not_inclusion_block_x a, List.forall_mem_append.mpr ⟨?_, ?_⟩⟩
  · exact fun t ht inclusion => h t ht inclusion.1
  · exact List.forall_mem_cons.mpr ⟨not_inclusion_endblock b, List.forall_mem_nil _⟩

theorem baseProgram_lineage : Lineage baseProgram [baseProgram.root] := by
  have plain : ∀ t ∈ twoTemplates.delimiters.tokens baseSource.toList, ¬ t.Inclusion := by
    rw [tokens_baseSource]
    exact plain_block_x [⟨.text, "A".toList, ⟨13, 14⟩⟩] (by simp) _ _
  exact .base twoTemplates_session (compile_baseSource 0) plain

theorem callingProgram_lineage :
    Lineage callingProgram [baseProgram.root, callingProgram.root.tail] := by
  have plain := plain_block_x [⟨.text, "B".toList, ⟨33, 34⟩⟩,
    ⟨.print false, "super".toList, ⟨34, 45⟩⟩, ⟨.text, ".".toList, ⟨45, 46⟩⟩,
    ⟨.print false, "super".toList, ⟨46, 57⟩⟩] (by simp) ⟨20, 33⟩ ⟨57, 71⟩
  exact Lineage.derived (e := twoTemplates) (p := callingProgram) (q := baseProgram)
    twoTemplates_session compile_callingSource tokens_callingSource
    (reading_extends_base _ _) load_base plain baseProgram_lineage

/-- At the place of the title stands the text of the most derived definition, in it the text of the
base and then no text; the block tag at the end prints nothing. -/
theorem Program.renders_by_levels_two :
    let levels := [baseProgram.root, callingProgram.root.tail]
    let base : Block := ⟨0, "x", [.text "A"]⟩
    let derived : Block := ⟨2, "x", [.text "B", printSuper, .text ".", printSuper]⟩
    Lineage callingProgram levels ∧ (∀ own ∈ levels, ((blocksOf own).map (·.title)).Nodup) ∧
    placeOf levels "x" = some base ∧ definitions levels "x" = [derived, base] ∧
    ∀ (world : World) (memory : Memory) (depth : Nat),
      callingProgram.renderWithin twoTemplates world (depth + 4) memory (.map []) =
        (.text "BA.", memory) ∧
      let c : RenderContext (String × Nat) :=
        { load := twoTemplates.load world.files, mayInclude := twoTemplates.mayInclude, world,
          blocks := .ofLevels levels }
      let start : RenderState (String × Nat) := startState twoTemplates memory []
      let s := { start with scopes := [blockScope, []], chains := [("x", 1)] }
      let t := { s with chains := [("x", 3)], out := "BA." }
      Render.render c (depth + 2) derived.body s = .ok (.ok (), t) ∧
        SuperCalls c (Render.render c (depth + 2) derived.body) s (.ok ()) t [some base, none] := by
  intro levels base derived
  have distinct : ∀ own ∈ levels, ((blocksOf own).map (·.title)).Nodup := by
    simp [levels, baseProgram, callingProgram, blocksOf, Node.blocks, printSuper]
  refine ⟨callingProgram_lineage, distinct, rfl, rfl, fun world memory depth => ?_⟩
  obtain ⟨-, -, renders⟩ := renders_by_levels callingProgram_lineage distinct
  obtain ⟨outcome, -, -, calls, -⟩ := renders twoTemplates world memory
  refine ⟨?_, ?_⟩
  · rw [outcome]
    cbv
  · intro c start s t
    have run : Render.render c (depth + 2) derived.body s = .ok (.ok (), t) := by cbv
    obtain ⟨count, left, found⟩ := calls (depth + 2) derived.body s _ t "x" 1 [] rfl run
    have two : count = 2 := by
      simp only [t, List.cons.injEq, Prod.mk.injEq] at left
      omega
    refine ⟨run, (found _).mpr ?_⟩
    rw [two]
    rfl

end TextTemplate
