import Mathlib
import TextTemplate.Template.Program

/-!
# The registry of a template

The registry of a template lists under each title exactly the blocks of that title, in the order of
the document. A block stands in front of the blocks that it encloses.
-/

namespace TextTemplate

/-- The blocks of one title. -/
def titled (title : String) (blocks : List Block) : List Block :=
  blocks.filter (·.title == title)

theorem mem_titled {title : String} {blocks : List Block} {block : Block} :
    block ∈ titled title blocks ↔ block ∈ blocks ∧ block.title = title := by
  simp [titled]

theorem titled_append (title : String) (first second : List Block) :
    titled title (first ++ second) = titled title first ++ titled title second :=
  List.filter_append ..

theorem titled_cons (title : String) (block : Block) (rest : List Block) :
    titled title (block :: rest) =
      if block.title = title then block :: titled title rest else titled title rest := by
  by_cases h : block.title = title <;> simp [titled, h]

theorem find?_registerBlock (registry : NameMap (List Block)) (block : Block) (title : String) :
    ((registerBlock registry block).find? title).getD [] =
      (registry.find? title).getD [] ++ titled title [block] := by
  unfold registerBlock
  by_cases h : block.title = title
  · subst h
    simp [NameMap.find?_insert_self, titled]
  · simp [NameMap.find?_insert_of_ne _ _ h, titled, h]

theorem find?_foldl_registerBlock (blocks : List Block) (registry : NameMap (List Block))
    (title : String) :
    ((blocks.foldl registerBlock registry).find? title).getD [] =
      (registry.find? title).getD [] ++ titled title blocks := by
  induction blocks generalizing registry with
  | nil => simp [titled]
  | cons block rest ih =>
      rw [List.foldl_cons, ih, find?_registerBlock, List.append_assoc, ← titled_append,
        List.singleton_append]

/-- No title is listed without a block. -/
theorem find?_foldl_ne_nil (blocks : List Block) {registry : NameMap (List Block)}
    (hregistry : ∀ title, registry.find? title ≠ some []) (title : String) :
    (blocks.foldl registerBlock registry).find? title ≠ some [] := by
  induction blocks generalizing registry with
  | nil => exact hregistry title
  | cons block rest ih =>
      refine ih fun other => ?_
      unfold registerBlock
      by_cases h : block.title = other
      · simp [h, NameMap.find?_insert_self]
      · rw [NameMap.find?_insert_of_ne _ _ h]
        exact hregistry other

/-- The registry lists the blocks of a title in document order. -/
theorem find?_registryOf {root : List Node} {title : String} {chain : List Block} :
    (registryOf root).find? title = some chain ↔
      titled title (blocksOf root) = chain ∧ chain ≠ [] := by
  have listed := find?_foldl_registerBlock (blocksOf root) [] title
  have empty : ∀ title, NameMap.find? ([] : NameMap (List Block)) title ≠ some [] := nofun
  have nonempty := find?_foldl_ne_nil (blocksOf root) empty title
  rw [← registryOf] at listed nonempty
  cases h : (registryOf root).find? title with
  | none =>
      rw [h] at listed
      simp only [Option.getD_none, NameMap.find?_nil, List.nil_append] at listed
      simp [← listed, eq_comm]
  | some found =>
      rw [h] at listed nonempty
      simp only [Option.getD_some, NameMap.find?_nil, Option.getD_none, List.nil_append] at listed
      subst listed
      simp only [ne_eq, Option.some.injEq] at nonempty
      simp only [Option.some.injEq]
      exact ⟨fun h => ⟨h, h ▸ nonempty⟩, fun h => h.1⟩

/-! ## Document order -/

mutual

theorem Node.exists_blocks_eq {block : Block} :
    ∀ {node : Node}, block ∈ node.blocks →
      ∃ before behind, node.blocks = before ++ block :: (blocksOf block.body ++ behind)
  | .block id title body, h => by
      rcases List.mem_cons.mp h with rfl | h
      · exact ⟨[], [], by simp [Node.blocks]⟩
      · obtain ⟨before, behind, heq⟩ := exists_blocksOf_eq h
        exact ⟨_ :: before, behind, by rw [Node.blocks, heq]; rfl⟩
  | .loop _ _ _ body fallback, h => by
      rcases List.mem_append.mp h with h | h
      · obtain ⟨before, behind, heq⟩ := exists_blocksOf_eq h
        exact ⟨before, behind ++ blocksOf fallback, by simp [Node.blocks, heq]⟩
      · obtain ⟨before, behind, heq⟩ := exists_blocksOf_eq h
        exact ⟨blocksOf body ++ before, behind, by simp [Node.blocks, heq]⟩
  | .branch _ yes no, h => by
      rcases List.mem_append.mp h with h | h
      · obtain ⟨before, behind, heq⟩ := exists_blocksOf_eq h
        exact ⟨before, behind ++ blocksOf no, by simp [Node.blocks, heq]⟩
      · obtain ⟨before, behind, heq⟩ := exists_blocksOf_eq h
        exact ⟨blocksOf yes ++ before, behind, by simp [Node.blocks, heq]⟩
  | .splice body, h => exists_blocksOf_eq (show block ∈ blocksOf body from h)
  | .spaceless body, h => exists_blocksOf_eq (show block ∈ blocksOf body from h)
  | .trim body, h => exists_blocksOf_eq (show block ∈ blocksOf body from h)
  | .bind _ _ body, h => exists_blocksOf_eq (show block ∈ blocksOf body from h)

/-- A block is followed by the blocks that it encloses. -/
theorem exists_blocksOf_eq {block : Block} :
    ∀ {nodes : List Node}, block ∈ blocksOf nodes →
      ∃ before behind, blocksOf nodes = before ++ block :: (blocksOf block.body ++ behind)
  | node :: rest, h => by
      rcases List.mem_append.mp h with h | h
      · obtain ⟨before, behind, heq⟩ := node.exists_blocks_eq h
        exact ⟨before, behind ++ blocksOf rest, by simp [blocksOf, heq]⟩
      · obtain ⟨before, behind, heq⟩ := exists_blocksOf_eq h
        exact ⟨node.blocks ++ before, behind, by simp [blocksOf, heq]⟩

end

end TextTemplate
