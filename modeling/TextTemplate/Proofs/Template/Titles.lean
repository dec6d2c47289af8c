import TextTemplate.Proofs.Template.Registry

/-!
# Titles that lead to titles

A block renders where the first block of its title stands. A title leads to another one if some
definition of it encloses that place. If no block occurs twice in a document, a title leads only to
places further behind, and no title leads back to itself.
-/

namespace TextTemplate

/-- The block is the place where its title renders. -/
def IsPlace (registry : NameMap (List Block)) (block : Block) : Prop :=
  ∃ chain, registry.find? block.title = some chain ∧
    chain.head?.map (·.id) = some block.id

/-- A definition of `x` encloses the place where `y` renders. -/
def Leads (registry : NameMap (List Block)) (x y : String) : Prop :=
  ∃ chain definition block, registry.find? x = some chain ∧ definition ∈ chain ∧
    block ∈ blocksOf definition.body ∧ block.title = y ∧ IsPlace registry block

/-- No title leads back to itself. -/
def Acyclic (registry : NameMap (List Block)) : Prop :=
  ∀ title, ¬ Relation.TransGen (Leads registry) title title

theorem Leads.mem_titles {registry : NameMap (List Block)} {x y : String}
    (h : Leads registry x y) : x ∈ registry.map Prod.fst := by
  obtain ⟨chain, _, _, hfind, -⟩ := h
  exact List.mem_map_of_mem (NameMap.mem_of_find? hfind)

/-- The titles are finitely many, so the way from title to title ends. -/
theorem Acyclic.wellFounded {registry : NameMap (List Block)} (h : Acyclic registry) :
    WellFounded fun y x => Leads registry x y := by
  have wf : WellFounded fun y x : { title // title ∈ registry.map Prod.fst } =>
      Relation.TransGen (Leads registry) x y := by
    have : IsTrans { title // title ∈ registry.map Prod.fst } fun y x =>
        Relation.TransGen (Leads registry) x y := ⟨fun _ _ _ hxy hyz => hyz.trans hxy⟩
    have : Std.Irrefl fun y x : { title // title ∈ registry.map Prod.fst } =>
        Relation.TransGen (Leads registry) x y := ⟨fun x => h x⟩
    exact Finite.wellFounded_of_trans_of_irrefl _
  have outside : ∀ x, x ∉ registry.map Prod.fst → Acc (fun y x => Leads registry x y) x :=
    fun x hx => ⟨_, fun y hxy => absurd hxy.mem_titles hx⟩
  have inside : ∀ x : { title // title ∈ registry.map Prod.fst },
      Acc (fun y x => Leads registry x y) x := by
    intro x
    induction x using wf.induction with
    | _ x ih =>
      refine ⟨_, fun y hxy => ?_⟩
      by_cases hy : y ∈ registry.map Prod.fst
      · exact ih ⟨y, hy⟩ (.single hxy)
      · exact outside y hy
  refine ⟨fun x => ?_⟩
  by_cases hx : x ∈ registry.map Prod.fst
  · exact inside ⟨x, hx⟩
  · exact outside x hx

/-- Where the first block of a title stands. -/
def firstIdx (blocks : List Block) (title : String) : Nat := blocks.findIdx (·.title == title)

theorem firstIdx_append_lt {front : List Block} {title : String} {block : Block}
    (hmem : block ∈ front) (htitle : block.title = title) (behind : List Block) :
    firstIdx (front ++ behind) title < front.length := by
  have found : front.findIdx (·.title == title) < front.length :=
    List.findIdx_lt_length_of_exists ⟨block, hmem, by simpa using htitle⟩
  rwa [firstIdx, List.findIdx_append, if_pos found]

theorem length_le_firstIdx_append {front : List Block} {title : String}
    (h : ∀ block ∈ front, block.title ≠ title) (behind : List Block) :
    front.length ≤ firstIdx (front ++ behind) title := by
  have missed : front.findIdx (·.title == title) = front.length :=
    List.findIdx_eq_length.mpr fun b hb => by simpa using h b hb
  rw [firstIdx, List.findIdx_append, missed, if_neg (Nat.lt_irrefl _)]
  exact Nat.le_add_left ..

/-- If all blocks are different, a title leads only to places further behind. -/
theorem Leads.firstIdx_lt {root : List Node} (hids : ((blocksOf root).map (·.id)).Nodup)
    {x y : String} (h : Leads (registryOf root) x y) :
    firstIdx (blocksOf root) x < firstIdx (blocksOf root) y := by
  obtain ⟨chain, definition, block, hfind, hmem, hblock, rfl, chain', hfind', hfirst⟩ := h
  obtain ⟨rfl, -⟩ := find?_registryOf.mp hfind
  obtain ⟨rfl, -⟩ := find?_registryOf.mp hfind'
  obtain ⟨hdefinition, htitle⟩ := mem_titled.mp hmem
  obtain ⟨before, behind, heq⟩ := exists_blocksOf_eq hdefinition
  obtain ⟨front, hfront⟩ : ∃ front, front = before ++ [definition] := ⟨_, rfl⟩
  have hsplit : blocksOf root = front ++ (blocksOf definition.body ++ behind) := by
    simpa [hfront] using heq
  rw [hsplit] at hids hfirst ⊢
  rw [titled, List.head?_filter, Option.map_eq_some_iff] at hfirst
  obtain ⟨first, hfirst, hid⟩ := hfirst
  -- The block is the first of its title, so none of the title is among those in front.
  have others : ∀ b ∈ front, b.title ≠ block.title := by
    intro b hb same
    have found : (front.find? (·.title == block.title)).isSome := by
      rw [List.find?_isSome]
      exact ⟨b, hb, by simpa using same⟩
    obtain ⟨f, hf⟩ := Option.isSome_iff_exists.mp found
    rw [List.find?_append, hf, Option.some_or] at hfirst
    cases hfirst
    rw [List.map_append] at hids
    exact (List.nodup_append.mp hids).2.2 first.id
      (List.mem_map_of_mem (List.mem_of_find?_eq_some hf)) block.id
      (List.mem_map_of_mem (List.mem_append_left _ hblock)) hid
  have inFront : definition ∈ front := by simp [hfront]
  exact (firstIdx_append_lt inFront htitle _).trans_le (length_le_firstIdx_append others _)

/-- A program whose blocks are all different has no title that leads back to itself. -/
theorem acyclic_of_nodup {root : List Node} (hids : ((blocksOf root).map (·.id)).Nodup) :
    Acyclic (registryOf root) := by
  have increasing : ∀ x y, Relation.TransGen (Leads (registryOf root)) x y →
      firstIdx (blocksOf root) x < firstIdx (blocksOf root) y := by
    intro x y h
    induction h with
    | single h => exact h.firstIdx_lt hids
    | tail _ h ih => exact ih.trans (h.firstIdx_lt hids)
  exact fun title h => Nat.lt_irrefl _ (increasing title title h)

end TextTemplate
