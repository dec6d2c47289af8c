import TextTemplate.Proofs.Template.Items
import TextTemplate.Proofs.Template.Registry

/-!
# The pieces of a template

What a template brings along besides text: its blocks, its cycles, the templates that were put in
place and those that are looked up while rendering, in the order of the document. Sealing an open tag
moves nodes about but keeps their order, so the pieces of a template are those of its tokens, one
after the other.
-/

namespace TextTemplate

inductive Piece where
  | block (id : Nat) (title : String)
  | cycle (id : Nat)
  /-- The nodes of another template; its pieces are not listed. -/
  | splice (body : List Node)
  /-- A template that is looked up while rendering. -/
  | lookUp

mutual

def Node.pieces : Node → List Piece
  | .block id title body => .block id title :: piecesOf body
  | .loop _ _ _ body fallback => piecesOf body ++ piecesOf fallback
  | .branch _ yes no => piecesOf yes ++ piecesOf no
  | .cycle id _ => [.cycle id]
  | .splice body => [.splice body]
  | .includeBy _ => [.lookUp]
  | .spaceless body => piecesOf body
  | .trim body => piecesOf body
  | .bind _ _ body => piecesOf body
  | .text _ | .print .. | .emptyMark | .elifMark _ | .elseMark => []

/-- The pieces of a template in document order. -/
def piecesOf : List Node → List Piece
  | [] => []
  | node :: rest => node.pieces ++ piecesOf rest

end

/-! ## Pieces among the items -/

/-- What an item brings along. -/
def Item.pieces : Item → List Piece
  | .block id title => [.block id title]
  | .cycle id _ => [.cycle id]
  | .splice body => [.splice body]
  | .includeBy _ => [.lookUp]
  | .text _ | .print .. | .loop .. | .condition _ | .spaceless | .trim | .bind .. => []

mutual

theorem Node.pieces_eq_items : ∀ node : Node, node.pieces = node.items.flatMap Item.pieces
  | .block id title body => by
      simp [Node.pieces, Node.items, Item.pieces, ← piecesOf_eq_items body]
  | .loop _ _ _ body fallback => by
      simp [Node.pieces, Node.items, Item.pieces, ← piecesOf_eq_items body,
        ← piecesOf_eq_items fallback]
  | .branch _ yes no => by
      simp [Node.pieces, Node.items, Item.pieces, ← piecesOf_eq_items yes, ← piecesOf_eq_items no]
  | .spaceless body => piecesOf_eq_items body
  | .trim body => piecesOf_eq_items body
  | .bind _ _ body => piecesOf_eq_items body
  | .splice _ | .cycle .. | .includeBy _ => rfl
  | .text _ | .print .. | .emptyMark | .elifMark _ | .elseMark => rfl

theorem piecesOf_eq_items : ∀ nodes : List Node,
    piecesOf nodes = (itemsOf nodes).flatMap Item.pieces
  | [] => rfl
  | node :: rest => by
      rw [piecesOf, itemsOf, List.flatMap_append, node.pieces_eq_items, piecesOf_eq_items rest]

end

/-! ## Blocks among the pieces -/

/-- A block without its body. -/
def Block.key (b : Block) : Nat × String := (b.id, b.title)

/-- The blocks that a piece brings along, without their bodies. -/
def Piece.blocks : Piece → List (Nat × String)
  | .block id title => [(id, title)]
  | .splice body => (blocksOf body).map Block.key
  | .cycle _ | .lookUp => []

mutual

theorem Node.blocks_eq_pieces : ∀ node : Node,
    node.blocks.map Block.key = node.pieces.flatMap Piece.blocks
  | .block id title body => by
      simp [Node.blocks, Node.pieces, Piece.blocks, Block.key, ← blocksOf_eq_pieces body]
  | .loop _ _ _ body fallback => by
      simp [Node.blocks, Node.pieces, ← blocksOf_eq_pieces body, ← blocksOf_eq_pieces fallback]
  | .branch _ yes no => by
      simp [Node.blocks, Node.pieces, ← blocksOf_eq_pieces yes, ← blocksOf_eq_pieces no]
  | .splice body => by simp [Node.blocks, Node.pieces, Piece.blocks]
  | .spaceless body => blocksOf_eq_pieces body
  | .trim body => blocksOf_eq_pieces body
  | .bind _ _ body => blocksOf_eq_pieces body
  | .text _ | .print .. | .emptyMark | .elifMark _ | .elseMark | .cycle .. | .includeBy _ => rfl

theorem blocksOf_eq_pieces : ∀ nodes : List Node,
    (blocksOf nodes).map Block.key = (piecesOf nodes).flatMap Piece.blocks
  | [] => rfl
  | node :: rest => by
      simp [blocksOf, piecesOf, node.blocks_eq_pieces, blocksOf_eq_pieces rest]

end

/-! ## Counting the blocks of a title -/

theorem length_titled_pieces (title : String) (nodes : List Node) :
    (titled title (blocksOf nodes)).length =
      (((piecesOf nodes).flatMap Piece.blocks).filter (·.2 == title)).length := by
  rw [← blocksOf_eq_pieces, List.filter_map, List.length_map]
  rfl

/-- A template put in place adds its blocks to those around it. -/
theorem length_titled_splice {title : String} {root root' body : List Node} {front back : List Piece}
    (h : piecesOf root = front ++ [.splice body] ++ back)
    (h' : piecesOf root' = front ++ [.lookUp] ++ back) :
    (titled title (blocksOf root)).length =
      (titled title (blocksOf root')).length + (titled title (blocksOf body)).length := by
  have inside : (((blocksOf body).map Block.key).filter (·.2 == title)).length =
      (titled title (blocksOf body)).length := by
    rw [List.filter_map, List.length_map]
    rfl
  rw [length_titled_pieces, length_titled_pieces, h, h']
  simp only [List.flatMap_append, List.flatMap_singleton, Piece.blocks, List.filter_append,
    List.length_append, inside, List.filter_nil, List.length_nil]
  omega

theorem length_titled_le_one {blocks : List Block} (h : (blocks.map (·.title)).Nodup)
    (title : String) : (titled title blocks).length ≤ 1 := by
  have all : (titled title blocks).map (·.title) =
      List.replicate (titled title blocks).length title := by
    refine List.eq_replicate_iff.mpr ⟨List.length_map _, ?_⟩
    intro other hother
    obtain ⟨block, hblock, rfl⟩ := List.mem_map.mp hother
    exact (mem_titled.mp hblock).2
  have nodup : ((titled title blocks).map (·.title)).Nodup :=
    (List.filter_sublist.map _).nodup h
  rw [all] at nodup
  exact List.nodup_replicate.mp nodup

/-! ## Numbers among the pieces -/

mutual

/-- The numbers of the blocks and cycles of a node, those in spliced templates as well. -/
def Node.ids : Node → List Nat
  | .block id _ body => id :: idsOf body
  | .cycle id _ => [id]
  | .loop _ _ _ body fallback => idsOf body ++ idsOf fallback
  | .branch _ yes no => idsOf yes ++ idsOf no
  | .splice body => idsOf body
  | .spaceless body => idsOf body
  | .trim body => idsOf body
  | .bind _ _ body => idsOf body
  | .text _ | .print .. | .emptyMark | .elifMark _ | .elseMark | .includeBy _ => []

def idsOf : List Node → List Nat
  | [] => []
  | node :: rest => node.ids ++ idsOf rest

end

namespace Piece

/-- The numbers that a piece brings along. -/
def ids : Piece → List Nat
  | .block id _ | .cycle id => [id]
  | .splice body => idsOf body
  | .lookUp => []

/-- The numbers of a piece that do not come from another template. -/
def own : Piece → List Nat
  | .block id _ | .cycle id => [id]
  | .splice _ | .lookUp => []

end Piece

mutual

theorem Node.ids_eq_pieces : ∀ node : Node, node.ids = node.pieces.flatMap Piece.ids
  | .block id title body => by
      simp [Node.ids, Node.pieces, Piece.ids, ← idsOf_eq_pieces body]
  | .loop _ _ _ body fallback => by
      simp [Node.ids, Node.pieces, ← idsOf_eq_pieces body, ← idsOf_eq_pieces fallback]
  | .branch _ yes no => by
      simp [Node.ids, Node.pieces, ← idsOf_eq_pieces yes, ← idsOf_eq_pieces no]
  | .splice body => by simp [Node.ids, Node.pieces, Piece.ids]
  | .spaceless body => idsOf_eq_pieces body
  | .trim body => idsOf_eq_pieces body
  | .bind _ _ body => idsOf_eq_pieces body
  | .cycle .. => rfl
  | .text _ | .print .. | .emptyMark | .elifMark _ | .elseMark | .includeBy _ => rfl

theorem idsOf_eq_pieces : ∀ nodes : List Node, idsOf nodes = (piecesOf nodes).flatMap Piece.ids
  | [] => rfl
  | node :: rest => by simp [idsOf, piecesOf, node.ids_eq_pieces, idsOf_eq_pieces rest]

end

/-- The numbers of a template that do not come from another one. -/
def ownIds (nodes : List Node) : List Nat := (piecesOf nodes).flatMap Piece.own

mutual

/-- The blocks have some of the numbers. -/
theorem Node.blockIds_sublist : ∀ node : Node, (node.blocks.map (·.id)).Sublist node.ids
  | .block id title body => by
      simpa [Node.blocks, Node.ids] using (blockIds_sublist body)
  | .loop _ _ _ body fallback => by
      simpa [Node.blocks, Node.ids] using (blockIds_sublist body).append (blockIds_sublist fallback)
  | .branch _ yes no => by
      simpa [Node.blocks, Node.ids] using (blockIds_sublist yes).append (blockIds_sublist no)
  | .splice body => blockIds_sublist body
  | .spaceless body => blockIds_sublist body
  | .trim body => blockIds_sublist body
  | .bind _ _ body => blockIds_sublist body
  | .cycle .. => List.nil_sublist _
  | .text _ | .print .. | .emptyMark | .elifMark _ | .elseMark | .includeBy _ => List.Sublist.slnil

theorem blockIds_sublist : ∀ nodes : List Node,
    ((blocksOf nodes).map (·.id)).Sublist (idsOf nodes)
  | [] => List.Sublist.slnil
  | node :: rest => by
      simpa [blocksOf, idsOf] using node.blockIds_sublist.append (blockIds_sublist rest)

end

/-! ## Own blocks -/

mutual

theorem Node.mem_blocks_cases {block : Block} : ∀ {node : Node}, block ∈ node.blocks →
    block.id ∈ node.pieces.flatMap Piece.own ∨
      ∃ body, Piece.splice body ∈ node.pieces ∧ block ∈ blocksOf body
  | .block id title body, h => by
      rcases List.mem_cons.mp h with rfl | h
      · exact .inl List.mem_cons_self
      · exact (mem_blocksOf_cases h).imp (List.mem_cons_of_mem _)
          fun ⟨spliced, hpiece, hblock⟩ => ⟨spliced, List.mem_cons_of_mem _ hpiece, hblock⟩
  | .loop _ _ _ body fallback, h => by
      rw [Node.pieces, List.flatMap_append]
      rcases List.mem_append.mp h with h | h
      · exact (mem_blocksOf_cases h).imp (List.mem_append_left _)
          fun ⟨spliced, hpiece, hblock⟩ => ⟨spliced, List.mem_append_left _ hpiece, hblock⟩
      · exact (mem_blocksOf_cases h).imp (List.mem_append_right _)
          fun ⟨spliced, hpiece, hblock⟩ => ⟨spliced, List.mem_append_right _ hpiece, hblock⟩
  | .branch _ yes no, h => by
      rw [Node.pieces, List.flatMap_append]
      rcases List.mem_append.mp h with h | h
      · exact (mem_blocksOf_cases h).imp (List.mem_append_left _)
          fun ⟨spliced, hpiece, hblock⟩ => ⟨spliced, List.mem_append_left _ hpiece, hblock⟩
      · exact (mem_blocksOf_cases h).imp (List.mem_append_right _)
          fun ⟨spliced, hpiece, hblock⟩ => ⟨spliced, List.mem_append_right _ hpiece, hblock⟩
  | .splice body, h => .inr ⟨body, List.mem_cons_self, h⟩
  | .spaceless body, h => mem_blocksOf_cases (show block ∈ blocksOf body from h)
  | .trim body, h => mem_blocksOf_cases (show block ∈ blocksOf body from h)
  | .bind _ _ body, h => mem_blocksOf_cases (show block ∈ blocksOf body from h)

/-- A block of a template is its own or belongs to a template that was put in place. -/
theorem mem_blocksOf_cases {block : Block} : ∀ {nodes : List Node}, block ∈ blocksOf nodes →
    block.id ∈ ownIds nodes ∨
      ∃ body, Piece.splice body ∈ piecesOf nodes ∧ block ∈ blocksOf body
  | node :: rest, h => by
      rw [ownIds, piecesOf, List.flatMap_append]
      rcases List.mem_append.mp h with h | h
      · exact (node.mem_blocks_cases h).imp (List.mem_append_left _)
          fun ⟨spliced, hpiece, hblock⟩ => ⟨spliced, List.mem_append_left _ hpiece, hblock⟩
      · exact (mem_blocksOf_cases h).imp (List.mem_append_right _)
          fun ⟨spliced, hpiece, hblock⟩ => ⟨spliced, List.mem_append_right _ hpiece, hblock⟩

end

/-- Numbers that no spliced template uses are those of different pieces. -/
theorem sublist_own {ids : List Nat} {pieces : List Piece}
    (apart : ∀ body, Piece.splice body ∈ pieces → ∀ id ∈ idsOf body, id ∉ ids) :
    (((pieces.flatMap Piece.blocks).map (·.1)).filter (· ∈ ids)).Sublist
      (pieces.flatMap Piece.own) := by
  induction pieces with
  | nil => exact .slnil
  | cons piece rest ih =>
      have hrest := ih fun body hbody => apart body (List.mem_cons_of_mem _ hbody)
      simp only [List.flatMap_cons, List.map_append, List.filter_append]
      refine List.Sublist.append ?_ hrest
      cases piece with
      | block id title => exact List.filter_sublist
      | cycle id => exact List.nil_sublist _
      | lookUp => exact .slnil
      | splice body =>
          have none : ((Piece.splice body).blocks.map (·.1)).filter (· ∈ ids) = [] := by
            rw [List.filter_eq_nil_iff]
            intro id hid hmem
            have inside : id ∈ (blocksOf body).map (·.id) := by
              simpa [Piece.blocks, Block.key] using hid
            exact apart body List.mem_cons_self id ((blockIds_sublist body).subset inside)
              (of_decide_eq_true hmem)
          rw [none]
          exact List.nil_sublist _

/-- A number that no spliced template uses is counted among the own ones only. -/
theorem count_ids {id : Nat} {pieces : List Piece}
    (apart : ∀ body, Piece.splice body ∈ pieces → id ∉ idsOf body) :
    (pieces.flatMap Piece.ids).count id = (pieces.flatMap Piece.own).count id := by
  induction pieces with
  | nil => rfl
  | cons piece rest ih =>
      have hrest := ih fun body hbody => apart body (List.mem_cons_of_mem _ hbody)
      simp only [List.flatMap_cons, List.count_append, hrest]
      cases piece with
      | splice body => simp [Piece.ids, Piece.own, List.count_eq_zero.mpr (apart body List.mem_cons_self)]
      | block | cycle | lookUp => rfl

/-- The number of a block of its own tells which block of a template it is. -/
theorem eq_of_mem_ownIds {root : List Node} (own : (ownIds root).Nodup)
    (apart : ∀ body, Piece.splice body ∈ piecesOf root → ∀ id ∈ idsOf body, id ∉ ownIds root)
    {block block' : Block} (h : block ∈ blocksOf root) (h' : block' ∈ blocksOf root)
    (hid : block.id = block'.id) (hown : block.id ∈ ownIds root) : block = block' := by
  have sublist := sublist_own apart
  rw [← blocksOf_eq_pieces, List.map_map, List.filter_map] at sublist
  have hown' : block'.id ∈ ownIds root := hid ▸ hown
  exact List.inj_on_of_nodup_map (sublist.nodup own)
    (List.mem_filter.mpr ⟨h, decide_eq_true hown⟩)
    (List.mem_filter.mpr ⟨h', decide_eq_true hown'⟩) hid

/-! ## Looking up templates -/

mutual

/-- Whether some template is looked up while rendering, maybe by a spliced template. -/
def Node.looksUp : Node → Bool
  | .includeBy _ => true
  | .block _ _ body => looksUp body
  | .loop _ _ _ body fallback => looksUp body || looksUp fallback
  | .branch _ yes no => looksUp yes || looksUp no
  | .splice body => looksUp body
  | .spaceless body => looksUp body
  | .trim body => looksUp body
  | .bind _ _ body => looksUp body
  | .text _ | .print .. | .emptyMark | .elifMark _ | .elseMark | .cycle .. => false

def looksUp : List Node → Bool
  | [] => false
  | node :: rest => node.looksUp || looksUp rest

end

mutual

theorem Node.looksUp_of_mem_blocks {block : Block} :
    ∀ {node : Node}, block ∈ node.blocks → TextTemplate.looksUp block.body = true → node.looksUp = true
  | .block id title body, h, hbody => by
      rcases List.mem_cons.mp h with rfl | h
      · exact hbody
      · exact looksUp_of_mem_blocksOf h hbody
  | .loop _ _ _ body fallback, h, hbody => by
      rw [Node.looksUp, Bool.or_eq_true]
      exact (List.mem_append.mp h).imp (fun h => looksUp_of_mem_blocksOf h hbody)
        fun h => looksUp_of_mem_blocksOf h hbody
  | .branch _ yes no, h, hbody => by
      rw [Node.looksUp, Bool.or_eq_true]
      exact (List.mem_append.mp h).imp (fun h => looksUp_of_mem_blocksOf h hbody)
        fun h => looksUp_of_mem_blocksOf h hbody
  | .splice body, h, hbody => looksUp_of_mem_blocksOf (show block ∈ blocksOf body from h) hbody
  | .spaceless body, h, hbody => looksUp_of_mem_blocksOf (show block ∈ blocksOf body from h) hbody
  | .trim body, h, hbody => looksUp_of_mem_blocksOf (show block ∈ blocksOf body from h) hbody
  | .bind _ _ body, h, hbody => looksUp_of_mem_blocksOf (show block ∈ blocksOf body from h) hbody

/-- What a block looks up is looked up by the nodes around it. -/
theorem looksUp_of_mem_blocksOf {block : Block} :
    ∀ {nodes : List Node}, block ∈ blocksOf nodes → looksUp block.body = true → looksUp nodes = true
  | node :: rest, h, hbody => by
      rw [looksUp, Bool.or_eq_true]
      exact (List.mem_append.mp h).imp (fun h => node.looksUp_of_mem_blocks h hbody)
        fun h => looksUp_of_mem_blocksOf h hbody

end

/-- Whether a piece is a template that is looked up or brings along one. -/
def Piece.looksUp : Piece → Bool
  | .lookUp => true
  | .splice body => TextTemplate.looksUp body
  | .block .. | .cycle _ => false

mutual

theorem Node.looksUp_eq_pieces : ∀ node : Node, node.looksUp = node.pieces.any Piece.looksUp
  | .block id title body => by
      simp [Node.looksUp, Node.pieces, Piece.looksUp, looksUp_eq_pieces body]
  | .loop _ _ _ body fallback => by
      simp [Node.looksUp, Node.pieces, looksUp_eq_pieces body, looksUp_eq_pieces fallback]
  | .branch _ yes no => by
      simp [Node.looksUp, Node.pieces, looksUp_eq_pieces yes, looksUp_eq_pieces no]
  | .splice body => by simp [Node.looksUp, Node.pieces, Piece.looksUp]
  | .spaceless body => looksUp_eq_pieces body
  | .trim body => looksUp_eq_pieces body
  | .bind _ _ body => looksUp_eq_pieces body
  | .includeBy _ => rfl
  | .text _ | .print .. | .emptyMark | .elifMark _ | .elseMark | .cycle .. => rfl

theorem looksUp_eq_pieces : ∀ nodes : List Node, looksUp nodes = (piecesOf nodes).any Piece.looksUp
  | [] => rfl
  | node :: rest => by
      simp [looksUp, piecesOf, node.looksUp_eq_pieces, looksUp_eq_pieces rest]

end

/-! ## Templates in place -/

mutual

/-- How many templates were put in place, those inside of others included. -/
def Node.placed : Node → Nat
  | .splice body => placed body + 1
  | .block _ _ body => placed body
  | .loop _ _ _ body fallback => placed body + placed fallback
  | .branch _ yes no => placed yes + placed no
  | .spaceless body => placed body
  | .trim body => placed body
  | .bind _ _ body => placed body
  | .text _ | .print .. | .emptyMark | .elifMark _ | .elseMark | .cycle .. | .includeBy _ => 0

def placed : List Node → Nat
  | [] => 0
  | node :: rest => node.placed + placed rest

end

def Piece.placed : Piece → Nat
  | .splice body => TextTemplate.placed body + 1
  | .block .. | .cycle _ | .lookUp => 0

mutual

theorem Node.placed_eq_pieces : ∀ node : Node, node.placed = (node.pieces.map Piece.placed).sum
  | .block id title body => by
      simp [Node.placed, Node.pieces, Piece.placed, placed_eq_pieces body]
  | .loop _ _ _ body fallback => by
      simp [Node.placed, Node.pieces, placed_eq_pieces body, placed_eq_pieces fallback]
  | .branch _ yes no => by
      simp [Node.placed, Node.pieces, placed_eq_pieces yes, placed_eq_pieces no]
  | .splice body => by simp [Node.placed, Node.pieces, Piece.placed]
  | .spaceless body => placed_eq_pieces body
  | .trim body => placed_eq_pieces body
  | .bind _ _ body => placed_eq_pieces body
  | .text _ | .print .. | .emptyMark | .elifMark _ | .elseMark | .cycle .. | .includeBy _ => rfl

theorem placed_eq_pieces : ∀ nodes : List Node, placed nodes = ((piecesOf nodes).map Piece.placed).sum
  | [] => rfl
  | node :: rest => by
      simp [placed, piecesOf, node.placed_eq_pieces, placed_eq_pieces rest]

end

/-- A template has fewer templates in place than one that has it in place. -/
theorem placed_lt_of_splice {nodes body : List Node} (h : Piece.splice body ∈ piecesOf nodes) :
    placed body < placed nodes := by
  have le : Piece.placed (.splice body) ≤ ((piecesOf nodes).map Piece.placed).sum :=
    List.le_sum_of_mem (List.mem_map_of_mem h)
  rw [placed_eq_pieces nodes]
  exact le

/-! ## The pieces of tokens -/

namespace Opener

def pieces : Opener → List Piece
  | .block id title => [.block id title]
  | .loop .. | .branch _ | .spaceless | .trim | .bind .. => []

theorem pieces_eq_item (opener : Opener) : opener.pieces = opener.item.pieces := by
  cases opener <;> rfl

end Opener

namespace Action

def pieces : Action → List Piece
  | .add node => node.pieces
  | .enter opener => opener.pieces
  | .leave _ => []

theorem pieces_eq_items (action : Action) : action.pieces = action.items.flatMap Item.pieces := by
  cases action with
  | add node => exact node.pieces_eq_items
  | enter opener => rw [pieces, items, List.flatMap_singleton, opener.pieces_eq_item]
  | leave endTag => rfl

theorem flatMap_pieces (actions : List Action) :
    actions.flatMap pieces = (actions.flatMap items).flatMap Item.pieces := by
  rw [List.flatMap_assoc]
  exact List.flatMap_congr fun action _ => action.pieces_eq_items

end Action

end TextTemplate
