import TextTemplate.Proofs.Engine.Session

/-!
# Templates that extend each other

A template whose first tag names its parent, and no other tag names a template, adds its nodes to the
document of the parent. In the document that comes about the blocks of the base stand first, then
those of each further template, and all blocks are different.
-/

namespace TextTemplate

namespace TagReader

variable {r : TagReader}

/-- A tag that names no template brings along a block or a cycle at most. -/
theorem action_local {t : Token} {action : Action} {m m' : Memory} (plain : ¬ t.Inclusion)
    (h : r.action t m = (.ok action, m')) :
    action.pieces = [] ∨ (∃ title, action.pieces = [.block m.nextId title]) ∨
      action.pieces = [.cycle m.nextId] := by
  rw [action_run] at h
  cases hreading : t.reading r.filters with
  | error cause =>
      rw [hreading] at h
      cases h
  | ok reading =>
      rw [hreading] at h
      cases t.local_of_not_inclusion plain hreading with
      | action hpieces =>
          cases h
          exact .inl hpieces
      | cycle items =>
          cases h
          exact .inr (.inr rfl)
      | block title =>
          cases h
          exact .inr (.inl ⟨title, rfl⟩)

/-- The pieces of tags that name no template. -/
theorem Performs.local {ts : List Token} {actions : List Action} {m m' : Memory}
    (h : r.Performs m ts actions m') (plain : ∀ t ∈ ts, ¬ t.Inclusion) :
    ∀ piece ∈ actions.flatMap Action.pieces, (∃ id title, piece = .block id title) ∨
      ∃ id, piece = .cycle id := by
  induction h with
  | nil m => exact nofun
  | cons first rest ih =>
      intro piece hmem
      rw [List.flatMap_cons, List.mem_append] at hmem
      rcases hmem with hmem | hmem
      · rcases action_local (plain _ List.mem_cons_self) first with
          hpieces | ⟨title, hpieces⟩ | hpieces
        · rw [hpieces] at hmem
          cases hmem
        · rw [hpieces, List.mem_singleton] at hmem
          exact .inl ⟨_, title, hmem⟩
        · rw [hpieces, List.mem_singleton] at hmem
          exact .inr ⟨_, hmem⟩
      · exact ih (fun t ht => plain t (List.mem_cons_of_mem _ ht)) piece hmem

end TagReader

/-! ## The first node -/

namespace Outline

theorem getLast?_add {o : Outline} {first : Node} (h : o.nodes.getLast? = some first) (node : Node) :
    (o.add node).nodes.getLast? = some first := by
  obtain ⟨frames, nodes⟩ := o
  cases frames with
  | nil => simpa [add, List.getLast?_cons] using congrArg (·.getD node) h
  | cons frame frames => exact h

/-- The first node of a document stays the first one. -/
theorem getLast?_act {o o' : Outline} {first : Node} (h : o.nodes.getLast? = some first)
    {span : Span} {action : Action} (hact : o.act span action = .ok o') :
    o'.nodes.getLast? = some first := by
  cases action with
  | add node =>
      cases hact
      exact getLast?_add h node
  | enter opener =>
      cases hact
      exact h
  | leave endTag =>
      obtain ⟨frames, nodes⟩ := o
      cases frames with
      | nil => cases hact
      | cons frame frames =>
          simp only [act, leave] at hact
          split at hact
          · cases hact
            exact getLast?_add (show (Outline.mk frames nodes).nodes.getLast? = some first from h) _
          · cases hact

end Outline

theorem TagReader.getLast?_outline {r : TagReader} {ts : List Token} {o o' : Outline}
    {m m' : Memory} {first : Node} (h : o.nodes.getLast? = some first)
    (run : r.outline o ts m = (.ok o', m')) : o'.nodes.getLast? = some first := by
  induction ts generalizing o m with
  | nil =>
      cases run
      exact h
  | cons t ts ih =>
      obtain ⟨action, m₁, o₁, -, hact, rest⟩ := outline_ok run
      exact ih (Outline.getLast?_act h hact) rest

/-! ## Lineages -/

/-- How a program comes about from templates that extend each other, in any sessions. The levels are
the nodes that the templates add, those of the base first. -/
inductive Lineage : Program → List (List Node) → Prop
  | base {e : Engine} {m m' : Memory} {files : FileSystem} {depth : Nat} {p : Program}
      (session : Session e m)
      (run : e.compileWithin files depth p.source p.name m = (.ok p, m'))
      (plain : ∀ t ∈ e.delimiters.tokens p.source.toList, ¬ t.Inclusion) :
      Lineage p [p.root]
  /-- The first tag names the parent, and no other tag names a template. -/
  | derived {e : Engine} {m m₁ m' : Memory} {files : FileSystem} {depth : Nat} {p q : Program}
      {t : Token} {ts : List Token} {names : List String} {levels : List (List Node)}
      (session : Session e m)
      (run : e.compileWithin files (depth + 1) p.source p.name m = (.ok p, m'))
      (tokens : e.delimiters.tokens p.source.toList = t :: ts)
      (reading : t.reading e.filters = .ok (.splice names))
      (parent : e.loadWith files (e.compileWithin files depth) names m = (.ok q, m₁))
      (plain : ∀ t ∈ ts, ¬ t.Inclusion)
      (lineage : Lineage q levels) : Lineage p (levels ++ [p.root.tail])

/-- A template that starts with another one is that one, with nodes behind it. -/
theorem TagReader.root_of_splice {r : TagReader} {t : Token} {ts : List Token} {names : List String}
    {q : Program} {root : List Node} {m m₁ m' : Memory}
    (reading : t.reading r.filters = .ok (.splice names)) (parent : r.load names m = (.ok q, m₁))
    (plain : ∀ t ∈ ts, ¬ t.Inclusion) (run : r.nodes (t :: ts) m = (.ok root, m')) :
    root = .splice q.root :: root.tail ∧
      ∀ piece ∈ piecesOf root.tail, (∃ id title, piece = .block id title) ∨
        ∃ id, piece = .cycle id := by
  have first : r.action t m = (.ok (.add (.splice q.root)), m₁) := by
    rw [action_run, reading]
    simp only [parent]
  obtain ⟨o, hout, hfinish⟩ := nodes_ok run
  rw [outline_cons, first] at hout
  change r.outline (Outline.start.add (.splice q.root)) ts m₁ = _ at hout
  -- The parent is the first node of the outline, and no later token changes that.
  have hlast : o.nodes.getLast? = some (.splice q.root) := getLast?_outline rfl hout
  have hroot : root = .splice q.root :: root.tail := by
    obtain ⟨frames, nodes⟩ := o
    cases frames with
    | cons frame frames => cases hfinish
    | nil =>
        cases hfinish
        rw [← List.head?_reverse] at hlast
        exact List.eq_cons_of_mem_head? hlast
  refine ⟨hroot, ?_⟩
  -- Behind it stand the pieces of the other tokens, none of which names a template.
  obtain ⟨actions, hperforms, hitems⟩ := performs_of_outline hout
  rw [← Outline.items_finish hfinish, hroot] at hitems
  have hrest : itemsOf root.tail = actions.flatMap Action.items := by
    simpa [itemsOf, Node.items, Outline.items_add] using hitems
  rw [piecesOf_eq_items, hrest, ← Action.flatMap_pieces]
  exact hperforms.local plain

/-- The document that a lineage comes to. -/
structure Assembled (p : Program) (levels : List (List Node)) : Prop where
  blocks : p.blocks = registryOf p.root
  document : blocksOf p.root = levels.flatMap blocksOf
  distinct : ((blocksOf p.root).map (·.id)).Nodup
  complete : looksUp p.root = false

/-- Pieces without other templates bring along their own numbers only, and look up nothing. -/
theorem own_of_local {nodes : List Node}
    (h : ∀ piece ∈ piecesOf nodes, (∃ id title, piece = .block id title) ∨
      ∃ id, piece = .cycle id) :
    idsOf nodes = ownIds nodes ∧ looksUp nodes = false := by
  constructor
  · rw [idsOf_eq_pieces, ownIds]
    refine List.flatMap_congr fun piece hmem => ?_
    rcases h piece hmem with ⟨id, title, rfl⟩ | ⟨id, rfl⟩ <;> rfl
  · rw [looksUp_eq_pieces, List.any_eq_false]
    intro piece hmem
    rcases h piece hmem with ⟨id, title, rfl⟩ | ⟨id, rfl⟩ <;> simp [Piece.looksUp]

theorem Lineage.assembled {p : Program} {levels : List (List Node)} (h : Lineage p levels) :
    Assembled p levels := by
  induction h with
  | @base e m m' files depth p session run plain =>
      have formed := session.formed run
      obtain ⟨depth, rfl⟩ : ∃ d, depth = d + 1 := by
        cases depth with
        | zero => cases run
        | succ d => exact ⟨d, rfl⟩
      obtain ⟨m₁, hnodes, -⟩ := Engine.compileSource_ok run
      obtain ⟨actions, hperforms, hpieces⟩ := TagReader.performs_of_nodes hnodes
      obtain ⟨hids, hlooksUp⟩ := own_of_local (hpieces ▸ hperforms.local plain)
      cases formed.stamped with
      | mk own parts apart =>
          exact ⟨formed.blocks, by simp, (hids ▸ own).sublist (blockIds_sublist p.root), hlooksUp⟩
  | @derived e m m₀ m' files depth p q t ts names levels session run tokens reading parent plain
      lineage ih =>
      have formed := session.formed run
      obtain ⟨m₂, hnodes, -⟩ := Engine.compileSource_ok run
      rw [tokens] at hnodes
      let r : TagReader := ⟨e.filters, p.source, e.loadWith files (e.compileWithin files depth)⟩
      obtain ⟨hroot, hlocal⟩ := TagReader.root_of_splice (r := r) reading parent plain hnodes
      obtain ⟨hids, hlooksUp⟩ := own_of_local hlocal
      have hpieces : piecesOf p.root = .splice q.root :: piecesOf p.root.tail := by
        rw [hroot]
        rfl
      have hown : ownIds p.root = ownIds p.root.tail := by
        rw [ownIds, hpieces]
        rfl
      cases formed.stamped with
      | mk own parts apart =>
          refine ⟨formed.blocks, ?_, ?_, ?_⟩
          · rw [hroot, List.flatMap_append, ← ih.document]
            simp [blocksOf, Node.blocks]
          · rw [hroot]
            simp only [blocksOf, Node.blocks, List.map_append]
            refine List.nodup_append.mpr ⟨ih.distinct, ?_, ?_⟩
            · have : (idsOf p.root.tail).Nodup := by
                rw [hids, ← hown]
                exact own
              exact this.sublist (blockIds_sublist p.root.tail)
            -- The numbers of a template that is put in place are none of the template's own.
            · intro id hid other hother
              have inside := (blockIds_sublist q.root).subset (by simpa using hid)
              have outside := apart q.root (by rw [hpieces]; exact List.mem_cons_self) id inside
              rw [hown, ← hids] at outside
              rintro rfl
              exact outside ((blockIds_sublist p.root.tail).subset hother)
          · rw [hroot]
            simp [looksUp, Node.looksUp, ih.complete, hlooksUp]

end TextTemplate
