import TextTemplate.Proofs.Engine.Lookup
import TextTemplate.Proofs.Engine.Session
import TextTemplate.Proofs.Render.Inheritance

/-!
# Blocks in document order

A source has block tags of its own, and tags that name other templates. With the tags of those
templates in place of the tags that name them, and so on down, the source has its expansion. The blocks
of the program are the block tags of the expansion, one after the other, and the registry lists them
under their titles. What the expansion is follows from the tokens alone: how the tags nest, and which
of them end, does not matter.
-/

namespace TextTemplate

/-! ## Where programs come from -/

/-- The program was compiled from its source in some session. -/
inductive Program.Made (p : Program) : Prop
  | mk {e : Engine} {m m' : Memory} {files : FileSystem} {depth : Nat} (session : Session e m)
      (run : e.compileWithin files depth p.source p.name m = (.ok p, m')) : p.Made

theorem Program.Made.of_compile {e : Engine} {m m' : Memory} {files : FileSystem} {depth : Nat}
    {source : String} {name : Option String} {p : Program} (session : Session e m)
    (run : e.compileWithin files depth source name m = (.ok p, m')) : p.Made := by
  obtain ⟨rfl, rfl, -⟩ := Engine.compileWithin_ok run
  exact .mk session run

namespace Engine

/-- Every program that the engine knows was compiled from its source in some session. -/
def KnowsMade (e : Engine) (m : Memory) : Prop := ∀ p, Known e (fun _ => False) m p → p.Made

variable {e : Engine} {m : Memory} {files : FileSystem} {depth : Nat}

/-- What a load gives was compiled in some session, and so was all that is known after it. -/
theorem loadWith_made (session : Session e m) (made : e.KnowsMade m)
    (compiles : ∀ source name, e.KnowsMade (e.compileWithin files depth source name m).2)
    (names : List String) :
    e.KnowsMade (e.loadWith files (e.compileWithin files depth) names m).2 ∧
      ∀ p, (e.loadWith files (e.compileWithin files depth) names m).1 = .ok p → p.Made := by
  have load := @loadWith_cases e files (fun _ => False) (e.compileWithin files depth) names m
  generalize e.loadWith files (e.compileWithin files depth) names m = r at load
  cases load with
  | known h =>
      refine ⟨made, ?_⟩
      rintro _ ⟨⟩
      exact made _ h
  | failed error => exact ⟨made, nofun⟩
  | @broken source name error n run =>
      have after := compiles source name
      rw [run] at after
      exact ⟨after, nofun⟩
  | @compiled source name p q n k run given kept =>
      have after := compiles source name
      rw [run] at after
      have new : ∀ r, r = p ∨ Known e (fun _ => False) n r → r.Made := by
        rintro r (rfl | known)
        · exact .of_compile session run
        · exact after r known
      refine ⟨fun r hr => new r (kept r hr), ?_⟩
      rintro _ ⟨⟩
      exact new q given

theorem compileWithin_made (files : FileSystem) (depth : Nat) (source : String) (name : Option String)
    (session : Session e m) (made : e.KnowsMade m) :
    e.KnowsMade (e.compileWithin files depth source name m).2 := by
  induction depth generalizing source name m with
  | zero => exact made
  | succ depth ih =>
      refine (compileSource_keeps (I := fun n => Session e n ∧ e.KnowsMade n)
        (fun h => ⟨h.1.draw, h.2⟩) (fun names h => ⟨h.1.load files depth names, ?_⟩) source name
        ⟨session, made⟩).2
      exact (loadWith_made h.1 h.2 (fun source name => ih source name h.1 h.2) names).1

end Engine

namespace Session

variable {e : Engine} {m : Memory}

theorem knowsMade (h : Session e m) : e.KnowsMade m := by
  induction h with
  | start delimiters nextId =>
      rintro p (h | ⟨name, h⟩ | ⟨name, entry, h, -⟩)
      · exact h.elim
      · cases h
      · cases h
  | addFilter _ _ _ ih | addBuiltin _ _ _ ih | setLimit _ _ ih | draw _ ih => exact ih
  | setLoader _ run ih =>
      cases run
      rintro p (h | h | ⟨name, entry, h, -⟩)
      · exact h.elim
      · exact ih p (.inr (.inl h))
      · cases h
  | @addTemplate e m h files name source e' m' run ih =>
      obtain ⟨p, hp, rfl⟩ := Engine.addTemplate_ok run
      have after := Engine.compileWithin_made files e.maxIncludeDepth source (some name) h ih
      rw [hp] at after
      intro q hq
      rcases hq.of_added with rfl | known
      · exact .of_compile h hp
      · exact after q known
  | compile h files depth source name ih => exact Engine.compileWithin_made files depth source name h ih
  | load h files depth names ih =>
      exact (Engine.loadWith_made h ih
        (fun source name => Engine.compileWithin_made files depth source name h ih) names).1
  | @render e m h p world depth data ih =>
      refine (Program.renderWithin_keeps (I := fun n => Session e n ∧ e.KnowsMade n)
        (fun names hn => ⟨hn.1.load world.files e.maxIncludeDepth names, ?_⟩) ⟨h, ih⟩ p depth data).2
      exact (Engine.loadWith_made hn.1 hn.2
        (fun source name => Engine.compileWithin_made world.files e.maxIncludeDepth source name hn.1 hn.2)
        names).1

/-- What a load gives in a session was compiled in some session. -/
theorem loaded_made (h : Session e m) {files : FileSystem} {depth : Nat} {names : List String}
    {p : Program} {n : Memory}
    (run : e.loadWith files (e.compileWithin files depth) names m = (.ok p, n)) : p.Made :=
  (Engine.loadWith_made h h.knowsMade (fun source name =>
    Engine.compileWithin_made files depth source name h h.knowsMade) names).2 p (by rw [run])

end Session

/-! ## Expansions -/

/-- What reads a source that is compiled where at most `depth` templates may be compiled inside one
another, this one included. -/
def Engine.reader (e : Engine) (files : FileSystem) (depth : Nat) (source : String) : TagReader where
  filters := e.filters
  source
  load := e.loadWith files (e.compileWithin files (depth - 1))

/-- The number that was drawn for a block tag or a cycle tag, with the title of the block. -/
structure Stamp where
  number : Nat
  title : Option String

/-- The block that a stamp belongs to. -/
def Stamp.block? (s : Stamp) : Option (Nat × String) := s.title.map (s.number, ·)

/-- The expansion of the tokens that are read from a memory on: the numbers of their own blocks and
cycles, and the stamps of all blocks and cycles, with the expansion of each template that a tag names in
the place of the tag. -/
inductive Expands : TagReader → Memory → List Token → List Nat → List Stamp → Prop
  | nil {r m} : Expands r m [] [] []
  | other {r m t ts own stamps action} (reading : t.reading r.filters = .ok (.action action))
      (rest : Expands r m ts own stamps) : Expands r m (t :: ts) own stamps
  | cycle {r m t ts own stamps items} (reading : t.reading r.filters = .ok (.cycle items))
      (rest : Expands r m.drawn ts own stamps) :
      Expands r m (t :: ts) (m.nextId :: own) (⟨m.nextId, none⟩ :: stamps)
  | block {r m t ts own stamps title} (reading : t.reading r.filters = .ok (.block title))
      (rest : Expands r m.drawn ts own stamps) :
      Expands r m (t :: ts) (m.nextId :: own) (⟨m.nextId, some title⟩ :: stamps)
  | splice {r m t ts own stamps names p m₁ e n files depth n' inner inside}
      (reading : t.reading r.filters = .ok (.splice names)) (load : r.load names m = (.ok p, m₁))
      (session : Session e n) (run : e.compileWithin files depth p.source p.name n = (.ok p, n'))
      (expands : Expands (e.reader files depth p.source) n (e.delimiters.tokens p.source.toList) inner
        inside)
      (rest : Expands r m₁ ts own stamps) : Expands r m (t :: ts) own (inside ++ stamps)

section

variable {e : Engine} {m m' : Memory} {files : FileSystem} {depth : Nat}

/-- A program that has been compiled has the pieces of its tokens. -/
theorem Engine.performs_of_compile {source : String} {name : Option String} {p : Program}
    (run : e.compileWithin files depth source name m = (.ok p, m')) :
    ∃ actions n, (e.reader files depth source).Performs m (e.delimiters.tokens source.toList) actions n ∧
      piecesOf p.root = actions.flatMap Action.pieces ∧ m' = n.drawn := by
  cases depth with
  | zero => cases run
  | succ depth =>
      obtain ⟨n, hnodes, hdrawn, -, -⟩ := Engine.compileSource_ok run
      obtain ⟨actions, performs, pieces⟩ := TagReader.performs_of_nodes hnodes
      exact ⟨actions, n, performs, pieces, hdrawn⟩

/-- Tokens that were read have an expansion if the templates that they name have one. -/
theorem exists_expands_of_performs {source : String} {ts : List Token} {actions : List Action}
    (performs : (e.reader files depth source).Performs m ts actions m') (session : Session e m)
    (parts : ∀ p : Program, Piece.splice p.root ∈ actions.flatMap Action.pieces →
      ∀ {e' : Engine} {n n' files' depth'}, Session e' n →
        e'.compileWithin files' depth' p.source p.name n = (.ok p, n') → ∃ own stamps,
          Expands (e'.reader files' depth' p.source) n (e'.delimiters.tokens p.source.toList) own stamps) :
    ∃ own stamps, Expands (e.reader files depth source) m ts own stamps := by
  induction ts generalizing m actions with
  | nil => exact ⟨[], [], .nil⟩
  | cons t ts ih =>
      cases performs with
      | @cons _ _ action actions _ m₁ _ first rest =>
          have later := fun session => ih rest session fun p hp =>
            parts p (by rw [List.flatMap_cons]; exact List.mem_append_right _ hp)
          rcases TagReader.action_ok first with ⟨a, reading, rfl, -⟩ | ⟨items, reading, rfl, -⟩ |
            ⟨title, reading, rfl, -⟩ | ⟨names, p, reading, load, pieces⟩
          · obtain ⟨own, stamps, expands⟩ := later session
            exact ⟨own, stamps, .other reading expands⟩
          · obtain ⟨own, stamps, expands⟩ := later session.draw
            exact ⟨_, _, .cycle reading expands⟩
          · obtain ⟨own, stamps, expands⟩ := later session.draw
            exact ⟨_, _, .block reading expands⟩
          · have loaded := session.load files (depth - 1) names
            have run : e.loadWith files (e.compileWithin files (depth - 1)) names m = (.ok p, m₁) := load
            rw [run] at loaded
            obtain ⟨own, stamps, expands⟩ := later loaded
            obtain ⟨session', run'⟩ := session.loaded_made run
            have here : Piece.splice p.root ∈ (action :: actions).flatMap Action.pieces := by
              rw [List.flatMap_cons, pieces]
              exact List.mem_cons_self
            obtain ⟨inner, inside, expands'⟩ := parts p here session' run'
            exact ⟨own, inside ++ stamps, .splice reading load session' run' expands' expands⟩

/-- Every source that compiles in a session has an expansion. -/
theorem exists_expands (session : Session e m) {source : String} {name : Option String} {p : Program}
    (run : e.compileWithin files depth source name m = (.ok p, m')) :
    ∃ own stamps, Expands (e.reader files depth source) m (e.delimiters.tokens source.toList) own
      stamps := by
  -- A template that is put in place has fewer templates in place than the one around it.
  generalize size : placed p.root = bound
  induction bound using Nat.strong_induction_on generalizing e m m' files depth source name p with
  | _ bound ih =>
      obtain ⟨actions, n, performs, pieces, -⟩ := Engine.performs_of_compile run
      refine exists_expands_of_performs performs session ?_
      intro q hq e' n n' files' depth' session' run'
      rw [← pieces] at hq
      have smaller : placed q.root < bound := size ▸ placed_lt_of_splice hq
      exact ih (placed q.root) smaller session' run' rfl

/-- The stamps of an expansion are those of the pieces. -/
theorem Expands.pieces {r : TagReader} {ts : List Token} {own : List Nat} {stamps : List Stamp}
    (h : Expands r m ts own stamps) {actions : List Action} {k : Memory}
    (performs : r.Performs m ts actions k) :
    own = (actions.flatMap Action.pieces).flatMap Piece.own ∧
      stamps.filterMap Stamp.block? = (actions.flatMap Action.pieces).flatMap Piece.blocks ∧
      stamps.map Stamp.number = (actions.flatMap Action.pieces).flatMap Piece.ids := by
  induction h generalizing actions k with
  | nil =>
      cases performs
      exact ⟨rfl, rfl, rfl⟩
  | other reading _ ih =>
      obtain - | ⟨first, rest⟩ := performs
      rw [TagReader.action_run, reading] at first
      cases first
      rw [List.flatMap_cons]
      rcases Token.pieces_of_reading reading with pieces | pieces
      · rw [pieces]
        exact ih rest
      · rw [pieces]
        exact ih rest
  | cycle reading _ ih =>
      obtain - | ⟨first, rest⟩ := performs
      rw [TagReader.action_run, reading] at first
      cases first
      obtain ⟨hown, hblocks, hnumbers⟩ := ih rest
      exact ⟨congrArg _ hown, hblocks, congrArg _ hnumbers⟩
  | block reading _ ih =>
      obtain - | ⟨first, rest⟩ := performs
      rw [TagReader.action_run, reading] at first
      cases first
      obtain ⟨hown, hblocks, hnumbers⟩ := ih rest
      exact ⟨congrArg _ hown, congrArg _ hblocks, congrArg _ hnumbers⟩
  | splice reading load session run _ _ ihInside ih =>
      obtain - | ⟨first, rest⟩ := performs
      rw [TagReader.action_run, reading] at first
      dsimp only at first
      rw [load] at first
      cases first
      obtain ⟨hown, hblocks, hnumbers⟩ := ih rest
      -- The stamps of the template in place are those of its own pieces.
      obtain ⟨inner, n, performs', pieces, -⟩ := Engine.performs_of_compile run
      obtain ⟨-, hblocks', hnumbers'⟩ := ihInside performs'
      rw [← pieces, ← blocksOf_eq_pieces] at hblocks'
      rw [← pieces, ← idsOf_eq_pieces] at hnumbers'
      refine ⟨hown, ?_, ?_⟩
      · rw [List.filterMap_append, hblocks, hblocks']
        rfl
      · rw [List.map_append, hnumbers, hnumbers']
        rfl

/-- The registry of a program that compiles in a session lists under each title the blocks of that title
in the order of the document: those whose tags the expansion of the source has, none left out and none
twice, wherever the tags stand. The blocks and cycles of the source itself have one number each. No other
block or cycle of the program has it, none that was numbered before, and none of a program that the engine
knows. -/
theorem Session.registry_in_document_order (h : Session e m) {source : String} {name : Option String}
    {p : Program} (run : e.compileWithin files depth source name m = (.ok p, m')) :
    (∃ own stamps, Expands (e.reader files depth source) m (e.delimiters.tokens source.toList) own
      stamps) ∧
    ∀ own stamps, Expands (e.reader files depth source) m (e.delimiters.tokens source.toList) own stamps →
      (∀ title, ((p.blocks.find? title).getD []).map Block.key =
        (stamps.filterMap Stamp.block?).filter (·.2 == title)) ∧
      (∀ title, (p.blocks.find? title).getD [] = titled title (blocksOf p.root)) ∧
      own.Nodup ∧ ∀ id ∈ own, (stamps.map Stamp.number).count id = 1 ∧
        m.nextId ≤ id ∧ id < m'.nextId ∧ ∀ q, Known e (fun _ => False) m' q → id ∉ idsOf q.root := by
  refine ⟨exists_expands h run, ?_⟩
  intro own stamps expands
  obtain ⟨actions, n, performs, pieces, rfl⟩ := Engine.performs_of_compile run
  obtain ⟨-, -, hblocks⟩ := Engine.compileWithin_ok run
  obtain ⟨hown, hstamps, hnumbers⟩ := expands.pieces performs
  have loads : LoadsFormed e (e.reader files depth source).load :=
    Engine.loadWith_delivers (Engine.compileWithin_delivers files (depth - 1)) files
  obtain ⟨-, held, -, sound, brought⟩ := performs.brought loads h.sound
  have listed : ∀ title, (p.blocks.find? title).getD [] = titled title (blocksOf p.root) := by
    intro title
    rw [hblocks]
    exact find?_foldl_registerBlock (blocksOf p.root) [] title
  -- While the source was read, its own numbers were pending: nothing that was known had them.
  have foreign : ∀ {q}, Known e held n q → ∀ id ∈ idsOf q.root, id ∉ own := by
    intro q known id hid
    have apart := Brought.foreign sound pieces known hid
    rwa [Brought.ownIds_eq pieces, ← hown] at apart
  refine ⟨?_, listed, hown ▸ brought.nodup, ?_⟩
  · intro title
    rw [listed, hstamps, ← pieces, ← blocksOf_eq_pieces, List.filter_map]
    rfl
  · intro id hid
    have single : (stamps.map Stamp.number).count id = 1 := by
      have outside : ∀ body, Piece.splice body ∈ actions.flatMap Action.pieces → id ∉ idsOf body := by
        intro body hbody inside
        obtain ⟨q, known, rfl⟩ := brought.known_part (e := e) (m := n) hbody
        exact foreign known id inside hid
      rw [hnumbers, count_ids outside, ← hown]
      exact List.count_eq_one_of_mem (hown ▸ brought.nodup) hid
    rw [hown] at hid
    refine ⟨single, brought.own id hid, Nat.lt_succ_of_lt (sound.below id (.inr hid)), ?_⟩
    intro q known inside
    exact foreign (known.mono fun _ => False.elim) id inside (hown ▸ hid)

end

/-- The derived template has the block of the base in front of its own block of the same title. -/
theorem Session.registry_in_document_order_derived :
    Session twoTemplates ⟨0, []⟩ ∧
    twoTemplates.compileWithin .empty 2 derivedSource none ⟨0, []⟩ =
      (.ok derivedProgram, ⟨4, [("base", ⟨none, baseProgram⟩)]⟩) ∧
    ∃ own stamps, Expands (twoTemplates.reader .empty 2 derivedSource) ⟨0, []⟩
        (twoTemplates.delimiters.tokens derivedSource.toList) own stamps ∧
      (stamps.filterMap Stamp.block?).filter (·.2 == "x") = [(0, "x"), (2, "x")] ∧
      own.Nodup ∧ ∀ id ∈ own, (stamps.map Stamp.number).count id = 1 := by
  obtain ⟨⟨own, stamps, expands⟩, all⟩ :=
    Session.registry_in_document_order twoTemplates_session compile_derivedSource
  obtain ⟨listed, -, nodup, single⟩ := all own stamps expands
  have registered : ((derivedProgram.blocks.find? "x").getD []).map Block.key = [(0, "x"), (2, "x")] :=
    rfl
  refine ⟨twoTemplates_session, compile_derivedSource, own, stamps, expands, ?_, nodup, ?_⟩
  · exact (listed "x").symm.trans registered
  · exact fun id hid => (single id hid).1

end TextTemplate
