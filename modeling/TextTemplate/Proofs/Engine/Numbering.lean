import TextTemplate.Engine.Basic
import TextTemplate.Proofs.Template.Reading

/-!
# Numbers of blocks and cycles

Compiling draws a new number for each block and each cycle. A template therefore numbers its own
blocks and cycles differently from each other and from those of every template it puts in place,
although templates that are put in place twice bring the same numbers along twice.

While a template is being compiled, others may be compiled or found in the cache. The numbers that it
has drawn so far are `pending` then: no program that is known uses one of them, and none will.
-/

namespace TextTemplate

/-- A template has numbered its own blocks and cycles differently, and so did all templates that were
put in place. -/
inductive Stamped : List Node → Prop
  | mk {root : List Node} (own : (ownIds root).Nodup)
      (parts : ∀ body, Piece.splice body ∈ piecesOf root → Stamped body)
      (apart : ∀ body, Piece.splice body ∈ piecesOf root → ∀ id ∈ idsOf body, id ∉ ownIds root) :
      Stamped root

/-- A program as compiling makes it: its numbers lie below the bound and are not pending. -/
structure Formed (pending : Nat → Prop) (bound : Nat) (p : Program) : Prop where
  blocks : p.blocks = registryOf p.root
  ids : ∀ id ∈ idsOf p.root, id < bound ∧ ¬ pending id
  stamped : Stamped p.root

/-- The programs that an engine knows, and those that are held by someone else. -/
def Known (e : Engine) (held : Program → Prop) (m : Memory) (p : Program) : Prop :=
  held p ∨ (∃ name, e.templates.find? name = some p) ∨
    ∃ name entry, m.cache.find? name = some entry ∧ entry.program = p

/-- All known programs are formed, and the number of a block tells which block it is in any of them.
-/
structure Sound (e : Engine) (held : Program → Prop) (pending : Nat → Prop) (m : Memory) : Prop where
  below : ∀ id, pending id → id < m.nextId
  formed : ∀ {p}, Known e held m p → Formed pending m.nextId p
  same : ∀ {p q}, Known e held m p → Known e held m q →
    ∀ {b b'}, b ∈ blocksOf p.root → b' ∈ blocksOf q.root → b.id = b'.id → b = b'

variable {e : Engine} {held : Program → Prop} {pending : Nat → Prop} {m : Memory}

theorem Known.mono {held' : Program → Prop} (hheld : ∀ p, held p → held' p) {p : Program}
    (h : Known e held m p) : Known e held' m p :=
  h.imp_left (hheld p)

theorem Formed.mono {bound bound' : Nat} {p : Program} (h : Formed pending bound p)
    (hbound : bound ≤ bound') {pending' : Nat → Prop}
    (hpending : ∀ id < bound, pending' id → pending id) : Formed pending' bound' p where
  blocks := h.blocks
  ids id hid := ⟨Nat.lt_of_lt_of_le (h.ids id hid).1 hbound,
    fun hp => (h.ids id hid).2 (hpending id (h.ids id hid).1 hp)⟩
  stamped := h.stamped

/-- The number that is drawn next may become pending. -/
theorem Sound.drawn (h : Sound e held pending m) :
    Sound e held (fun id => pending id ∨ id = m.nextId) m.drawn where
  below id hid := by
    rcases hid with hid | rfl
    · exact Nat.lt_succ_of_lt (h.below id hid)
    · exact Nat.lt_succ_self _
  formed hp := (h.formed hp).mono (Nat.le_succ _) fun id hid hor =>
    hor.resolve_right (Nat.ne_of_lt hid)
  same := h.same

theorem Sound.mono {held' : Program → Prop} {pending' : Nat → Prop} (h : Sound e held pending m)
    (hheld : ∀ p, held' p → held p) (hpending : ∀ id, pending' id → pending id) :
    Sound e held' pending' m where
  below id hid := h.below id (hpending id hid)
  formed hp := (h.formed (hp.mono hheld)).mono (Nat.le_refl _) fun id _ => hpending id
  same hp hq := h.same (hp.mono hheld) (hq.mono hheld)

theorem Known.of_insert {name : String} {entry : CacheEntry} {p : Program}
    (h : Known e held { m with cache := m.cache.insert name entry } p) :
    Known e (fun p => held p ∨ p = entry.program) m p := by
  rcases h with h | h | ⟨other, found, hfind, rfl⟩
  · exact .inl (.inl h)
  · exact .inr (.inl h)
  · rcases NameMap.of_find?_insert hfind with ⟨-, rfl⟩ | hfind
    · exact .inl (.inr rfl)
    · exact .inr (.inr ⟨other, found, hfind, rfl⟩)

/-- A program that is held may be kept. -/
theorem Sound.insert {name : String} {entry : CacheEntry}
    (h : Sound e (fun p => held p ∨ p = entry.program) pending m) :
    Sound e (fun p => held p ∨ p = entry.program) pending
      { m with cache := m.cache.insert name entry } where
  below := h.below
  formed hp := h.formed (hp.of_insert.mono fun _ hheld => hheld.elim id .inr)
  same hp hq := h.same (hp.of_insert.mono fun _ hheld => hheld.elim id .inr)
    (hq.of_insert.mono fun _ hheld => hheld.elim id .inr)

/-- What becomes of the memory while compiling or loading: it stays sound and numbers are only drawn.
-/
structure Grown (e : Engine) (held : Program → Prop) (pending : Nat → Prop) (m m' : Memory) : Prop where
  sound : Sound e held pending m'
  le : m.nextId ≤ m'.nextId

theorem Grown.refl (h : Sound e held pending m) : Grown e held pending m m := ⟨h, (Nat.le_refl _)⟩

theorem Grown.drawn (h : Sound e held pending m) : Grown e held pending m m.drawn :=
  ⟨h.drawn.mono (fun _ => id) fun _ => .inl, Nat.le_succ _⟩

theorem Grown.trans {m₁ m₂ : Memory} (h : Grown e held pending m m₁) (h' : Grown e held pending m₁ m₂) :
    Grown e held pending m m₂ :=
  ⟨h'.sound, Nat.le_trans h.le h'.le⟩

/-- The outcome of compiling or loading a program, which may be held from then on. -/
structure Delivers (e : Engine) (held : Program → Prop) (pending : Nat → Prop) (m : Memory)
    (r : Except Error Program × Memory) : Prop extends Grown e held pending m r.2 where
  holding : ∀ {p}, r.1 = .ok p → Sound e (fun q => held q ∨ q = p) pending r.2

theorem Delivers.of_error {m' : Memory} (h : Grown e held pending m m') (error : Error) :
    Delivers e held pending m (.error error, m') :=
  { h with holding := nofun }

theorem Delivers.of_ok {m' : Memory} {p : Program}
    (h : Sound e (fun q => held q ∨ q = p) pending m') (hle : m.nextId ≤ m'.nextId) :
    Delivers e held pending m (.ok p, m') where
  sound := h.mono (fun _ => .inl) fun _ => id
  le := hle
  holding := by
    rintro _ ⟨⟩
    exact h

/-- A program that is known already. -/
theorem Delivers.of_known (h : Sound e held pending m) {p : Program} (hp : Known e held m p) :
    Delivers e held pending m (.ok p, m) := by
  have known : ∀ {q}, Known e (fun q => held q ∨ q = p) m q → Known e held m q := by
    rintro q ((hq | rfl) | hq)
    · exact .inl hq
    · exact hp
    · exact .inr hq
  refine .of_ok ⟨h.below, fun hq => h.formed (known hq), fun hq hr => h.same (known hq) (known hr)⟩
    (Nat.le_refl _)

theorem Delivers.trans {m₁ : Memory} {r : Except Error Program × Memory}
    (h : Grown e held pending m m₁) (h' : Delivers e held pending m₁ r) : Delivers e held pending m r :=
  { h.trans h'.toGrown with holding := h'.holding }

/-- Compiles a program and goes on with it. -/
theorem Delivers.bind {act : MemoryM Program} {next : Program → MemoryM Program}
    (h : Delivers e held pending m (act m))
    (hnext : ∀ p m', Sound e (fun q => held q ∨ q = p) pending m' →
      Delivers e held pending m' (next p m')) : Delivers e held pending m ((act >>= next) m) := by
  rw [MemoryM.bind_run]
  rcases hact : act m with ⟨error | p, m'⟩
  · rw [hact] at h
    exact .of_error h.toGrown error
  · rw [hact] at h
    exact .trans h.toGrown (hnext p m' (h.holding rfl))

/-- Loading delivers formed programs in sound memories. -/
def LoadsFormed (e : Engine) (load : List String → MemoryM Program) : Prop :=
  ∀ held pending names m, Sound e held pending m → Delivers e held pending m (load names m)

/-! ## Reading -/

namespace TagReader

variable {r : TagReader}

theorem outline_grown (hload : LoadsFormed e r.load) (ts : List Token) (o : Outline)
    (hs : Sound e held pending m) : Grown e held pending m (r.outline o ts m).2 := by
  refine outline_keeps (I := Grown e held pending m) (fun h => ?_) (fun names h => ?_) ts o (.refl hs)
  · exact h.trans (.drawn h.sound)
  · exact h.trans (hload held pending names _ h.sound).toGrown

/-- What reading a token does that succeeds, by what the token reads as. -/
theorem action_ok {t : Token} {action : Action} {m' : Memory}
    (h : r.action t m = (.ok action, m')) :
    (∃ a, t.reading r.filters = .ok (.action a) ∧ m' = m ∧
      (action.pieces = [] ∨ action.pieces = [.lookUp])) ∨
    (∃ items, t.reading r.filters = .ok (.cycle items) ∧ m' = m.drawn ∧
      action.pieces = [.cycle m.nextId]) ∨
    (∃ title, t.reading r.filters = .ok (.block title) ∧ m' = m.drawn ∧
      action.pieces = [.block m.nextId title]) ∨
    ∃ names p, t.reading r.filters = .ok (.splice names) ∧ r.load names m = (.ok p, m') ∧
      action.pieces = [.splice p.root] := by
  rw [action_run] at h
  cases hreading : t.reading r.filters with
  | error cause =>
      rw [hreading] at h
      cases h
  | ok reading =>
      rw [hreading] at h
      cases reading with
      | action a =>
          cases h
          exact .inl ⟨_, rfl, rfl, Token.pieces_of_reading hreading⟩
      | cycle items =>
          cases h
          exact .inr (.inl ⟨items, rfl, rfl, rfl⟩)
      | block title =>
          cases h
          exact .inr (.inr (.inl ⟨title, rfl, rfl, rfl⟩))
      | splice names =>
          dsimp only at h
          rcases hl : r.load names m with ⟨error | p, m₁⟩
          · rw [hl] at h
            cases h
          · rw [hl] at h
            cases h
            exact .inr (.inr (.inr ⟨names, p, rfl, hl, rfl⟩))

end TagReader

/-- The pieces that were read between two memories: their own numbers were drawn there, and the
spliced templates are held. -/
structure Brought (held : Program → Prop) (low : Nat) (pieces : List Piece) : Prop where
  nodup : (pieces.flatMap Piece.own).Nodup
  own : ∀ id ∈ pieces.flatMap Piece.own, low ≤ id
  parts : ∀ body, Piece.splice body ∈ pieces → ∃ p, held p ∧ p.root = body

namespace Brought

variable {low : Nat} {pieces : List Piece}

theorem nil : Brought held low [] :=
  ⟨List.nodup_nil, nofun, nofun⟩

/-- A piece with a new number stands in front. -/
theorem cons_number (h : Brought held (low + 1) pieces) {piece : Piece} (hown : piece.own = [low])
    (hsplice : ∀ body, piece ≠ .splice body) : Brought held low (piece :: pieces) where
  nodup := by
    simp only [List.flatMap_cons, hown, List.singleton_append, List.nodup_cons]
    exact ⟨fun hmem => Nat.not_succ_le_self _ (h.own _ hmem), h.nodup⟩
  own id hid := by
    simp only [List.flatMap_cons, hown, List.singleton_append, List.mem_cons] at hid
    rcases hid with rfl | hid
    · exact Nat.le_refl _
    · exact Nat.le_of_succ_le (h.own id hid)
  parts body hmem := h.parts body (List.mem_of_ne_of_mem (hsplice body).symm hmem)

/-- A template that is held stands in front. -/
theorem cons_splice {low' : Nat} (h : Brought held low' pieces) (hle : low ≤ low') {p : Program}
    (hp : held p) : Brought held low (.splice p.root :: pieces) where
  nodup := h.nodup
  own id hid := Nat.le_trans hle (h.own id hid)
  parts body hmem := by
    rcases List.mem_cons.mp hmem with same | hmem
    · cases same
      exact ⟨p, hp, rfl⟩
    · exact h.parts body hmem

theorem cons_lookUp (h : Brought held low pieces) : Brought held low (.lookUp :: pieces) where
  nodup := h.nodup
  own := h.own
  parts body hmem := h.parts body (by simpa using hmem)

section

variable {held' : Program → Prop} (h : Brought held' low pieces)
  (hs : Sound e held' (fun id => pending id ∨ id ∈ pieces.flatMap Piece.own) m) {p : Program}
  (hpieces : piecesOf p.root = pieces)

include hpieces in
theorem ownIds_eq : ownIds p.root = pieces.flatMap Piece.own := by
  rw [ownIds, hpieces]

include h in
theorem known_part {body : List Node} (hbody : Piece.splice body ∈ pieces) :
    ∃ q, Known e held' m q ∧ q.root = body := by
  obtain ⟨q, hq, hroot⟩ := h.parts body hbody
  exact ⟨q, .inl hq, hroot⟩

include hs hpieces

/-- A program that is known has none of the new numbers. -/
theorem foreign {q : Program} (hq : Known e held' m q) {id : Nat} (hid : id ∈ idsOf q.root) :
    id ∉ ownIds p.root := by
  intro hown
  rw [ownIds_eq hpieces] at hown
  exact ((hs.formed hq).ids id hid).2 (.inr hown)

include h

theorem apart (body : List Node) (hbody : Piece.splice body ∈ pieces) :
    ∀ id ∈ idsOf body, id ∉ ownIds p.root := by
  intro id hid
  obtain ⟨q, hq, rfl⟩ := h.known_part (e := e) (m := m) hbody
  exact foreign hs hpieces hq hid

theorem formed (hbelow : ∀ id, pending id → id < low) (hblocks : p.blocks = registryOf p.root) :
    Formed pending m.nextId p := by
  have own : ∀ id ∈ pieces.flatMap Piece.own, id < m.nextId ∧ ¬ pending id := by
    intro id hown
    refine ⟨hs.below id (.inr hown), fun hp => ?_⟩
    exact Nat.lt_irrefl _ (Nat.lt_of_lt_of_le (hbelow id hp) (h.own id hown))
  refine ⟨hblocks, fun id hid => ?_, .mk (ownIds_eq hpieces ▸ h.nodup) ?_
    (hpieces ▸ h.apart hs hpieces)⟩
  · rw [idsOf_eq_pieces, hpieces, List.mem_flatMap] at hid
    obtain ⟨piece, hmem, hid⟩ := hid
    cases piece with
    | block n title => exact own id (List.mem_flatMap.mpr ⟨_, hmem, hid⟩)
    | cycle n => exact own id (List.mem_flatMap.mpr ⟨_, hmem, hid⟩)
    | splice body =>
        obtain ⟨q, hq, rfl⟩ := h.known_part (e := e) (m := m) hmem
        obtain ⟨hlt, hpending⟩ := (hs.formed hq).ids id hid
        exact ⟨hlt, fun hp => hpending (.inl hp)⟩
    | lookUp => cases hid
  · rw [hpieces]
    intro body hbody
    obtain ⟨q, hq, rfl⟩ := h.known_part (e := e) (m := m) hbody
    exact (hs.formed hq).stamped

omit hs in
/-- A block of the new template is its own, or another known template has it. -/
theorem origin {b : Block} (hb : b ∈ blocksOf p.root) :
    b.id ∈ ownIds p.root ∨ ∃ q, Known e held' m q ∧ b ∈ blocksOf q.root := by
  refine (mem_blocksOf_cases hb).imp_right ?_
  rintro ⟨body, hbody, hmem⟩
  obtain ⟨q, hq, rfl⟩ := h.known_part (e := e) (m := m) (hpieces ▸ hbody)
  exact ⟨q, hq, hmem⟩

theorem same_known {q : Program} (hq : Known e held' m q) {b b' : Block} (hb : b ∈ blocksOf p.root)
    (hb' : b' ∈ blocksOf q.root) (hid : b.id = b'.id) : b = b' := by
  rcases h.origin (m := m) (e := e) hpieces hb with hown | ⟨r, hr, hbr⟩
  · have hmem : b'.id ∈ idsOf q.root := (blockIds_sublist _).subset (List.mem_map_of_mem hb')
    exact absurd (hid ▸ hown) (foreign hs hpieces hq hmem)
  · exact hs.same hr hq hbr hb' hid

theorem same_itself {b b' : Block} (hb : b ∈ blocksOf p.root) (hb' : b' ∈ blocksOf p.root)
    (hid : b.id = b'.id) : b = b' := by
  rcases h.origin (m := m) (e := e) hpieces hb' with hown | ⟨r, hr, hbr⟩
  · exact eq_of_mem_ownIds (ownIds_eq hpieces ▸ h.nodup) (hpieces ▸ h.apart hs hpieces) hb hb' hid
      (hid ▸ hown)
  · exact h.same_known hs hpieces hr hb hbr hid

/-- A template with these pieces may be held, and its numbers need not be pending any longer. -/
theorem sound (hbelow : ∀ id, pending id → id < low) (hheld : ∀ p, held p → held' p)
    (hblocks : p.blocks = registryOf p.root) : Sound e (fun q => held q ∨ q = p) pending m := by
  have old : ∀ {q}, Known e held m q → Known e held' m q := fun hq => hq.mono hheld
  have cases_known : ∀ {q}, Known e (fun q => held q ∨ q = p) m q → q = p ∨ Known e held m q := by
    rintro q ((hq | rfl) | hq)
    · exact .inr (.inl hq)
    · exact .inl rfl
    · exact .inr (.inr hq)
  refine ⟨fun id hp => hs.below id (.inl hp), fun hq => ?_, fun hq hr b b' hb hb' hid => ?_⟩
  · rcases cases_known hq with rfl | hq'
    · exact h.formed hs hpieces hbelow hblocks
    · exact (hs.formed (old hq')).mono (Nat.le_refl _) fun _ _ => .inl
  · rcases cases_known hq with rfl | hq' <;> rcases cases_known hr with rfl | hr'
    · exact h.same_itself hs hpieces hb hb' hid
    · exact h.same_known hs hpieces (old hr') hb hb' hid
    · exact (h.same_known hs hpieces (old hq') hb' hb hid.symm).symm
    · exact hs.same (old hq') (old hr') hb hb' hid

end

end Brought

/-- What reading tokens brings along is sound while its numbers are pending. -/
theorem TagReader.Performs.brought {r : TagReader} (hload : LoadsFormed e r.load) {ts : List Token}
    {actions : List Action} {m' : Memory} (h : r.Performs m ts actions m')
    (hs : Sound e held pending m) :
    m.nextId ≤ m'.nextId ∧ ∃ held', (∀ p, held p → held' p) ∧
      Sound e held' (fun id => pending id ∨
        id ∈ (actions.flatMap Action.pieces).flatMap Piece.own) m' ∧
      Brought held' m.nextId (actions.flatMap Action.pieces) := by
  induction h generalizing held pending with
  | nil m => exact ⟨Nat.le_refl _, held, fun _ => id, hs.mono (fun _ => id) (by simp), .nil⟩
  | @cons t ts action actions m m₁ m₂ first rest ih =>
      rw [List.flatMap_cons]
      rcases action_ok first with ⟨_, -, rfl, hpieces⟩ | ⟨_, -, rfl, hpieces⟩ | ⟨title, -, rfl, hpieces⟩ |
        ⟨names, p, -, hp, hpieces⟩
      · obtain ⟨hle, held', hheld, hs', brought⟩ := ih hs
        refine ⟨hle, held', hheld, ?_⟩
        rcases hpieces with hpieces | hpieces
        · rw [hpieces]
          exact ⟨hs', brought⟩
        · rw [hpieces]
          exact ⟨hs', brought.cons_lookUp⟩
      -- A block or a cycle has the number that was drawn for it.
      · obtain ⟨hle, held', hheld, hs', brought⟩ := ih hs.drawn
        rw [hpieces]
        exact ⟨Nat.le_of_succ_le hle, held', hheld, hs'.mono (fun _ => id) fun id hid => by
          simpa [Piece.own, or_assoc] using hid, brought.cons_number rfl fun _ => Piece.noConfusion⟩
      · obtain ⟨hle, held', hheld, hs', brought⟩ := ih hs.drawn
        rw [hpieces]
        exact ⟨Nat.le_of_succ_le hle, held', hheld, hs'.mono (fun _ => id) fun id hid => by
          simpa [Piece.own, or_assoc] using hid, brought.cons_number rfl fun _ => Piece.noConfusion⟩
      -- A template that is put in place is held from now on.
      · have delivered := hload held pending names m hs
        rw [hp] at delivered
        obtain ⟨hle, held', hheld, hs', brought⟩ := ih (delivered.holding rfl)
        rw [hpieces]
        exact ⟨Nat.le_trans delivered.le hle, held', fun q hq => hheld q (.inl hq), hs',
          brought.cons_splice delivered.le (hheld p (.inr rfl))⟩

/-! ## Compiling and loading -/

namespace Engine

theorem compileSource_run (e : Engine) (load : List String → MemoryM Program) (source : String)
    (name : Option String) (m : Memory) :
    e.compileSource load source name m =
      match (TagReader.mk e.filters source load).nodes (e.delimiters.tokens source.toList) m with
      | (.ok root, m) => (.ok ⟨m.nextId, name, source, root, registryOf root⟩, m.drawn)
      | (.error error, m) => (.error (error.named name), m) := by
  rw [compileSource]
  simp only [MemoryM.bind_run]
  rcases (TagReader.mk e.filters source load).nodes (e.delimiters.tokens source.toList) m with
    ⟨error | root, m'⟩
  · rfl
  · rfl

/-- What holds of the memory while numbers are drawn and templates are loaded holds after compiling,
also if that fails. -/
theorem compileSource_keeps {I : Memory → Prop} {load : List String → MemoryM Program}
    (draws : ∀ {m}, I m → I m.drawn) (loads : ∀ {m} names, I m → I (load names m).2)
    (source : String) (name : Option String) (hm : I m) :
    I (e.compileSource load source name m).2 := by
  have read := TagReader.outline_keeps (I := I) (r := ⟨e.filters, source, load⟩) draws loads
    (e.delimiters.tokens source.toList) .start hm
  rw [← TagReader.nodes_memory] at read
  rw [compileSource_run]
  revert read
  rcases (TagReader.mk e.filters source load).nodes (e.delimiters.tokens source.toList) m with
    ⟨error | root, n⟩
  · exact id
  · exact draws

/-- What was compiled from a source. -/
theorem compileSource_ok {e : Engine} {load : List String → MemoryM Program} {source : String}
    {name : Option String} {m m' : Memory} {p : Program}
    (h : e.compileSource load source name m = (.ok p, m')) :
    ∃ m₁, (TagReader.mk e.filters source load).nodes (e.delimiters.tokens source.toList) m =
        (.ok p.root, m₁) ∧
      m' = m₁.drawn ∧ p.name = name ∧ p.blocks = registryOf p.root := by
  rw [compileSource_run] at h
  rcases hnodes : (TagReader.mk e.filters source load).nodes (e.delimiters.tokens source.toList) m
    with ⟨error | root, m₁⟩
  · rw [hnodes] at h
    cases h
  · rw [hnodes] at h
    cases h
    exact ⟨m₁, rfl, rfl, rfl, rfl⟩

theorem compileSource_source {e : Engine} {load : List String → MemoryM Program} {source : String}
    {name : Option String} {m m' : Memory} {p : Program}
    (h : e.compileSource load source name m = (.ok p, m')) : p.source = source := by
  rw [compileSource_run] at h
  rcases hnodes : (TagReader.mk e.filters source load).nodes (e.delimiters.tokens source.toList) m
    with ⟨error | root, m₁⟩
  · rw [hnodes] at h
    cases h
  · rw [hnodes] at h
    cases h
    rfl

/-- Compiling delivers formed programs in sound memories. -/
def CompilesFormed (e : Engine) (compile : Compile) : Prop :=
  ∀ held pending source name m, Sound e held pending m →
    Delivers e held pending m (compile source name m)

theorem compileSource_delivers {load : List String → MemoryM Program} (hload : LoadsFormed e load) :
    CompilesFormed e (e.compileSource load) := by
  intro held pending source name m hs
  have grown : Grown e held pending m _ :=
    TagReader.outline_grown (r := ⟨e.filters, source, load⟩) hload
      (e.delimiters.tokens source.toList) .start hs
  rw [← TagReader.nodes_memory] at grown
  rw [compileSource_run]
  rcases hnodes : (TagReader.mk e.filters source load).nodes (e.delimiters.tokens source.toList) m
    with ⟨error | root, m'⟩
  · rw [hnodes] at grown
    exact .of_error grown _
  · rw [hnodes] at grown
    obtain ⟨actions, hperforms, hpieces⟩ := TagReader.performs_of_nodes hnodes
    obtain ⟨hle, held', hheld, hs', brought⟩ := hperforms.brought hload hs
    have sound := brought.sound hs' (p := ⟨m'.nextId, name, source, root, registryOf root⟩) hpieces
      hs.below hheld rfl
    exact .of_ok (sound.drawn.mono (fun _ => id) fun _ => .inl) (Nat.le_succ_of_le hle)

theorem keepFirst_delivers {name : String} {p : Program}
    (hs : Sound e (fun q => held q ∨ q = p) pending m) :
    Delivers e held pending m (keepFirst name p m) := by
  unfold keepFirst
  cases hfind : m.cache.find? name with
  | some entry =>
      exact .of_known (hs.mono (fun _ => .inl) fun _ => id) (.inr (.inr ⟨name, entry, hfind, rfl⟩))
  | none => exact .of_ok (@Sound.insert _ _ _ _ _ ⟨none, p⟩ hs) (Nat.le_refl _)

section

variable {compile : Compile} (hcompile : CompilesFormed e compile)

include hcompile

theorem loadFromSources_delivers (sources : NameMap String) (all names : List String)
    (hs : Sound e held pending m) :
    Delivers e held pending m (loadFromSources sources compile all names m) := by
  induction names with
  | nil => exact .of_error (.refl hs) _
  | cons name names ih =>
      unfold loadFromSources
      rw [MemoryM.bind_run]
      simp only [cached]
      cases hfind : m.cache.find? name with
      | some entry => exact .of_known hs (.inr (.inr ⟨name, entry, hfind, rfl⟩))
      | none =>
          cases sources.find? name with
          | none => exact ih
          | some source =>
              exact (hcompile held pending source (some name) m hs).bind fun p m' hs' =>
                keepFirst_delivers hs'

theorem compileFile_delivers (root : Path) (name : String) (file : File) (hs : Sound e held pending m) :
    Delivers e held pending m (compileFile root compile name file m) := by
  unfold compileFile
  cases file.text with
  | none => exact .of_error (.refl hs) _
  | some source => exact hcompile held pending source (some name) m hs

theorem loadFromFiles_delivers (files : FileSystem) (root : Path) (all names : List String)
    (hs : Sound e held pending m) :
    Delivers e held pending m (loadFromFiles files root compile all names m) := by
  induction names with
  | nil => exact .of_error (.refl hs) _
  | cons name names ih =>
      unfold loadFromFiles
      rw [MemoryM.bind_run]
      simp only [cached]
      cases hfind : m.cache.find? name with
      | some entry => exact .of_known hs (.inr (.inr ⟨name, entry, hfind, rfl⟩))
      | none =>
          cases files.lookUp? root name with
          | none => exact ih
          | some file =>
              exact (compileFile_delivers hcompile root name file hs).bind fun p m' hs' =>
                keepFirst_delivers hs'

theorem recompile_delivers (root : Path) (file : File) (name : String) (hs : Sound e held pending m) :
    Delivers e held pending m (loadFreshFiles.recompile root compile file name m) := by
  refine (compileFile_delivers hcompile root name file hs).bind fun p m' hs' => ?_
  exact .of_ok (@Sound.insert _ _ _ _ _ ⟨some file.modified, p⟩ hs') (Nat.le_refl _)

theorem loadFreshFiles_delivers (files : FileSystem) (root : Path) (all names : List String)
    (hs : Sound e held pending m) :
    Delivers e held pending m (loadFreshFiles files root compile all names m) := by
  induction names with
  | nil => exact .of_error (.refl hs) _
  | cons name names ih =>
      unfold loadFreshFiles
      cases files.lookUp? root name with
      | none => exact ih
      | some file =>
          simp only
          rw [MemoryM.bind_run]
          simp only [cached]
          have anew := recompile_delivers hcompile root file name hs
          rcases hfind : m.cache.find? name with _ | ⟨_ | modified, program⟩
          · exact anew
          · exact anew
          · simp only
            split
            · exact .of_known hs (.inr (.inr ⟨name, _, hfind, rfl⟩))
            · exact anew

theorem loadWith_delivers (files : FileSystem) : LoadsFormed e (e.loadWith files compile) := by
  intro held pending names m hs
  unfold loadWith
  cases e.loader with
  | added =>
      simp only [findAdded]
      cases hfind : names.findSome? e.templates.find? with
      | none => exact .of_error (.refl hs) _
      | some p =>
          obtain ⟨name, -, hname⟩ := List.exists_of_findSome?_eq_some hfind
          exact .of_known hs (.inr (.inl ⟨name, hname⟩))
  | sources sources => exact loadFromSources_delivers hcompile sources names names hs
  | files root => exact loadFromFiles_delivers hcompile files root names names hs
  | freshFiles root => exact loadFreshFiles_delivers hcompile files root names names hs
  | custom resolve =>
      simp only
      cases resolve names with
      | error error => exact .of_error (.refl hs) error
      | ok source => exact hcompile held pending source.source source.name m hs

end

theorem compileWithin_delivers (files : FileSystem) (depth : Nat) :
    CompilesFormed e (e.compileWithin files depth) := by
  induction depth with
  | zero => exact fun held pending source name m hs => .of_error (.refl hs) _
  | succ depth ih => exact compileSource_delivers (loadWith_delivers ih files)

/-- A program as compiling makes it. -/
theorem compileWithin_ok {files : FileSystem} {depth : Nat} {source : String} {name : Option String}
    {p : Program} {m' : Memory} (run : e.compileWithin files depth source name m = (.ok p, m')) :
    p.name = name ∧ p.source = source ∧ p.blocks = registryOf p.root := by
  cases depth with
  | zero => cases run
  | succ depth =>
      obtain ⟨_, -, -, hname, hblocks⟩ := compileSource_ok run
      exact ⟨hname, compileSource_source run, hblocks⟩

theorem load_delivers (files : FileSystem) : LoadsFormed e (e.load files) :=
  loadWith_delivers (compileWithin_delivers files _) files

end Engine

end TextTemplate
