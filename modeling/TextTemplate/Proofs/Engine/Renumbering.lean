import TextTemplate.Proofs.Engine.Keeping

/-!
# Other numbers

Numbers are drawn one after the other, from wherever the memory stands. Compiling from two memories
that differ in nothing but numbers comes to programs that differ in nothing but numbers: whenever both
draw one, the two become partners (`Engine.Renumbers`).
-/

namespace TextTemplate

namespace Engine

/-- Under each name templates are kept that are alike but for their numbers, or none. -/
def KeptAlike (rel : Nat → Nat → Prop) : Option Program → Option Program → Prop
  | none, none => True
  | some p, some p' => Alike (numbered rel) p.root p'.root
  | _, _ => False

theorem KeptAlike.mono {rel rel' : Nat → Nat → Prop} (h : ∀ {i j}, rel i j → rel' i j)
    {p p' : Option Program} (alike : KeptAlike rel p p') : KeptAlike rel' p p' := by
  rcases p with _ | p <;> rcases p' with _ | p'
  · trivial
  · exact alike.elim
  · exact alike.elim
  · exact Alike.mono (numbered_within h) alike

/-- The memories differ in nothing but numbers, and no number has two partners. -/
structure Renumbers (e : Engine) (files : FileSystem) (rel : Nat → Nat → Prop) (m m' : Memory) :
    Prop where
  unique : Unique rel
  drawn : ∀ {i j}, rel i j → i < m.nextId ∧ j < m'.nextId
  kept : ∀ name, KeptAlike rel (e.kept files m name) (e.kept files m' name)

section

variable {e : Engine} {files : FileSystem} {rel : Nat → Nat → Prop} {m m' : Memory}

/-- The numbers that both sides draw next become partners. -/
theorem Renumbers.draw (h : e.Renumbers files rel m m') :
    e.Renumbers files (fun i j => rel i j ∨ i = m.nextId ∧ j = m'.nextId) m.drawn m'.drawn where
  unique := by
    -- The new pair lies beyond both memories, so it clashes with none of the old pairs.
    rintro i j i' j' (hij | ⟨rfl, rfl⟩) (hij' | ⟨rfl, rfl⟩)
    · exact h.unique hij hij'
    · have := h.drawn hij
      omega
    · have := h.drawn hij'
      omega
    · exact ⟨fun _ => rfl, fun _ => rfl⟩
  drawn := by
    rintro i j (hij | ⟨rfl, rfl⟩)
    · exact ⟨Nat.lt_succ_of_lt (h.drawn hij).1, Nat.lt_succ_of_lt (h.drawn hij).2⟩
    · exact ⟨Nat.lt_succ_self _, Nat.lt_succ_self _⟩
  kept name := (h.kept name).mono .inl

/-- An engine without a loader keeps no template in the memory, so all that counts there is which
numbers lie below. -/
theorem Renumbers.of_added (h : e.Renumbers files rel m m') (hloader : e.loader = .added) {n n' : Memory}
    (hn : m.nextId ≤ n.nextId) (hn' : m'.nextId ≤ n'.nextId) : e.Renumbers files rel n n' where
  unique := h.unique
  drawn hij := ⟨Nat.lt_of_lt_of_le (h.drawn hij).1 hn, Nat.lt_of_lt_of_le (h.drawn hij).2 hn'⟩
  kept name := by
    have here := h.kept name
    simp only [Engine.kept, hloader] at here ⊢
    exact here

/-- What both sides read, in memories that differ in nothing but numbers. -/
def renumbering (e : Engine) (files : FileSystem) : Twins where
  World := Nat → Nat → Prop
  Later v w := ∀ {i j}, v i j → w i j
  like := numbered
  memories := e.Renumbers files
  left _ := False
  right _ := False
  exact := True

/-- What is loaded differs in nothing but numbers. -/
def LoadsRenumbered (e : Engine) (files : FileSystem) (load : List String → MemoryM Program) : Prop :=
  ∀ {rel m m'}, e.Renumbers files rel m m' → ∀ names, (e.renumbering files).Corresponds rel
    (fun v p p' => Alike (numbered v) p.root p'.root) (load names m) (load names m')

/-- What is compiled differs in nothing but numbers. -/
def CompilesRenumbered (e : Engine) (files : FileSystem) (compile : Compile) : Prop :=
  ∀ {rel m m'}, e.Renumbers files rel m m' → ∀ source name, (e.renumbering files).Corresponds rel
    (fun v p p' => Alike (numbered v) p.root p'.root) (compile source name m) (compile source name m')

variable {load : List String → MemoryM Program} {compile : Compile}

theorem renumbering_lawful (hload : e.LoadsRenumbered files load) (source : String) :
    (e.renumbering files).Lawful ⟨e.filters, source, load⟩ ⟨e.filters, source, load⟩ where
  refl _ := id
  trans h h' := fun hij => h' (h hij)
  within h := numbered_within h
  targets _ _ := rfl
  source _ := rfl
  draw h := ⟨_, .inl, h.draw, .inr ⟨rfl, rfl⟩⟩
  load h names := hload h names

theorem compileSource_renumbered (hload : e.LoadsRenumbered files load) :
    e.CompilesRenumbered files (e.compileSource load) := by
  intro rel m m' h source name
  have nodes := Twins.corresponds_nodes (renumbering_lawful hload source) h
    (Twins.sameSaying_refl rfl (e.delimiters.tokens source.toList))
  rw [compileSource_run, compileSource_run]
  revert nodes
  rcases (TagReader.mk e.filters source load).nodes (e.delimiters.tokens source.toList) m with
      ⟨error | root, n⟩ <;>
    rcases (TagReader.mk e.filters source load).nodes (e.delimiters.tokens source.toList) m' with
      ⟨error' | root', n'⟩
  · rintro (impossible | impossible | ⟨same, later⟩)
    · exact impossible.elim
    · exact impossible.elim
    · exact .inr (.inr ⟨fun exact => by rw [same exact], later⟩)
  · exact id
  · exact id
  · rintro ⟨v, hv, hmemories, alike⟩
    exact ⟨_, fun hij => .inl (hv hij), hmemories.draw, alike.mono (numbered_within .inl)⟩

/-- A program that is kept on both sides, or on neither. -/
theorem keepFirst_renumbered {sources : NameMap String} (hloader : e.loader = .sources sources)
    {start : Nat → Nat → Prop} (later : ∀ {i j}, start i j → rel i j) (h : e.Renumbers files rel m m')
    {p p' : Program} (alike : Alike (numbered rel) p.root p'.root) (name : String) :
    (e.renumbering files).Corresponds start (fun v p p' => Alike (numbered v) p.root p'.root)
      (keepFirst name p m) (keepFirst name p' m') := by
  have cached : ∀ (n : Memory) other,
      e.kept files n other = (n.cache.find? other).map (·.program) := by
    intro n other
    simp only [kept, hloader]
  have inserted : ∀ (n : Memory) (q : Program) other,
      e.kept files { n with cache := n.cache.insert name ⟨none, q⟩ } other =
        if name = other then some q else e.kept files n other := by
    intro n q other
    rw [cached, cached, NameMap.find?_insert]
    split <;> rfl
  have here := h.kept name
  unfold keepFirst
  rw [cached, cached] at here
  revert here
  cases found : m.cache.find? name with
  | some entry =>
      cases found' : m'.cache.find? name with
      | some entry' => exact fun here => ⟨rel, later, h, here⟩
      | none => exact False.elim
  | none =>
      cases found' : m'.cache.find? name with
      | some entry' => exact False.elim
      | none =>
          intro _
          refine ⟨rel, later, ⟨h.unique, h.drawn, fun other => ?_⟩, alike⟩
          rw [inserted, inserted]
          by_cases same : name = other
          · rw [if_pos same, if_pos same]
            exact alike
          · rw [if_neg same, if_neg same]
            exact h.kept other

/-- A program that is compiled and kept. -/
theorem compileKept_renumbered {sources : NameMap String} (hloader : e.loader = .sources sources)
    (hcompile : e.CompilesRenumbered files compile) (h : e.Renumbers files rel m m')
    (source name : String) :
    (e.renumbering files).Corresponds rel (fun v p p' => Alike (numbered v) p.root p'.root)
      ((compile source (some name) >>= e.keep files name) m)
      ((compile source (some name) >>= e.keep files name) m') := by
  have keeps : e.keep files = keepFirst := keep_first files (by simp [hloader])
  have compiled := hcompile h source (some name)
  rw [keeps, MemoryM.bind_run, MemoryM.bind_run]
  revert compiled
  rcases compile source (some name) m with ⟨error | p, n⟩ <;>
    rcases compile source (some name) m' with ⟨error' | p', n'⟩
  · exact id
  · exact False.elim
  · exact False.elim
  · rintro ⟨v, hv, hn, alike⟩
    exact keepFirst_renumbered hloader hv hn alike name

theorem loadFirst_renumbered (plain : e.loader.Plain) (hcompile : e.CompilesRenumbered files compile)
    (all : List String) : e.LoadsRenumbered files (e.loadFirst files compile all) := by
  intro rel m m' h names
  induction names with
  | nil => exact .inr (.inr ⟨fun _ => rfl, rel, id, h⟩)
  | cons name names ih =>
      have here := h.kept name
      rw [loadFirst_cons, loadFirst_cons]
      revert here
      rcases e.kept files m name with _ | p <;> rcases e.kept files m' name with _ | p'
      · intro _
        dsimp only
        cases hsource : e.source? files name with
        | none => exact ih
        | some read =>
            -- Only a map from names to sources has something to compile.
            obtain ⟨sources, hloader⟩ : ∃ sources, e.loader = .sources sources := by
              generalize hloader : e.loader = loader at plain
              cases plain with
              | added =>
                  simp only [source?, hloader] at hsource
                  cases hsource
              | sources sources => exact ⟨sources, rfl⟩
            cases read with
            | error error => exact .inr (.inr ⟨fun _ => rfl, rel, id, h⟩)
            | ok source => exact compileKept_renumbered hloader hcompile h source name
      · exact False.elim
      · exact False.elim
      · exact fun here => ⟨rel, id, h, here⟩

theorem compileWithin_renumbered (plain : e.loader.Plain) (files' : FileSystem) (depth : Nat) :
    e.CompilesRenumbered files (e.compileWithin files' depth) := by
  induction depth with
  | zero => exact fun h _ _ => .inr (.inr ⟨fun _ => rfl, _, id, h⟩)
  | succ depth ih =>
      refine compileSource_renumbered fun h names => ?_
      rw [serves_plain plain files']
      exact loadFirst_renumbered plain ih names h names

theorem loadWith_renumbered (plain : e.loader.Plain) (files' : FileSystem) (depth : Nat) :
    e.LoadsRenumbered files (e.loadWith files' (e.compileWithin files' depth)) := by
  intro rel m m' h names
  rw [serves_plain plain files']
  exact loadFirst_renumbered plain (compileWithin_renumbered plain files' depth) names h names

/-- Without a loader, compiling only draws numbers. -/
theorem compile_nextId (hloader : e.loader = .added) {source : String} {name : Option String}
    {r : Except Error Program} {n : Memory} (run : e.compile files source name m = (r, n)) :
    m.nextId ≤ n.nextId := by
  suffices m.nextId ≤ (e.compile files source name m).2.nextId by rwa [run] at this
  unfold compile
  cases e.maxIncludeDepth with
  | zero => exact Nat.le_refl _
  | succ depth =>
      refine compileSource_keeps (I := fun n => m.nextId ≤ n.nextId) Nat.le_succ_of_le
        (fun names h => ?_) source name (Nat.le_refl _)
      simp only [loadWith, hloader, findAdded]
      cases names.findSome? e.templates.find? with
      | none => exact h
      | some p => exact h

/-- Where the memory stands does not matter, as long as the numbers in use lie below. -/
theorem renumbers_start {k k' : Nat}
    (below : ∀ p, Known e (fun _ => False) m p → ∀ id ∈ idsOf p.root, id < k ∧ id < k') :
    e.Renumbers files (fun i j => i = j ∧ i < k ∧ i < k') ⟨k, m.cache⟩ ⟨k', m.cache⟩ where
  unique := by
    rintro i _ i' _ ⟨rfl, -⟩ ⟨rfl, -⟩
    rfl
  drawn := by
    rintro i _ ⟨rfl, low, low'⟩
    exact ⟨low, low'⟩
  kept name := by
    have same : e.kept files ⟨k', m.cache⟩ name = e.kept files ⟨k, m.cache⟩ name := rfl
    rw [same]
    cases hkept : e.kept files ⟨k, m.cache⟩ name with
    | none => trivial
    | some p =>
        have known : Known e (fun _ => False) m p := known_of_kept hkept fun _ => False
        exact .refl (fun _ => rfl) fun id hid => ⟨rfl, below p known id hid⟩

end

end Engine

end TextTemplate
