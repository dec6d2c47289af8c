import TextTemplate.Proofs.Engine.Lookup
import TextTemplate.Proofs.Engine.Session
import TextTemplate.Proofs.Render.Inheritance

/-!
# One program per name

Two loaders keep the first program that they compile for a name: the one that finds the sources in a
map and the one that reads each file once. Compiling a template may load and keep others on the way,
and it may fail after that. Nothing that is kept is ever dropped or replaced, so a name that has given
a program gives this program from then on.
-/

namespace TextTemplate

/-- Loaders that keep the first program that they compile for a name. -/
inductive Loader.Caching : Loader → Prop
  | sources (sources : NameMap String) : Caching (.sources sources)
  | files (root : Path) : Caching (.files root)

/-- The states that an engine and a memory get into from here on while the loader stays. The files may
change in between. -/
inductive Onward (e : Engine) (m : Memory) : Engine → Memory → Prop
  | here : Onward e m e m
  | addFilter {e' m'} (h : Onward e m e' m') (name : String) (filter : Filter) :
      Onward e m (e'.addFilter name filter) m'
  | addBuiltin {e' m'} (h : Onward e m e' m') (name : String) (value : Value) :
      Onward e m (e'.addBuiltin name value) m'
  | setLimit {e' m'} (h : Onward e m e' m') (limit : Nat) :
      Onward e m { e' with maxIncludeDepth := limit } m'
  | addTemplate {e' m'} (h : Onward e m e' m') {files : FileSystem} {name source : String} {e'' m''}
      (run : e'.addTemplate files name source m' = (.ok e'', m'')) : Onward e m e'' m''
  | compile {e' m'} (h : Onward e m e' m') (files : FileSystem) (depth : Nat) (source : String)
      (name : Option String) : Onward e m e' (e'.compileWithin files depth source name m').2
  | load {e' m'} (h : Onward e m e' m') (files : FileSystem) (depth : Nat) (names : List String) :
      Onward e m e' (e'.loadWith files (e'.compileWithin files depth) names m').2
  | draw {e' m'} (h : Onward e m e' m') : Onward e m e' m'.drawn
  | render {e' m'} (h : Onward e m e' m') (p : Program) (world : World) (depth : Nat) (data : Value) :
      Onward e m e' (p.renderWithin e' world depth m' data).2

namespace Engine

/-- Whether a loader has something under a name: a map has a source, and among files there is a
program that is kept or a file. -/
def offers (e : Engine) (files : FileSystem) (m : Memory) (name : String) : Bool :=
  match e.loader with
  | .sources sources => sources.contains name
  | _ => (e.kept files m name).isSome || (e.source? files name).isSome

/-- Each program is kept under its own name, and in a map this is the name of its source. -/
structure Catalogued (e : Engine) (m : Memory) : Prop where
  named : ∀ {name entry}, m.cache.find? name = some entry → entry.program.name = some name
  sourced : ∀ {sources name entry}, e.loader = .sources sources → m.cache.find? name = some entry →
    sources.find? name = some entry.program.source

/-- What was kept is kept still, and what is new has been compiled from the source of its name. -/
structure Extends (e : Engine) (files : FileSystem) (m n : Memory) : Prop where
  old : ∀ {name entry}, m.cache.find? name = some entry → n.cache.find? name = some entry
  new : ∀ {name entry}, n.cache.find? name = some entry → m.cache.find? name = some entry ∨
    entry.program.name = some name ∧ e.source? files name = some (.ok entry.program.source)

variable {e : Engine} {files : FileSystem} {m n : Memory}

namespace Extends

theorem refl (m : Memory) : e.Extends files m m := ⟨id, .inl⟩

theorem drawn (h : e.Extends files m n) : e.Extends files m n.drawn := ⟨h.old, h.new⟩

theorem trans {k : Memory} (h : e.Extends files m n) (h' : e.Extends files n k) :
    e.Extends files m k where
  old hentry := h'.old (h.old hentry)
  new hentry := (h'.new hentry).elim h.new .inr

theorem insert (h : e.Extends files m n) {name : String} (absent : n.cache.find? name = none)
    {p : Program} (hname : p.name = some name) (hsource : e.source? files name = some (.ok p.source)) :
    e.Extends files m { n with cache := n.cache.insert name ⟨none, p⟩ } where
  old {other entry} hentry := by
    have found := h.old hentry
    have different : name ≠ other := by
      rintro rfl
      rw [absent] at found
      cases found
    rwa [NameMap.find?_insert_of_ne _ _ different]
  new {other entry} hentry := by
    rcases NameMap.of_find?_insert hentry with ⟨rfl, rfl⟩ | found
    · exact .inr ⟨hname, hsource⟩
    · exact h.new found

theorem catalogued (h : e.Extends files m n) (hm : e.Catalogued m) : e.Catalogued n where
  named hentry := (h.new hentry).elim hm.named And.left
  sourced {sources name entry} hloader hentry := by
    rcases h.new hentry with found | ⟨-, hsource⟩
    · exact hm.sourced hloader found
    · simp only [source?, hloader] at hsource
      obtain ⟨source, found, same⟩ := Option.map_eq_some_iff.mp hsource
      rw [found, Except.ok.inj same]

end Extends

/-! ## What loading adds -/

theorem keepFirst_run (name : String) (p : Program) (m : Memory) :
    keepFirst name p m =
      match m.cache.find? name with
      | some entry => (.ok entry.program, m)
      | none => (.ok p, { m with cache := m.cache.insert name ⟨none, p⟩ }) :=
  rfl

/-- A program that was kept in the meantime is given instead of the new one. -/
theorem keepFirst_ok {name : String} {p q : Program} {m n : Memory}
    (run : keepFirst name q m = (.ok p, n)) :
    ∃ entry, n.cache.find? name = some entry ∧ entry.program = p := by
  rw [keepFirst_run] at run
  cases meantime : m.cache.find? name with
  | some entry =>
      rw [meantime] at run
      cases run
      exact ⟨entry, meantime, rfl⟩
  | none =>
      rw [meantime] at run
      cases run
      exact ⟨_, NameMap.find?_insert_self .., rfl⟩

section

variable (caching : e.loader.Caching)

include caching

theorem kept_caching (name : String) : e.kept files m name = (m.cache.find? name).map (·.program) := by
  generalize hloader : e.loader = loader at caching
  cases caching <;> simp only [kept, hloader]

theorem keep_caching : e.keep files = keepFirst := by
  apply keep_first
  intro root hloader
  rw [hloader] at caching
  cases caching

theorem serves_caching : e.Serves files files := by
  apply serves_self
  intro resolve hloader
  rw [hloader] at caching
  cases caching

/-- In a catalogued memory, a loader has something under a name just if there is a program or a source.
-/
theorem offers_iff (hm : e.Catalogued m) (name : String) :
    e.offers files m name = true ↔ (e.kept files m name).isSome ∨ (e.source? files name).isSome := by
  generalize hloader : e.loader = loader at caching
  cases caching with
  | files root => simp only [offers, hloader, Bool.or_eq_true]
  | sources sources =>
      have sourced : (m.cache.find? name).isSome → (sources.find? name).isSome := by
        intro found
        obtain ⟨entry, hentry⟩ := Option.isSome_iff_exists.mp found
        rw [hm.sourced hloader hentry]
        rfl
      simp only [offers, kept, source?, hloader, NameMap.contains, Option.isSome_map]
      exact ⟨.inr, fun known => known.elim sourced id⟩

/-- A load looks at nothing but the first of the names that the loader has something under. -/
theorem loadFirst_offered (hm : e.Catalogued m) (compile : Compile) (all names : List String) :
    e.loadFirst files compile all names m =
      match names.find? (e.offers files m) with
      | some name => e.loadFirst files compile all [name] m
      | none => (.error (notFound all), m) := by
  induction names with
  | nil => rfl
  | cons name names ih =>
      rw [List.find?_cons]
      cases offered : e.offers files m name with
      | false =>
          have unknown := mt (offers_iff caching hm name).mpr (by rw [offered]; exact Bool.false_ne_true)
          rw [not_or, Option.not_isSome_iff_eq_none, Option.not_isSome_iff_eq_none] at unknown
          rw [loadFirst_cons, unknown.1, unknown.2]
          exact ih
      | true =>
          have known := (offers_iff caching hm name).mp offered
          simp only [loadFirst_cons]
          revert known
          cases e.kept files m name with
          | some p => exact fun _ => rfl
          | none =>
              cases e.source? files name with
              | none => simp
              | some source => cases source <;> exact fun _ => rfl

/-- Loading from what is kept under a name. -/
theorem loadFirst_cached {name : String} {entry : CacheEntry} (found : m.cache.find? name = some entry)
    (compile : Compile) (all : List String) :
    e.loadFirst files compile all [name] m = (.ok entry.program, m) := by
  rw [loadFirst_cons, kept_caching caching, found]
  rfl

/-- What a load under one name gives is kept already, or it comes from compiling the source. -/
theorem loadFirst_one {compile : Compile} {all : List String} {name : String} {p : Program}
    (run : e.loadFirst files compile all [name] m = (.ok p, n)) :
    (∃ entry, m.cache.find? name = some entry ∧ entry.program = p ∧ n = m) ∨
    ∃ source q k, m.cache.find? name = none ∧ e.source? files name = some (.ok source) ∧
      compile source (some name) m = (.ok q, k) ∧ keepFirst name q k = (.ok p, n) := by
  rw [loadFirst_cons, kept_caching caching, keep_caching caching] at run
  cases found : m.cache.find? name with
  | some entry =>
      rw [found] at run
      cases run
      exact .inl ⟨entry, rfl, rfl, rfl⟩
  | none =>
      rw [found] at run
      rcases hsource : e.source? files name with _ | error | source
      · rw [hsource] at run
        cases run
      · rw [hsource] at run
        cases run
      · rw [hsource] at run
        obtain ⟨q, k, compiled, kept⟩ := MemoryM.bind_ok run
        exact .inr ⟨source, q, k, rfl, rfl, compiled, kept⟩

/-- What a load gives is kept under the name afterwards. -/
theorem loadFirst_keeps {compile : Compile} {all : List String} {name : String} {p : Program}
    (run : e.loadFirst files compile all [name] m = (.ok p, n)) :
    ∃ entry, n.cache.find? name = some entry ∧ entry.program = p := by
  rcases loadFirst_one caching run with ⟨entry, found, same, rfl⟩ | ⟨source, q, k, -, -, -, kept⟩
  · exact ⟨entry, found, same⟩
  · exact keepFirst_ok kept

theorem loadFirst_extends {compile : Compile}
    (compiles : ∀ {m} source name, e.Extends files m (compile source name m).2)
    (made : ∀ {m source name p n}, compile source name m = (.ok p, n) →
      p.name = name ∧ p.source = source ∧ p.blocks = registryOf p.root) (all names : List String) :
    e.Extends files m (e.loadFirst files compile all names m).2 := by
  have load := e.loadFirst_cases files compile all names m
  generalize e.loadFirst files compile all names m = r at load
  cases load with
  | kept _ => exact .refl m
  | failed _ => exact .refl m
  | @broken name source error n run =>
      have after : e.Extends files m _ := compiles source (some name)
      rwa [run] at after
  | @compiled name source p n _ found run =>
      have after : e.Extends files m _ := compiles source (some name)
      rw [run] at after
      obtain ⟨hname, rfl, -⟩ := made run
      rw [keep_caching caching, keepFirst_run]
      cases absent : n.cache.find? name with
      | some entry => exact after
      | none => exact after.insert absent hname found

theorem compileWithin_extends (files : FileSystem) (depth : Nat) (source : String)
    (name : Option String) (m : Memory) :
    e.Extends files m (e.compileWithin files depth source name m).2 := by
  induction depth generalizing source name m with
  | zero => exact .refl m
  | succ depth ih =>
      refine compileSource_keeps (I := e.Extends files m) Extends.drawn (fun {n} names h => ?_) source
        name (.refl m)
      rw [serves_caching caching]
      exact h.trans (loadFirst_extends caching (fun {n} source name => ih source name n)
        compileWithin_ok names names)

/-- A load adds to what is kept, also if it fails, and takes nothing away. -/
theorem loadWith_extends (files : FileSystem) (depth : Nat) (names : List String) (m : Memory) :
    e.Extends files m (e.loadWith files (e.compileWithin files depth) names m).2 := by
  rw [serves_caching caching]
  exact loadFirst_extends caching (fun {n} source name =>
    compileWithin_extends caching files depth source name n) compileWithin_ok names names

theorem renderWithin_extends (p : Program) (world : World) (depth : Nat) (data : Value) :
    e.Extends world.files m (p.renderWithin e world depth m data).2 :=
  p.renderWithin_keeps (I := e.Extends world.files m)
    (fun {n} names h => h.trans (loadWith_extends caching world.files e.maxIncludeDepth names n))
    (.refl m) depth data

end

end Engine

/-! ## Along a session -/

namespace Onward

variable {e e' : Engine} {m m' : Memory}

theorem session (h : Onward e m e' m') (start : Session e m) : Session e' m' := by
  induction h with
  | here => exact start
  | addFilter _ name filter ih => exact ih.addFilter name filter
  | addBuiltin _ name value ih => exact ih.addBuiltin name value
  | setLimit _ limit ih => exact ih.setLimit limit
  | addTemplate _ run ih => exact ih.addTemplate run
  | compile _ files depth source name ih => exact ih.compile files depth source name
  | load _ files depth names ih => exact ih.load files depth names
  | draw _ ih => exact ih.draw
  | render _ p world depth data ih => exact ih.render p world depth data

theorem loader_eq (h : Onward e m e' m') : e'.loader = e.loader := by
  induction h with
  | addTemplate _ run ih =>
      obtain ⟨p, -, rfl⟩ := Engine.addTemplate_ok run
      exact ih
  | here => rfl
  | addFilter _ _ _ ih | addBuiltin _ _ _ ih | setLimit _ _ ih | compile _ _ _ _ _ ih
  | load _ _ _ _ ih | draw _ ih | render _ _ _ _ _ ih => exact ih

/-- What is kept stays, whatever is compiled, loaded and rendered, with success or not. -/
theorem keeps (h : Onward e m e' m') (caching : e.loader.Caching) {name : String} {entry : CacheEntry}
    (found : m.cache.find? name = some entry) : m'.cache.find? name = some entry := by
  induction h with
  | here => exact found
  | addFilter _ _ _ ih | addBuiltin _ _ _ ih | setLimit _ _ ih | draw _ ih => exact ih
  | @addTemplate e' m' h files name source e'' m'' run ih =>
      obtain ⟨p, hp, -⟩ := Engine.addTemplate_ok run
      have after := Engine.compileWithin_extends (h.loader_eq ▸ caching) files e'.maxIncludeDepth source
        (some name) m'
      rw [hp] at after
      exact after.old ih
  | compile h files depth source name ih =>
      exact (Engine.compileWithin_extends (h.loader_eq ▸ caching) files depth source name _).old ih
  | load h files depth names ih =>
      exact (Engine.loadWith_extends (h.loader_eq ▸ caching) files depth names _).old ih
  | render h p world depth data ih =>
      exact (Engine.renderWithin_extends (h.loader_eq ▸ caching) p world depth data).old ih

end Onward

theorem Session.catalogued {e : Engine} {m : Memory} (h : Session e m) :
    e.loader.Caching → e.Catalogued m := by
  induction h with
  | start delimiters nextId => exact fun _ => ⟨nofun, nofun⟩
  | addFilter _ name filter ih => exact fun caching => ⟨(ih caching).named, (ih caching).sourced⟩
  | addBuiltin _ name value ih => exact fun caching => ⟨(ih caching).named, (ih caching).sourced⟩
  | setLimit _ limit ih => exact fun caching => ⟨(ih caching).named, (ih caching).sourced⟩
  | setLoader _ run ih =>
      intro caching
      cases run
      exact ⟨nofun, nofun⟩
  | @addTemplate e m h files name source e' m' run ih =>
      obtain ⟨p, hp, rfl⟩ := Engine.addTemplate_ok run
      intro caching
      change e.loader.Caching at caching
      have after := Engine.compileWithin_extends caching files e.maxIncludeDepth source (some name) m
      rw [hp] at after
      exact ⟨(after.catalogued (ih caching)).named, (after.catalogued (ih caching)).sourced⟩
  | compile _ files depth source name ih =>
      exact fun caching =>
        (Engine.compileWithin_extends caching files depth source name _).catalogued (ih caching)
  | load _ files depth names ih =>
      exact fun caching =>
        (Engine.loadWith_extends caching files depth names _).catalogued (ih caching)
  | draw _ ih => exact fun caching => ⟨(ih caching).named, (ih caching).sourced⟩
  | render _ p world depth data ih =>
      exact fun caching =>
        (Engine.renderWithin_extends caching p world depth data).catalogued (ih caching)

/-- What a load gives is kept under the first of the names that the loader has something under. -/
theorem Session.loaded_first {e : Engine} {m n : Memory} (h : Session e m) (caching : e.loader.Caching)
    {files : FileSystem} {depth : Nat} {names : List String} {p : Program}
    (run : e.loadWith files (e.compileWithin files depth) names m = (.ok p, n)) :
    ∃ name entry, names.find? (e.offers files m) = some name ∧ n.cache.find? name = some entry ∧
      entry.program = p := by
  rw [Engine.serves_caching caching, Engine.loadFirst_offered caching (h.catalogued caching)] at run
  cases first : names.find? (e.offers files m) with
  | none =>
      rw [first] at run
      cases run
  | some name =>
      rw [first] at run
      obtain ⟨entry, found, same⟩ := Engine.loadFirst_keeps caching run
      exact ⟨name, entry, rfl, found, same⟩

/-- In every state that a session gets into, a caching loader keeps each program under its own name, and
a map keeps it under the name of its source. A load takes nothing away and replaces nothing, also if it
fails. If it gives a program, then that of the first name under which the loader has something: the one
that is kept, or one compiled from the source. From then on each load that comes to this name gives the
same program, whatever has happened since, also to the files. -/
theorem Session.one_program_per_name {e : Engine} {m : Memory} (h : Session e m)
    (caching : e.loader.Caching) :
    (∀ name entry, m.cache.find? name = some entry → entry.program.name = some name ∧
      ∀ sources, e.loader = .sources sources → sources.find? name = some entry.program.source) ∧
    ∀ files depth names result n,
      e.loadWith files (e.compileWithin files depth) names m = (result, n) →
      (∀ name entry, m.cache.find? name = some entry → n.cache.find? name = some entry) ∧
      (names.find? (e.offers files m) = none → result = .error (Engine.notFound names) ∧ n = m) ∧
      ∀ p, result = .ok p → ∃ name, names.find? (e.offers files m) = some name ∧
        p.name = some name ∧
        (∀ entry, m.cache.find? name = some entry → p = entry.program) ∧
        (m.cache.find? name = none → e.source? files name = some (.ok p.source)) ∧
        ∀ e' m', Onward e n e' m' → ∀ files' depth' names',
          names'.find? (e'.offers files' m') = some name →
          e'.loadWith files' (e'.compileWithin files' depth') names' m' = (.ok p, m') := by
  have catalogued := h.catalogued caching
  refine ⟨fun name entry found => ⟨catalogued.named found, fun sources hloader =>
    catalogued.sourced hloader found⟩, ?_⟩
  intro files depth names result n run
  have after := Engine.loadWith_extends caching files depth names m
  have session : Session e n := by
    have loaded := h.load files depth names
    rwa [run] at loaded
  rw [run] at after
  refine ⟨fun name entry found => after.old found, ?_, ?_⟩
  · intro nothing
    rw [Engine.serves_caching caching, Engine.loadFirst_offered caching catalogued, nothing] at run
    cases run
    exact ⟨rfl, rfl⟩
  · rintro p rfl
    obtain ⟨name, entry, first, found, rfl⟩ := h.loaded_first caching run
    refine ⟨name, first, (after.catalogued catalogued).named found, ?_, ?_, ?_⟩
    · intro old hold
      rw [after.old hold] at found
      rw [Option.some.inj found]
    · intro absent
      rcases after.new found with there | ⟨-, hsource⟩
      · rw [absent] at there
        cases there
      · exact hsource
    · intro e' m' onward files' depth' names' chosen
      have caching' : e'.loader.Caching := onward.loader_eq ▸ caching
      rw [Engine.serves_caching caching', Engine.loadFirst_offered caching'
        ((onward.session session).catalogued caching'), chosen]
      exact Engine.loadFirst_cached caching' (onward.keeps caching found) _ _

/-- The second of two names is in the map. It gives the base, and gives it ever after. -/
theorem Session.one_program_per_name_base :
    Session twoTemplates ⟨0, []⟩ ∧ twoTemplates.loader.Caching ∧
    twoTemplates.loadWith .empty (twoTemplates.compileWithin .empty 1) ["page", "base"] ⟨0, []⟩ =
      (.ok baseProgram, ⟨2, [("base", ⟨none, baseProgram⟩)]⟩) ∧
    ∀ e m, Onward twoTemplates ⟨2, [("base", ⟨none, baseProgram⟩)]⟩ e m → ∀ files depth,
      e.loadWith files (e.compileWithin files depth) ["page", "base"] m = (.ok baseProgram, m) := by
  have run : twoTemplates.loadWith .empty (twoTemplates.compileWithin .empty 1) ["page", "base"] ⟨0, []⟩ =
      (.ok baseProgram, ⟨2, [("base", ⟨none, baseProgram⟩)]⟩) := by
    change (twoTemplates.compileWithin .empty 1 baseSource (some "base") >>= Engine.keepFirst "base")
      ⟨0, []⟩ = _
    rw [MemoryM.bind_run, compile_baseSource]
    rfl
  have caching : twoTemplates.loader.Caching := .sources _
  refine ⟨twoTemplates_session, caching, run, ?_⟩
  intro e m onward files depth
  obtain ⟨-, -, given⟩ := (Session.one_program_per_name twoTemplates_session caching).2 .empty 1
    ["page", "base"] _ _ run
  obtain ⟨name, first, -, -, -, later⟩ := given baseProgram rfl
  cases first
  refine later e m onward files depth ["page", "base"] ?_
  have loader : e.loader = .sources [("base", baseSource)] := onward.loader_eq
  simp only [List.find?_cons, Engine.offers, loader]
  rfl

end TextTemplate
