import TextTemplate.Proofs.Engine.Numbering

/-!
# Looking up names

All loaders but custom ones try the candidate names one after the other. For each name there may be a
program that is there already, or a source to be compiled, whose program is kept then. In these terms
the loaders do the same: `Engine.loadFirst`.
-/

namespace TextTemplate

/-- Loaders that look up each name by itself. -/
inductive Loader.Plain : Loader → Prop
  | added : Loader.Plain .added
  | sources (sources : NameMap String) : Loader.Plain (.sources sources)

/-- Loaders that try the names one after the other, in memory or among files. -/
def Loader.ByName (loader : Loader) : Prop := ∀ resolve, loader ≠ .custom resolve

theorem Loader.Plain.byName {loader : Loader} (h : loader.Plain) : loader.ByName := by
  intro resolve same
  cases h <;> cases same

namespace Engine

variable (e : Engine) (files : FileSystem)

/-- The program that is there already under a name. One that was compiled from a file does not count
where the loader looks at modification times and the file has another one. -/
def kept (m : Memory) (name : String) : Option Program :=
  match e.loader with
  | .added => e.templates.find? name
  | .freshFiles root =>
    match files.lookUp? root name, m.cache.find? name with
    | some file, some entry =>
      if entry.modified = some file.modified then some entry.program else none
    | _, _ => none
  | _ => (m.cache.find? name).map (·.program)

/-- The text of a file, or the error for a file without one. -/
def readFile (root : Path) (name : String) (file : File) : Except Error String :=
  match file.text with
  | some text => .ok text
  | none =>
    let path := FileSystem.pathText root name
    .error ⟨.unreadable path "stream did not contain valid UTF-8", none, none⟩

/-- What there is to be compiled for a name. -/
def source? (name : String) : Option (Except Error String) :=
  match e.loader with
  | .sources sources => (sources.find? name).map .ok
  | .files root | .freshFiles root => (files.lookUp? root name).map (readFile root name)
  | _ => none

/-- Keeps a program under a name as the loader does, and gives the one that is kept. -/
def keep (name : String) (p : Program) : MemoryM Program :=
  match e.loader with
  | .freshFiles root =>
    match files.lookUp? root name with
    | some file => do
      keepLatest name file.modified p
      return p
    | none => return p
  | _ => keepFirst name p

/-- Loads the first of the names that is known. -/
def loadFirst (compile : Compile) (all : List String) : List String → MemoryM Program
  | [] => throw (notFound all)
  | name :: names => fun m =>
    match e.kept files m name with
    | some p => (.ok p, m)
    | none =>
      match e.source? files name with
      | some (.ok source) => (compile source (some name) >>= e.keep files name) m
      | some (.error error) => (.error error, m)
      | none => loadFirst compile all names m

theorem loadFirst_cons (compile : Compile) (all : List String) (name : String) (names : List String)
    (m : Memory) :
    e.loadFirst files compile all (name :: names) m =
      match e.kept files m name with
      | some p => (.ok p, m)
      | none =>
        match e.source? files name with
        | some (.ok source) => (compile source (some name) >>= e.keep files name) m
        | some (.error error) => (.error error, m)
        | none => e.loadFirst files compile all names m :=
  rfl

/-- In these files there is for each name what the loader finds in those files. -/
def Serves (files' : FileSystem) : Prop :=
  ∀ (compile : Compile) (names : List String),
    e.loadWith files' compile names = e.loadFirst files compile names names

variable {e}

theorem readFile_eq_ok {root : Path} {name source : String} {file : File} :
    readFile root name file = .ok source ↔ file.text = some source := by
  unfold readFile
  cases file.text <;> simp

theorem kept_freshFiles {root : Path} (hloader : e.loader = .freshFiles root) {m : Memory}
    {name : String} {p : Program} :
    e.kept files m name = some p ↔ ∃ file entry, files.lookUp? root name = some file ∧
      m.cache.find? name = some entry ∧ entry.modified = some file.modified ∧ entry.program = p := by
  simp only [kept, hloader]
  cases files.lookUp? root name with
  | none => simp
  | some file =>
      cases m.cache.find? name with
      | none => simp
      | some entry => simp

theorem kept_nothing {root : Path} (hloader : e.loader = .freshFiles root) (nextId : Nat)
    (name : String) : e.kept files ⟨nextId, []⟩ name = none := by
  by_contra hkept
  obtain ⟨p, hp⟩ := Option.ne_none_iff_exists'.mp hkept
  obtain ⟨_, _, -, hentry, -⟩ := (kept_freshFiles files hloader).mp hp
  cases hentry

theorem source?_freshFiles {root : Path} (hloader : e.loader = .freshFiles root) (name : String) :
    e.source? files name = (files.lookUp? root name).map (readFile root name) := by
  rw [source?, hloader]

theorem keep_first (h : ∀ root, e.loader ≠ .freshFiles root) : e.keep files = keepFirst := by
  funext name p
  unfold keep
  split
  · next root hloader => exact absurd hloader (h root)
  · rfl

theorem compileFile_eq (root : Path) (compile : Compile) (name : String) (file : File) :
    compileFile root compile name file =
      match readFile root name file with
      | .ok source => compile source (some name)
      | .error error => throw error := by
  unfold compileFile readFile
  cases file.text <;> rfl

theorem loadFromSources_eq {sources : NameMap String} (hloader : e.loader = .sources sources)
    (compile : Compile) (all names : List String) :
    loadFromSources sources compile all names = e.loadFirst files compile all names := by
  induction names with
  | nil => rfl
  | cons name rest ih =>
      funext m
      have keeps : e.keep files = keepFirst := keep_first files (by simp [hloader])
      rw [loadFromSources, MemoryM.bind_run]
      simp only [loadFirst, kept, source?, hloader, keeps, cached, ← ih]
      cases m.cache.find? name with
      | some entry => rfl
      | none => cases sources.find? name <;> rfl

theorem loadFromFiles_eq {root : Path} (hloader : e.loader = .files root) (compile : Compile)
    (all names : List String) :
    loadFromFiles files root compile all names = e.loadFirst files compile all names := by
  induction names with
  | nil => rfl
  | cons name rest ih =>
      funext m
      have keeps : e.keep files = keepFirst := keep_first files (by simp [hloader])
      rw [loadFromFiles, MemoryM.bind_run]
      simp only [loadFirst, kept, source?, hloader, keeps, cached, compileFile_eq, ← ih]
      cases m.cache.find? name with
      | some entry => rfl
      | none =>
          cases files.lookUp? root name with
          | none => rfl
          | some file =>
              simp only [Option.map_none, Option.map_some]
              cases readFile root name file <;> rfl

theorem recompile_eq {root : Path} (hloader : e.loader = .freshFiles root) {name : String}
    {file : File} (hfile : files.lookUp? root name = some file) (compile : Compile) (m : Memory) :
    loadFreshFiles.recompile root compile file name m =
      match readFile root name file with
      | .ok source => (compile source (some name) >>= e.keep files name) m
      | .error error => (.error error, m) := by
  rw [loadFreshFiles.recompile, compileFile_eq]
  have keeps : (fun p => do keepLatest name file.modified p; return p) = e.keep files name := by
    funext p
    rw [keep, hloader]
    simp only [hfile]
  rw [← keeps]
  cases readFile root name file <;> rfl

theorem loadFreshFiles_eq {root : Path} (hloader : e.loader = .freshFiles root) (compile : Compile)
    (all names : List String) :
    loadFreshFiles files root compile all names = e.loadFirst files compile all names := by
  induction names with
  | nil => rfl
  | cons name rest ih =>
      funext m
      rw [loadFreshFiles]
      simp only [loadFirst, kept, source?, hloader, ← ih]
      cases hfile : files.lookUp? root name with
      | none => rfl
      | some file =>
          have compiles := recompile_eq files hloader hfile compile m
          dsimp only
          rw [MemoryM.bind_run]
          simp only [cached, Option.map_some]
          rcases m.cache.find? name with _ | ⟨_ | modified, p⟩
          · exact compiles.trans (by cases readFile root name file <;> rfl)
          · exact compiles.trans (by cases readFile root name file <;> rfl)
          · by_cases same : modified = file.modified
            · simp only [same, if_true]
              rfl
            · have other : (some modified : Option Int) ≠ some file.modified :=
                fun h => same (Option.some.inj h)
              simp only [if_neg same, if_neg other]
              exact compiles.trans (by cases readFile root name file <;> rfl)

variable {files}

theorem serves_self (h : e.loader.ByName) : e.Serves files files := by
  intro compile names
  cases hloader : e.loader with
  | added =>
      have added : ∀ all rest : List String,
          (match rest.findSome? e.templates.find? with
            | some program => (pure program : MemoryM Program)
            | none => throw (notFound all)) = e.loadFirst files compile all rest := by
        intro all rest
        induction rest with
        | nil => rfl
        | cons name rest ih =>
            funext m
            simp only [loadFirst, kept, source?, hloader, List.findSome?_cons, ← ih]
            cases e.templates.find? name <;> rfl
      rw [loadWith, hloader]
      exact added names names
  | sources sources =>
      rw [loadWith, hloader]
      exact loadFromSources_eq files hloader compile names names
  | files root =>
      rw [loadWith, hloader]
      exact loadFromFiles_eq files hloader compile names names
  | freshFiles root =>
      rw [loadWith, hloader]
      exact loadFreshFiles_eq files hloader compile names names
  | custom resolve => exact absurd hloader (h resolve)

/-- Plain loaders do not look at files. -/
theorem serves_plain (h : e.loader.Plain) (files' : FileSystem) : e.Serves files files' := by
  intro compile names
  rw [← serves_self h.byName compile names]
  generalize hloader : e.loader = loader at h
  cases h <;> simp only [loadWith, hloader]

/-! ## What a load can do -/

/-- What loading the first known name can do: give what is kept, fail at once, or compile one source and
keep the program. -/
inductive LoadsFirst (e : Engine) (files : FileSystem) (compile : Compile) (m : Memory) :
    Except Error Program × Memory → Prop
  | kept {name : String} {p : Program} (h : e.kept files m name = some p) :
      LoadsFirst e files compile m (.ok p, m)
  | failed (error : Error) : LoadsFirst e files compile m (.error error, m)
  | broken {name source : String} {error : Error} {n : Memory}
      (run : compile source (some name) m = (.error error, n)) :
      LoadsFirst e files compile m (.error error, n)
  | compiled {name source : String} {p : Program} {n : Memory} (absent : e.kept files m name = none)
      (found : e.source? files name = some (.ok source))
      (run : compile source (some name) m = (.ok p, n)) :
      LoadsFirst e files compile m (e.keep files name p n)

theorem loadFirst_cases (e : Engine) (files : FileSystem) (compile : Compile) (all names : List String)
    (m : Memory) : e.LoadsFirst files compile m (e.loadFirst files compile all names m) := by
  induction names with
  | nil => exact .failed _
  | cons name names ih =>
      rw [loadFirst_cons]
      cases hkept : e.kept files m name with
      | some p => exact .kept hkept
      | none =>
          rcases hsource : e.source? files name with _ | error | source
          · exact ih
          · exact .failed error
          · dsimp only
            rw [MemoryM.bind_run]
            rcases hrun : compile source (some name) m with ⟨error | p, n⟩
            · exact .broken hrun
            · exact .compiled hkept hsource hrun

theorem known_of_kept {e : Engine} {files : FileSystem} {m : Memory} {name : String} {p : Program}
    (h : e.kept files m name = some p) (held : Program → Prop) : Known e held m p := by
  cases hloader : e.loader with
  | added =>
      simp only [kept, hloader] at h
      exact .inr (.inl ⟨name, h⟩)
  | freshFiles root =>
      obtain ⟨_, entry, -, hentry, -, hp⟩ := (kept_freshFiles files hloader).mp h
      exact .inr (.inr ⟨name, entry, hentry, hp⟩)
  | sources | files | custom =>
      simp only [kept, hloader] at h
      obtain ⟨entry, hentry, hp⟩ := Option.map_eq_some_iff.mp h
      exact .inr (.inr ⟨name, entry, hentry, hp⟩)

/-- What a load can do: give a program that is known already, fail at once, or compile one source and
keep the program unless another one is kept. -/
inductive LoadsBy (e : Engine) (held : Program → Prop) (compile : Compile) (m : Memory) :
    Except Error Program × Memory → Prop
  | known {p : Program} (h : Known e held m p) : LoadsBy e held compile m (.ok p, m)
  | failed (error : Error) : LoadsBy e held compile m (.error error, m)
  | broken {source : String} {name : Option String} {error : Error} {n : Memory}
      (run : compile source name m = (.error error, n)) : LoadsBy e held compile m (.error error, n)
  | compiled {source : String} {name : Option String} {p q : Program} {n k : Memory}
      (run : compile source name m = (.ok p, n)) (given : q = p ∨ Known e held n q)
      (kept : ∀ r, Known e held k r → r = p ∨ Known e held n r) : LoadsBy e held compile m (.ok q, k)

theorem keep_run (held : Program → Prop) (name : String) (p : Program) (n : Memory) :
    ∃ q k, e.keep files name p n = (.ok q, k) ∧ (q = p ∨ Known e held n q) ∧
      ∀ r, Known e held k r → r = p ∨ Known e held n r := by
  have inserted : ∀ {entry : CacheEntry}, entry.program = p → ∀ r,
      Known e held { n with cache := n.cache.insert name entry } r → r = p ∨ Known e held n r := by
    intro entry hentry r hr
    rcases hr.of_insert with (hheld | same) | known
    · exact .inr (.inl hheld)
    · exact .inl (same.trans hentry)
    · exact .inr (.inr known)
  have first : ∃ q k, keepFirst name p n = (.ok q, k) ∧ (q = p ∨ Known e held n q) ∧
      ∀ r, Known e held k r → r = p ∨ Known e held n r := by
    unfold keepFirst
    cases found : n.cache.find? name with
    | some entry =>
        exact ⟨_, _, rfl, .inr (.inr (.inr ⟨name, entry, found, rfl⟩)), fun r hr => .inr hr⟩
    | none => exact ⟨_, _, rfl, .inl rfl, inserted rfl⟩
  cases hloader : e.loader with
  | freshFiles root =>
      cases hfile : files.lookUp? root name with
      | none =>
          refine ⟨p, n, ?_, .inl rfl, fun r hr => .inr hr⟩
          rw [keep, hloader]
          simp only [hfile]
          rfl
      | some file =>
          refine ⟨p, { n with cache := n.cache.insert name ⟨some file.modified, p⟩ }, ?_, .inl rfl,
            inserted rfl⟩
          rw [keep, hloader]
          simp only [hfile]
          rfl
  | added | sources | files | custom =>
      rw [keep_first files (by simp [hloader])]
      exact first

theorem loadWith_cases (held : Program → Prop) (compile : Compile) (names : List String) (m : Memory) :
    e.LoadsBy held compile m (e.loadWith files compile names m) := by
  by_cases custom : ∃ resolve, e.loader = .custom resolve
  · obtain ⟨resolve, hloader⟩ := custom
    simp only [loadWith, hloader]
    cases resolve names with
    | error error => exact .failed error
    | ok source =>
        dsimp only
        rcases hrun : compile source.source source.name m with ⟨error | p, n⟩
        · exact .broken hrun
        · exact .compiled hrun (.inl rfl) fun r hr => .inr hr
  · rw [serves_self fun resolve hloader => custom ⟨resolve, hloader⟩]
    have load := e.loadFirst_cases files compile names names m
    generalize e.loadFirst files compile names names m = r at load
    cases load with
    | kept h => exact .known (known_of_kept h held)
    | failed error => exact .failed error
    | broken run => exact .broken run
    | @compiled name source p n absent found run =>
        obtain ⟨q, k, hkeep, given, kept⟩ := @keep_run e files held name p n
        rw [hkeep]
        exact .compiled run given kept

/-! ## Fresh files -/

section

variable {root : Path} (hloader : e.loader = .freshFiles root)

include hloader

theorem serves_freshFiles : e.Serves files files :=
  serves_self fun resolve custom => by rw [hloader] at custom; cases custom

theorem source?_freshFiles_eq_some {name source : String} :
    e.source? files name = some (.ok source) ↔
      ∃ file, files.lookUp? root name = some file ∧ file.text = some source := by
  rw [source?_freshFiles files hloader, Option.map_eq_some_iff]
  simp only [readFile_eq_ok]

/-- In files where the name leads to the same file, it comes to the same. -/
theorem name_congr {files' : FileSystem} {name : String}
    (same : files.lookUp? root name = files'.lookUp? root name) :
    e.source? files name = e.source? files' name ∧ e.keep files name = e.keep files' name ∧
      ∀ m, e.kept files m name = e.kept files' m name := by
  refine ⟨?_, ?_, fun m => ?_⟩
  · rw [source?_freshFiles files hloader, source?_freshFiles files' hloader, same]
  · funext p
    simp only [keep, hloader, same]
  · simp only [kept, hloader, same]

/-- Keeping the latest program gives the program itself. -/
theorem keep_latest {name : String} {file : File}
    (hfile : files.lookUp? root name = some file) (p : Program) (m : Memory) :
    e.keep files name p m =
      (.ok p, { m with cache := m.cache.insert name ⟨some file.modified, p⟩ }) := by
  rw [keep, hloader]
  simp only [hfile]
  rfl

/-- Keeping the latest program changes what is kept under its name only. -/
theorem kept_latest {name : String} {file : File}
    (hfile : files.lookUp? root name = some file) (p : Program) (m : Memory) (other : String) :
    e.kept files { m with cache := m.cache.insert name ⟨some file.modified, p⟩ } other =
      if name = other then some p else e.kept files m other := by
  simp only [kept, hloader]
  by_cases same : name = other
  · rw [if_pos same, ← same, NameMap.find?_insert_self, hfile]
    exact if_pos rfl
  · rw [if_neg same, NameMap.find?_insert_of_ne _ _ same]

omit hloader in
/-- The first of the names that leads to a file. -/
def firstFile (files : FileSystem) (root : Path) (names : List String) : Option String :=
  names.find? fun name => (files.lookUp? root name).isSome

/-- A load with success gives the program that is kept under the first name with a file, or compiles the
file and keeps the program. -/
theorem loadFirst_ok {compile : Compile} {all names : List String} {m n : Memory} {p : Program}
    (run : e.loadFirst files compile all names m = (.ok p, n)) :
    ∃ name file, firstFile files root names = some name ∧ files.lookUp? root name = some file ∧
      (e.kept files m name = some p ∧ m = n ∨
        e.kept files m name = none ∧ ∃ source m₁, file.text = some source ∧
          compile source (some name) m = (.ok p, m₁) ∧
          { m₁ with cache := m₁.cache.insert name ⟨some file.modified, p⟩ } = n) := by
  induction names with
  | nil => cases run
  | cons name names ih =>
      rw [loadFirst_cons, source?_freshFiles files hloader] at run
      rw [firstFile, List.find?_cons]
      cases hfile : files.lookUp? root name with
      | none =>
          -- Without a file nothing that is kept under the name counts, and the load moves on.
          have absent : e.kept files m name = none := by
            by_contra hkept
            obtain ⟨q, hq⟩ := Option.ne_none_iff_exists'.mp hkept
            obtain ⟨_, _, found, -⟩ := (kept_freshFiles files hloader).mp hq
            rw [hfile] at found
            cases found
          rw [absent, hfile] at run
          exact ih run
      | some file =>
          refine ⟨name, file, rfl, hfile, ?_⟩
          cases hkept : e.kept files m name with
          | some kept =>
              rw [hkept] at run
              cases run
              exact .inl ⟨rfl, rfl⟩
          | none =>
              rw [hkept, hfile, Option.map_some] at run
              refine .inr ⟨rfl, ?_⟩
              rcases hread : readFile root name file with error | source
              · rw [hread] at run
                cases run
              · rw [hread] at run
                obtain ⟨q, m₁, compiled, run⟩ := MemoryM.bind_ok run
                rw [keep_latest hloader hfile] at run
                cases run
                exact ⟨source, m₁, readFile_eq_ok.mp hread, compiled, rfl⟩

end

end Engine

end TextTemplate
