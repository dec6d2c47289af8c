import TextTemplate.Proofs.Engine.Confined
import TextTemplate.Proofs.Engine.Keeping

/-!
# Reloading changed files

A loader that compiles changed files anew looks at the modification time of the file that is asked for.
The program that it keeps has the templates in place that this file names, and their files may change
without a change to its time. While they do not, what the loader keeps is what the names come to now
(`Current`), whatever was loaded before.
-/

namespace TextTemplate

/-- A name leads to a file in both trees, with one modification time. -/
def FileSystem.SameTime (root : Path) (files files' : FileSystem) (name : String) : Prop :=
  ∃ file file', files.lookUp? root name = some file ∧ files'.lookUp? root name = some file' ∧
    file.modified = file'.modified

/-- A program as compiling the template of a name makes it. -/
structure Program.Compiled (name : String) (p : Program) : Prop where
  name : p.name = some name
  blocks : p.blocks = registryOf p.root

namespace Engine

/-- Files are written and removed and templates are loaded, one after the other. The file trees that the
loads have seen are listed, the latest first. -/
inductive Reloads (e : Engine) : FileSystem → Memory → List FileSystem → Prop
  | start (files : FileSystem) (nextId : Nat) : Reloads e files ⟨nextId, []⟩ []
  | write {files m past} (h : Reloads e files m past) (path : Path) (file : File) :
      Reloads e (files.write path file) m past
  | remove {files m past} (h : Reloads e files m past) (path : Path) :
      Reloads e (files.remove path) m past
  | load {files m past} (h : Reloads e files m past) (names : List String) :
      Reloads e files (e.load files names m).2 (files :: past)

/-- The file of a name and all files that its text leads to are the same in both trees. -/
def Unchanged (e : Engine) (root : Path) (files files' : FileSystem) (name : String) : Prop :=
  ∃ kind : String → Prop, kind name ∧ e.SameFiles root kind files files'

theorem Unchanged.refl {e : Engine} {root : Path} (files : FileSystem) (name : String) :
    e.Unchanged root files files name :=
  ⟨fun _ => True, trivial,
    { same := fun _ => rfl
      closed := fun _ _ _ _ _ _ _ _ _ => trivial }⟩

/-- At each load, the files of a name were as they are now if the name led to a file with the
modification time that it has now, at this load or at an earlier one. -/
def Steady (e : Engine) (root : Path) (now : FileSystem) : List FileSystem → Prop
  | [] => True
  | there :: past =>
    (∀ name, ∀ was ∈ there :: past, now.SameTime root was name → e.Unchanged root now there name) ∧
      Steady e root now past

/-! ## What is kept through the changes -/

/-- What the memory keeps was compiled from files that a load has seen, and where it counts now it is
what the name comes to now. -/
structure Current (e : Engine) (root : Path) (now : FileSystem) (base : String → Nat)
    (past : List FileSystem) (m : Memory) : Prop where
  keeps : ∃ rel, e.Keeps now ⟨0, []⟩ base (fun _ => False) rel (fun _ => False) m
  seen : ∀ {name entry}, m.cache.find? name = some entry → ∃ was ∈ past, ∃ file,
    was.lookUp? root name = some file ∧ entry.modified = some file.modified
  compiled : ∀ {name entry}, m.cache.find? name = some entry → entry.program.Compiled name

section

variable {e : Engine} {root : Path} {now there : FileSystem} {base : String → Nat}
  {past : List FileSystem} {m : Memory}

theorem Keeps.of_kept {files : FileSystem} {m₀ : Memory} {reserved pending : Nat → Prop}
    {rel : Nat → Nat → Prop} (h : e.Keeps files m₀ base reserved rel pending m) {m' : Memory}
    (hnext : m'.nextId = m.nextId) (hkept : ∀ name, e.kept files m' name = e.kept files m name) :
    e.Keeps files m₀ base reserved rel pending m' where
  unique := h.unique
  drawn hrel := hnext ▸ h.drawn hrel
  below hp := hnext ▸ h.below hp
  kept hp := h.kept (hkept _ ▸ hp)
  early hearly := hkept _ ▸ h.early hearly
  fresh hnone := h.fresh (hkept _ ▸ hnone)
  free := h.free

theorem Current.later (h : e.Current root now base past m) (there : FileSystem) :
    e.Current root now base (there :: past) m where
  keeps := h.keeps
  seen hentry := by
    obtain ⟨was, hwas, found⟩ := h.seen hentry
    exact ⟨was, List.mem_cons_of_mem _ hwas, found⟩
  compiled := h.compiled

theorem Current.drawn (h : e.Current root now base past m) : e.Current root now base past m.drawn where
  keeps := KeepsSettled.drawn h.keeps
  seen := h.seen
  compiled := h.compiled

variable (hloader : e.loader = .freshFiles root)

include hloader

/-- A loader that has not kept anything yet is current. -/
theorem current_start (nextId : Nat) :
    e.Current root now base past ⟨nextId, []⟩ where
  keeps := ⟨_, keeps_nothing (kept_nothing now hloader 0) (kept_nothing now hloader nextId)⟩
  seen := by
    intro name entry hentry
    cases hentry
  compiled := by
    intro name entry hentry
    cases hentry

/-- A program of a name that never led to a file with the time of now does not count now. -/
theorem kept_eq_none
    (h : ∀ {name entry}, m.cache.find? name = some entry → ∃ was ∈ past, ∃ file,
      was.lookUp? root name = some file ∧ entry.modified = some file.modified)
    {name : String} (other : ∀ was ∈ past, ¬ now.SameTime root was name) :
    e.kept now m name = none := by
  by_contra hkept
  obtain ⟨p, hp⟩ := Option.ne_none_iff_exists'.mp hkept
  obtain ⟨file, entry, hfile, hentry, hcounts, -⟩ := (kept_freshFiles now hloader).mp hp
  obtain ⟨was, hwas, old, hold, htime⟩ := h hentry
  rw [htime] at hcounts
  exact other was hwas ⟨file, old, hfile, hold, (Option.some.inj hcounts).symm⟩

/-- The memory after a program has been kept with the time of its file. -/
theorem Current.insert (h : e.Current root now base past m) (hthere : there ∈ past) {name : String}
    {file : File} (hfile : there.lookUp? root name = some file) {p : Program} (hp : p.Compiled name)
    (settled : e.Unchanged root now there name → ∃ rel, e.Keeps now ⟨0, []⟩ base (fun _ => False) rel
      (fun _ => False) { m with cache := m.cache.insert name ⟨some file.modified, p⟩ })
    (steady : ∀ was ∈ past, now.SameTime root was name → e.Unchanged root now there name) :
    e.Current root now base past { m with cache := m.cache.insert name ⟨some file.modified, p⟩ } := by
  have seen : ∀ {other entry},
      (m.cache.insert name ⟨some file.modified, p⟩).find? other = some entry → ∃ was ∈ past, ∃ file,
        was.lookUp? root other = some file ∧ entry.modified = some file.modified := by
    intro other entry hentry
    rcases NameMap.of_find?_insert hentry with ⟨rfl, rfl⟩ | hentry
    · exact ⟨there, hthere, file, hfile, rfl⟩
    · exact h.seen hentry
  refine ⟨?_, seen, ?_⟩
  · by_cases unchanged : e.Unchanged root now there name
    · exact settled unchanged
    · -- What was kept under the name did not count, and neither does the new program.
      obtain ⟨rel, hkeeps⟩ := h.keeps
      refine ⟨rel, hkeeps.of_kept rfl fun other => ?_⟩
      have elsewhere : ∀ was ∈ past, ¬ now.SameTime root was name :=
        fun was hwas same => unchanged (steady was hwas same)
      by_cases same : name = other
      · subst same
        rw [kept_eq_none hloader seen elsewhere, kept_eq_none hloader h.seen elsewhere]
      · simp only [kept, hloader, NameMap.find?_insert_of_ne _ _ same]
  · intro other entry hentry
    rcases NameMap.of_find?_insert hentry with ⟨rfl, rfl⟩ | hentry
    · exact hp
    · exact h.compiled hentry

/-- Compiling a file that leads to the same files as now keeps what its name comes to now. -/
theorem keeps_unchanged (hapart : e.Apart now ⟨0, []⟩ base fun _ => False) {name : String}
    (unchanged : e.Unchanged root now there name) {source : String}
    (hsource : e.source? there name = some (.ok source)) (hnone : e.kept there m name = none)
    {rel : Nat → Nat → Prop}
    (hkeeps : e.Keeps now ⟨0, []⟩ base (fun _ => False) rel (fun _ => False) m) {depth : Nat}
    {p : Program} {n : Memory}
    (run : (e.compileWithin there depth source (some name) >>= e.keep there name) m = (.ok p, n)) :
    ∃ rel, e.Keeps now ⟨0, []⟩ base (fun _ => False) rel (fun _ => False) n := by
  obtain ⟨kind, hname, hfiles⟩ := unchanged
  have same : now.lookUp? root name = there.lookUp? root name := hfiles.same hname
  obtain ⟨sources, keeps, kept⟩ := name_congr hloader same
  rw [← sources] at hsource
  rw [← kept] at hnone
  -- The file names templates of its kind only, so it compiles as it would now.
  obtain ⟨file, hfile, text⟩ := (source?_freshFiles_eq_some hloader).mp hsource
  have compiles := compileWithin_congr (.inr hloader) hfiles depth (hfiles.closed hname hfile text)
  rw [← compiles, ← keeps] at run
  have settled := compileWithin_settled hapart (serves_freshFiles hloader) depth hkeeps hsource hnone m
  rw [run] at settled
  cases hsettled : e.settled now ⟨0, []⟩ base name with
  | error error =>
      rw [hsettled] at settled
      exact settled.elim
  | ok q =>
      rw [hsettled] at settled
      obtain ⟨rel', -, hn, -⟩ := settled
      exact ⟨rel', hn⟩

omit hloader in
theorem compileWithin_compiled {files : FileSystem} {depth : Nat} {source name : String} {p : Program}
    {n : Memory} (run : e.compileWithin files depth source (some name) m = (.ok p, n)) :
    p.Compiled name := by
  obtain ⟨hname, -, hblocks⟩ := compileWithin_ok run
  exact ⟨hname, hblocks⟩

variable (hapart : e.Apart now ⟨0, []⟩ base fun _ => False)
  (steady : ∀ name, ∀ was ∈ there :: past, now.SameTime root was name →
    e.Unchanged root now there name)

include hapart steady

theorem loadFirst_current {depth : Nat}
    (compiles : ∀ {m} source name, e.Current root now base (there :: past) m →
      e.Current root now base (there :: past) (e.compileWithin there depth source name m).2)
    (all names : List String) (h : e.Current root now base (there :: past) m) :
    e.Current root now base (there :: past)
      (e.loadFirst there (e.compileWithin there depth) all names m).2 := by
  have load := e.loadFirst_cases there (e.compileWithin there depth) all names m
  generalize e.loadFirst there (e.compileWithin there depth) all names m = r at load
  cases load with
  | kept _ => exact h
  | failed _ => exact h
  | @broken name source error n run =>
      have after := compiles source (some name) h
      rwa [run] at after
  | @compiled name source p n absent found run =>
      obtain ⟨file, hfile, -⟩ := (source?_freshFiles_eq_some hloader).mp found
      have after := compiles source (some name) h
      rw [run] at after
      rw [keep_latest hloader hfile]
      refine after.insert hloader List.mem_cons_self hfile (compileWithin_compiled run) ?_ (steady name)
      intro unchanged
      obtain ⟨rel, hkeeps⟩ := h.keeps
      have kept : (e.compileWithin there depth source (some name) >>= e.keep there name) m =
          (.ok p, { n with cache := n.cache.insert name ⟨some file.modified, p⟩ }) := by
        rw [MemoryM.bind_run, run]
        exact keep_latest hloader hfile p n
      exact keeps_unchanged hloader hapart unchanged found absent hkeeps kept

theorem compileWithin_current (depth : Nat) (source : String) (name : Option String)
    (h : e.Current root now base (there :: past) m) :
    e.Current root now base (there :: past) (e.compileWithin there depth source name m).2 := by
  induction depth generalizing source name m with
  | zero => exact h
  | succ depth ih =>
      refine compileSource_keeps (I := e.Current root now base (there :: past)) Current.drawn
        (fun names hm => ?_) source name h
      rw [serves_freshFiles hloader]
      exact loadFirst_current hloader hapart steady (fun source name hm => ih source name hm) names
        names hm

/-- What a load keeps is current. -/
theorem load_current (names : List String) (h : e.Current root now base (there :: past) m) :
    e.Current root now base (there :: past) (e.load there names m).2 := by
  rw [load, serves_freshFiles hloader]
  exact loadFirst_current hloader hapart steady
    (fun source name hm =>
      compileWithin_current hloader hapart steady e.maxIncludeDepth source name hm) names names h

omit hapart steady

/-- Whatever was loaded before, what is kept is current if the files were steady. -/
theorem Reloads.current (hapart : e.Apart now ⟨0, []⟩ base fun _ => False) {files : FileSystem}
    (h : e.Reloads files m past) (steady : e.Steady root now past) :
    e.Current root now base past m := by
  induction h with
  | start files nextId => exact current_start hloader nextId
  | write _ path file ih => exact ih steady
  | remove _ path ih => exact ih steady
  | @load files m past _ names ih =>
      obtain ⟨latest, before⟩ := steady
      exact load_current hloader hapart latest names ((ih before).later files)

/-! ## Loading from what is kept -/

/-- A load gives the program of the first file. -/
theorem load_compiled (h : ∀ {name entry}, m.cache.find? name = some entry →
    entry.program.Compiled name) {names : List String} {p : Program} {n : Memory}
    (run : e.load now names m = (.ok p, n)) :
    p.name = firstFile now root names ∧ p.blocks = registryOf p.root := by
  rw [load, serves_freshFiles hloader] at run
  obtain ⟨name, file, hname, -, ⟨hkept, -⟩ | ⟨-, source, m₁, -, hrun, -⟩⟩ := loadFirst_ok hloader run
  · obtain ⟨_, entry, -, hentry, -, rfl⟩ := (kept_freshFiles now hloader).mp hkept
    have compiled := h hentry
    exact ⟨compiled.name.trans hname.symm, compiled.blocks⟩
  · have compiled := compileWithin_compiled hrun
    exact ⟨compiled.name.trans hname.symm, compiled.blocks⟩

end

end Engine

end TextTemplate
