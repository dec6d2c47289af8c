import TextTemplate.Proofs.Engine.Reloading
import TextTemplate.Proofs.Render.Including

/-!
# Renders of reloaded templates

A template from a loader that compiles changed files anew renders as the template of a new loader would,
if the files that a file leads to did not change while its modification time stayed the same
(`Engine.load_reloaded`). A change to the file that a template extends is not seen otherwise
(`Stale.load_stale`), and what is kept already does not count towards the limit of compiling
(`Stale.load_limited`).
-/

namespace TextTemplate

open Render

/-- Programs, each with the memory in which it was loaded, render alike with all data, unless one of the
renders reaches the limit of compiling. -/
def RendersAlike (e : Engine) (files : FileSystem) (p p' : Program) (m m' : Memory) : Prop :=
  ∀ (world : World) (depth : Nat) (data : Value), world.files = files →
    (∀ entries, dataScope data = .ok entries →
      Shallow (p.context e world) depth p.root (Program.startState e m entries) ∧
        Shallow (p'.context e world) depth p'.root (Program.startState e m' entries)) →
    (p.renderWithin e world depth m data).1 = (p'.renderWithin e world depth m' data).1

/-- Two loads fail with one error, or give programs that render alike. -/
def LoadedAlike (e : Engine) (files : FileSystem) :
    Except Error Program × Memory → Except Error Program × Memory → Prop
  | (.error error, _), (.error error', _) => error = error'
  | (.ok p, m), (.ok p', m') => RendersAlike e files p p' m m'
  | _, _ => False

namespace Engine

section

variable {e : Engine} {files files' : FileSystem} {base : String → Nat} {q p p' : Program}
  {m₀ m m' : Memory} (hapart : e.Apart files m₀ base fun _ => False)
  (hserves : e.Serves files files')

include hapart hserves

/-- A program with the settled nodes renders as the settled one. -/
theorem SettledAs.report_eq (h : e.SettledAs files m₀ base q p m)
    (blocks : p.blocks = registryOf p.root) {world : World} (hfiles : world.files = files')
    (depth : Nat) (data : NameMap Value)
    (shallow : Shallow (p.context e world) depth p.root (Program.startState e m data)) :
    report (render (p.context e world) depth p.root (Program.startState e m data)) =
      report (render ((settledContext e files m₀ base e.mayInclude world).of q.root) depth q.root
        (Program.startState e m₀ data)) := by
  obtain ⟨rel, halike, hkeeps⟩ := h
  have hload : e.LoadsSettled files m₀ base (fun _ => False) (p.context e world).load := by
    change e.LoadsSettled files m₀ base (fun _ => False) (e.load world.files)
    rw [hfiles]
    exact loadWith_settled hapart hserves e.maxIncludeDepth
  have document : p.context e world = (p.context e world).of p.root :=
    Inclusion.context_eq blocks p world
  rw [document] at shallow ⊢
  exact report_shallow_settled halike hload hkeeps depth m₀ data shallow

/-- Two programs with the same settled nodes render alike. -/
theorem SettledAs.rendersAlike (h : e.SettledAs files m₀ base q p m)
    (h' : e.SettledAs files m₀ base q p' m') (blocks : p.blocks = registryOf p.root)
    (blocks' : p'.blocks = registryOf p'.root) (hname : p.name = p'.name) :
    RendersAlike e files' p p' m m' := by
  intro world depth data hfiles shallow
  rw [Program.renderWithin_outcome, Program.renderWithin_outcome]
  cases hdata : dataScope data with
  | error error => rfl
  | ok entries =>
      obtain ⟨left, right⟩ := shallow entries hdata
      dsimp only
      rw [hname, h.report_eq hapart hserves blocks hfiles depth entries left,
        h'.report_eq hapart hserves blocks' hfiles depth entries right]

end

variable {e : Engine} {root : Path} (hloader : e.loader = .freshFiles root) {files : FileSystem}
  {base : String → Nat} (hapart : e.Apart files ⟨0, []⟩ base fun _ => False)

include hloader hapart

/-- Loads from memories that keep what the names come to now come to the same. -/
theorem Current.loadedAlike {past past' : List FileSystem} {m m' : Memory}
    (h : e.Current root files base past m) (h' : e.Current root files base past' m')
    (names : List String) (within : ¬ Limited (e.load files names m).1)
    (within' : ¬ Limited (e.load files names m').1) :
    LoadedAlike e files (e.load files names m) (e.load files names m') := by
  have serves : e.Serves files files := serves_freshFiles hloader
  rcases KeepsSettled.loads_agree hapart serves serves h.keeps h'.keeps e.maxIncludeDepth names within
    within' with ⟨error, n, n', run, run'⟩ | ⟨q, p, p', n, n', run, run', settled, settled'⟩
  · rw [load, compile, run, run']
    rfl
  · obtain ⟨hname, blocks⟩ := load_compiled hloader h.compiled run
    obtain ⟨hname', blocks'⟩ := load_compiled hloader h'.compiled run'
    have alike := settled.rendersAlike hapart serves settled' blocks blocks' (hname.trans hname'.symm)
    rw [load, compile, run, run']
    exact alike

omit hapart

/-- Whatever was written, removed and loaded before, a load comes to what it comes to with a new loader:
the same error, or a program that renders all data the same. This takes that at each load the files of
a name were as they are now if its file had the modification time that it has now, at this load or at an
earlier one; and that neither load reaches the limit of compiling. -/
theorem load_reloaded {m : Memory} {past : List FileSystem} (h : e.Reloads files m past)
    (steady : e.Steady root files past) (names : List String) (nextId : Nat)
    (within : ¬ Limited (e.load files names m).1)
    (within' : ¬ Limited (e.load files names ⟨nextId, []⟩).1) :
    LoadedAlike e files (e.load files names m) (e.load files names ⟨nextId, []⟩) := by
  obtain ⟨base, hapart⟩ := e.exists_apart files ⟨0, []⟩ 0
  have hapart : e.Apart files ⟨0, []⟩ base fun _ => False := hapart.mono fun _ => False.elim
  have old : e.Current root files base past m := h.current hloader hapart steady
  have new : e.Current root files base [] ⟨nextId, []⟩ := current_start hloader nextId
  exact old.loadedAlike hloader hapart new names within within'

end Engine

/-! ## A changed base

The page extends the base. Only the base is written anew. -/

namespace Stale

def root : Path := ["srv"]

def engine : Engine := { Engine.ofDelimiters .standard with loader := .freshFiles root }

def pageText : String := "\x7b% extends 'base' %\x7d"

def basePath : Path := ["srv", "base"]

def pagePath : Path := ["srv", "page"]

/-- The files at the start. -/
def earlier : FileSystem :=
  ⟨[(root, .directory), (basePath, .file ⟨some "old", 10⟩), (pagePath, .file ⟨some pageText, 11⟩)]⟩

/-- The base has been written. -/
def later : FileSystem := earlier.write basePath ⟨some "new", 20⟩

/-- The program of the base with the text. -/
def baseProgram (serial : Nat) (text : String) : Program :=
  ⟨serial, some "base", text, [.text text], []⟩

/-- The program of the page around the base with the text. -/
def pageProgram (serial : Nat) (text : String) : Program :=
  ⟨serial, some "page", pageText, [.splice [.text text]], []⟩

set_option maxRecDepth 10000 in
theorem tokens_page : engine.delimiters.tokens pageText.toList =
    [⟨.statement, "extends 'base'".toList, ⟨0, 20⟩⟩] := by
  cbv

theorem tokens_plain {text : String} (h : text = "old" ∨ text = "new") :
    engine.delimiters.tokens text.toList = [⟨.text, text.toList, ⟨0, 3⟩⟩] := by
  rcases h with rfl | rfl <;> cbv

theorem compile_base {text : String} (h : text = "old" ∨ text = "new") (files : FileSystem) (depth : Nat)
    (m : Memory) :
    engine.compileWithin files (depth + 1) text (some "base") m =
      (.ok (baseProgram m.nextId text), m.drawn) := by
  rw [Engine.compileWithin, Engine.compileSource_run, tokens_plain h]
  rcases h with rfl | rfl <;> rfl

theorem byName : engine.loader.ByName := fun _ other => by cases other

section

variable {files : FileSystem} {text : String} {time time' : Int} (plain : text = "old" ∨ text = "new")
  (hbase : files.lookUp? root "base" = some ⟨some text, time⟩)
  (hpage : files.lookUp? root "page" = some ⟨some pageText, time'⟩)

include plain hbase

theorem load_base (depth : Nat) {m : Memory} (absent : engine.kept files m "base" = none) :
    engine.loadWith files (engine.compileWithin files (depth + 1)) ["base"] m =
      (.ok (baseProgram m.nextId text), ⟨m.nextId + 1,
        m.cache.insert "base" ⟨some time, baseProgram m.nextId text⟩⟩) := by
  rw [Engine.serves_self byName, Engine.loadFirst_cons, absent,
    Engine.source?_freshFiles files (show engine.loader = .freshFiles root from rfl), hbase]
  change (engine.compileWithin files (depth + 1) text (some "base") >>= engine.keep files "base") m = _
  rw [MemoryM.bind_run, compile_base plain]
  exact Engine.keep_latest rfl hbase _ _

include hpage

/-- The page is compiled around the base. -/
theorem load_page {m : Memory} (absent : engine.kept files m "base" = none)
    (absent' : engine.kept files m "page" = none) :
    engine.load files ["page"] m = (.ok (pageProgram (m.nextId + 1) text), ⟨m.nextId + 2,
      (m.cache.insert "base" ⟨some time, baseProgram m.nextId text⟩).insert "page"
        ⟨some time', pageProgram (m.nextId + 1) text⟩⟩) := by
  rw [Engine.load, Engine.serves_self byName, Engine.loadFirst_cons, absent',
    Engine.source?_freshFiles files (show engine.loader = .freshFiles root from rfl), hpage]
  change (engine.compileWithin files (62 + 1 + 1) pageText (some "page") >>=
    engine.keep files "page") m = _
  rw [MemoryM.bind_run, Engine.compileWithin, Engine.compileSource_run, tokens_page]
  simp only [TagReader.nodes_run, TagReader.outline_cons, TagReader.action_run, reading_extends_base,
    load_base plain hbase 62 absent]
  exact Engine.keep_latest rfl hpage _ _

end

/-- What a new loader keeps after loading the page at the start. -/
def memory : Memory :=
  ⟨2, [("base", ⟨some 10, baseProgram 0 "old"⟩), ("page", ⟨some 11, pageProgram 1 "old"⟩)]⟩

theorem load_earlier : engine.load earlier ["page"] ⟨0, []⟩ = (.ok (pageProgram 1 "old"), memory) := by
  have hbase : earlier.lookUp? root "base" = some ⟨some "old", 10⟩ := by decide +kernel
  have hpage : earlier.lookUp? root "page" = some ⟨some pageText, 11⟩ := by decide +kernel
  exact load_page (.inl rfl) hbase hpage rfl rfl

theorem reloads_earlier : engine.Reloads earlier memory [earlier] := by
  have loaded := Engine.Reloads.load (.start (e := engine) earlier 0) ["page"]
  rw [load_earlier] at loaded
  exact loaded

/-- At midnight, with the files after the change. -/
def world : World := ⟨later, ⟨1970, 1, 1, 0, 0, 0, 0, 0⟩, []⟩

/-- Each file that has another text than at the start has another modification time. -/
theorem times_changed (path : Path) (file file' : File)
    (hfile : earlier.find? path = some (.file file)) (hfile' : later.find? path = some (.file file'))
    (changed : file.text ≠ file'.text) :
    file.modified ≠ file'.modified := by
  by_cases base : path = basePath
  · subst base
    have old : earlier.find? basePath = some (.file ⟨some "old", 10⟩) := by decide +kernel
    have new : later.find? basePath = some (.file ⟨some "new", 20⟩) := by decide +kernel
    rw [old] at hfile
    rw [new] at hfile'
    cases hfile
    cases hfile'
    decide
  · have entries : later.entries = [(basePath, .file ⟨some "new", 20⟩), (root, .directory),
        (pagePath, .file ⟨some pageText, 11⟩)] := rfl
    have other : (basePath == path) = false := beq_eq_false_iff_ne.mpr fun same => base same.symm
    have same : later.find? path = earlier.find? path := by
      unfold FileSystem.find?
      simp only [entries, earlier, List.find?_cons, other]
    rw [same, hfile] at hfile'
    cases hfile'
    exact absurd rfl changed

/-- The page that was loaded before renders the text of the old base, although the base has been
written with another modification time. A new loader gives the text of the new one. -/
theorem load_stale :
    engine.Reloads later memory [earlier] ∧
      (∀ path file file', earlier.find? path = some (.file file) →
        later.find? path = some (.file file') → file.text ≠ file'.text →
          file.modified ≠ file'.modified) ∧
      ∃ p p' n', engine.load later ["page"] memory = (.ok p, memory) ∧
        engine.load later ["page"] ⟨0, []⟩ = (.ok p', n') ∧
        (p.render engine world memory .none).1 = .text "old" ∧
        (p'.render engine world n' .none).1 = .text "new" := by
  have hbase : later.lookUp? root "base" = some ⟨some "new", 20⟩ := by decide +kernel
  have hpage : later.lookUp? root "page" = some ⟨some pageText, 11⟩ := by decide +kernel
  have kept : engine.kept later memory "page" = some (pageProgram 1 "old") :=
    (Engine.kept_freshFiles later rfl).mpr ⟨_, ⟨some 11, pageProgram 1 "old"⟩, hpage, rfl, rfl, rfl⟩
  have old : engine.load later ["page"] memory = (.ok (pageProgram 1 "old"), memory) := by
    rw [Engine.load, Engine.serves_self byName, Engine.loadFirst_cons, kept]
  have new := load_page (.inr rfl) hbase hpage (Engine.kept_nothing later rfl 0 "base")
    (Engine.kept_nothing later rfl 0 "page")
  exact ⟨reloads_earlier.write basePath ⟨some "new", 20⟩, times_changed, _, _, _, old, new, rfl, rfl⟩

/-- The engine with a limit of one template inside another. -/
def narrow : Engine := { engine with maxIncludeDepth := 1 }

/-- What is kept after the base was loaded. -/
def baseMemory : Memory := ⟨1, [("base", ⟨some 10, baseProgram 0 "old"⟩)]⟩

theorem narrow_load_base : narrow.load earlier ["base"] ⟨0, []⟩ =
    (.ok (baseProgram 0 "old"), baseMemory) := by
  have hbase : earlier.lookUp? root "base" = some ⟨some "old", 10⟩ := by decide +kernel
  have compiled : narrow.compileWithin earlier 1 "old" (some "base") ⟨0, []⟩ =
      (.ok (baseProgram 0 "old"), ⟨1, []⟩) := by
    have tokens : narrow.delimiters.tokens "old".toList = _ := tokens_plain (.inl rfl)
    rw [Engine.compileWithin, Engine.compileSource_run, tokens]
    rfl
  rw [Engine.load, Engine.serves_self (e := narrow) byName, Engine.loadFirst_cons,
    Engine.kept_nothing earlier rfl, Engine.source?_freshFiles earlier (e := narrow) rfl, hbase]
  change (narrow.compileWithin earlier 1 "old" (some "base") >>= narrow.keep earlier "base") ⟨0, []⟩ = _
  rw [MemoryM.bind_run, compiled]
  exact Engine.keep_latest rfl hbase _ _

theorem narrow_compile_page (m : Memory) :
    narrow.compileWithin earlier 1 pageText (some "page") m =
      match narrow.loadWith earlier (narrow.compileWithin earlier 0) ["base"] m with
      | (.ok p, n) =>
        (.ok ⟨n.nextId, some "page", pageText, [.splice p.root], registryOf [.splice p.root]⟩, n.drawn)
      | (.error error, n) => (.error ((error.enrich pageText ⟨0, 20⟩).named (some "page")), n) := by
  have tokens : narrow.delimiters.tokens pageText.toList = _ := tokens_page
  rw [Engine.compileWithin, Engine.compileSource_run, tokens]
  simp only [TagReader.nodes_run, TagReader.outline_cons, TagReader.action_run, reading_extends_base]
  rcases narrow.loadWith earlier (narrow.compileWithin earlier 0) ["base"] m with ⟨error | p, n⟩ <;> rfl

theorem earlier_steady : narrow.Steady root earlier [earlier] :=
  ⟨fun name _ _ _ => .refl earlier name, trivial⟩

/-- A page whose base is kept loads where a new loader reaches the limit. No file has changed. -/
theorem load_limited :
    narrow.Reloads earlier baseMemory [earlier] ∧ narrow.Steady root earlier [earlier] ∧
      narrow.load earlier ["page"] baseMemory = (.ok (pageProgram 1 "old"), memory) ∧
      Limited (narrow.load earlier ["page"] ⟨0, []⟩).1 := by
  have hbase : earlier.lookUp? root "base" = some ⟨some "old", 10⟩ := by decide +kernel
  have hpage : earlier.lookUp? root "page" = some ⟨some pageText, 11⟩ := by decide +kernel
  have reloads : narrow.Reloads earlier baseMemory [earlier] := by
    have loaded := Engine.Reloads.load (.start (e := narrow) earlier 0) ["base"]
    rwa [narrow_load_base] at loaded
  have compiles : ∀ {m : Memory}, narrow.kept earlier m "page" = none →
      narrow.load earlier ["page"] m =
        (narrow.compileWithin earlier 1 pageText (some "page") >>= narrow.keep earlier "page") m := by
    intro m absent
    rw [Engine.load, Engine.serves_self (e := narrow) byName, Engine.loadFirst_cons, absent,
      Engine.source?_freshFiles earlier (e := narrow) rfl, hpage]
    rfl
  refine ⟨reloads, earlier_steady, ?kept, ?limited⟩
  case kept =>
    have kept : narrow.kept earlier baseMemory "base" = some (baseProgram 0 "old") :=
      (Engine.kept_freshFiles earlier rfl).mpr
        ⟨_, ⟨some 10, baseProgram 0 "old"⟩, hbase, rfl, rfl, rfl⟩
    have absent : narrow.kept earlier baseMemory "page" = none := by
      simp only [Engine.kept, show narrow.loader = .freshFiles root from rfl, hpage]
      rfl
    rw [compiles absent, MemoryM.bind_run, narrow_compile_page,
      Engine.serves_self (e := narrow) byName, Engine.loadFirst_cons, kept]
    exact Engine.keep_latest rfl hpage _ _
  case limited =>
    have absent : ∀ name, narrow.kept earlier ⟨0, []⟩ name = none := Engine.kept_nothing earlier rfl 0
    rw [compiles (absent "page"), MemoryM.bind_run, narrow_compile_page,
      Engine.serves_self (e := narrow) byName, Engine.loadFirst_cons, absent,
      Engine.source?_freshFiles earlier (e := narrow) rfl, hbase]
    exact limited_error.mpr ⟨1, rfl⟩

/-- The page has been written, too. -/
def touched : FileSystem := later.write pagePath ⟨some pageText, 21⟩

/-- A file of a tree is one of its entries. -/
theorem exists_entry {files : FileSystem} {start : Path} {name : String} {file : File}
    (h : files.lookUp? start name = some file) : ∃ path, (path, .file file) ∈ files.entries := by
  unfold FileSystem.lookUp? at h
  dsimp only at h
  split at h
  · next found hfound =>
      cases h
      obtain ⟨path, -, hpath⟩ := Option.bind_eq_some_iff.mp hfound
      unfold FileSystem.find? at hpath
      split at hpath
      · cases hpath
      · obtain ⟨⟨other, entry⟩, hentry, rfl⟩ := Option.map_eq_some_iff.mp hpath
        exact ⟨other, List.mem_of_find?_eq_some hentry⟩
  · cases h

/-- No file has the modification time that a file had at the start. -/
theorem touched_steady : engine.Steady root touched [earlier] := by
  have now : ∀ {path file}, (path, .file file) ∈ touched.entries → 20 ≤ file.modified := by
    intro path file hmem
    have entries : touched.entries = [(pagePath, .file ⟨some pageText, 21⟩),
        (basePath, .file ⟨some "new", 20⟩), (root, .directory)] := rfl
    rw [entries] at hmem
    simp only [List.mem_cons, Prod.mk.injEq, FileEntry.file.injEq, reduceCtorEq, and_false,
      List.not_mem_nil, or_false] at hmem
    rcases hmem with ⟨-, rfl⟩ | ⟨-, rfl⟩ <;> decide
  have before : ∀ {path file}, (path, .file file) ∈ earlier.entries → file.modified < 20 := by
    intro path file hmem
    simp only [earlier, List.mem_cons, Prod.mk.injEq, FileEntry.file.injEq, reduceCtorEq, and_false,
      List.not_mem_nil, or_false, false_or] at hmem
    rcases hmem with ⟨-, rfl⟩ | ⟨-, rfl⟩ <;> decide
  refine ⟨?_, trivial⟩
  rintro name was hwas ⟨file, old, hfile, hold, same⟩
  rw [List.mem_singleton.mp hwas] at hold
  obtain ⟨_, hentry⟩ := exists_entry hfile
  obtain ⟨_, hentry'⟩ := exists_entry hold
  have := now hentry
  have := before hentry'
  omega

end Stale

/-- If the page is written, too, loading it again gives what a new loader gives. -/
theorem Engine.load_reloaded_page :
    Stale.engine.loader = .freshFiles Stale.root ∧
      Stale.engine.Reloads Stale.touched Stale.memory [Stale.earlier] ∧
      Stale.engine.Steady Stale.root Stale.touched [Stale.earlier] ∧
      ¬ Limited (Stale.engine.load Stale.touched ["page"] Stale.memory).1 ∧
      ¬ Limited (Stale.engine.load Stale.touched ["page"] ⟨0, []⟩).1 ∧
      LoadedAlike Stale.engine Stale.touched (Stale.engine.load Stale.touched ["page"] Stale.memory)
        (Stale.engine.load Stale.touched ["page"] ⟨0, []⟩) := by
  have reloads : Stale.engine.Reloads Stale.touched Stale.memory [Stale.earlier] :=
    (Stale.reloads_earlier.write Stale.basePath ⟨some "new", 20⟩).write Stale.pagePath
      ⟨some Stale.pageText, 21⟩
  have hbase : Stale.touched.lookUp? Stale.root "base" = some ⟨some "new", 20⟩ := by decide +kernel
  have hpage : Stale.touched.lookUp? Stale.root "page" = some ⟨some Stale.pageText, 21⟩ := by
    decide +kernel
  have oldBase : Stale.engine.kept Stale.touched Stale.memory "base" = none := by
    simp only [Engine.kept, show Stale.engine.loader = .freshFiles Stale.root from rfl, hbase]
    rfl
  have oldPage : Stale.engine.kept Stale.touched Stale.memory "page" = none := by
    simp only [Engine.kept, show Stale.engine.loader = .freshFiles Stale.root from rfl, hpage]
    rfl
  have first : ¬ Limited (Stale.engine.load Stale.touched ["page"] Stale.memory).1 := by
    rw [Stale.load_page (.inr rfl) hbase hpage oldBase oldPage]
    exact not_limited_ok _
  have second : ¬ Limited (Stale.engine.load Stale.touched ["page"] ⟨0, []⟩).1 := by
    rw [Stale.load_page (.inr rfl) hbase hpage (Engine.kept_nothing Stale.touched rfl 0 "base")
      (Engine.kept_nothing Stale.touched rfl 0 "page")]
    exact not_limited_ok _
  exact ⟨rfl, reloads, Stale.touched_steady, first, second,
    Engine.load_reloaded rfl reloads Stale.touched_steady ["page"] 0 first second⟩

end TextTemplate
