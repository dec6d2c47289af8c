import TextTemplate.Proofs.Engine.Numbering

/-!
# Files under a root

A loader of files follows a name from its root directory, and nothing keeps it there: a name that
starts with a slash, or climbs with `..`, leads out of the root (`Outside.load_secret`). Names that
do neither stay inside. If such names are asked for, and the templates under the root name no others
either, what is loaded depends on nothing but the files under the root (`Engine.load_inside`).
-/

namespace TextTemplate

namespace FileSystem

/-! ## Paths that stay inside -/

/-- Whether the names, followed one after the other, never climb higher than so many levels. -/
def stays : Nat → List String → Bool
  | _, [] => true
  | depth, name :: names =>
    if name = "" || name = "." then stays depth names
    else if name = ".." then 0 < depth && stays (depth - 1) names
    else stays (depth + 1) names

/-- A name that does not leave the directory it is followed from. -/
def Confined (name : String) : Prop :=
  isAbsolute name = false ∧ stays 0 (Text.segmentsOf '/' name) = true

instance (name : String) : Decidable (Confined name) :=
  inferInstanceAs (Decidable (_ ∧ _))

/-- Two file trees that are the same from the root directory on. -/
def SameInside (root : Path) (files files' : FileSystem) : Prop :=
  ∀ path, root <+: path → files.find? path = files'.find? path

variable {root : Path} {files files' : FileSystem}

/-- Names that stay inside lead to the same place inside, in both trees. -/
theorem resolve?_inside (same : SameInside root files files') {names : List String} {below : Path}
    (h : stays below.length names = true) :
    files.resolve? (root ++ below) names = files'.resolve? (root ++ below) names ∧
      ∀ path, files.resolve? (root ++ below) names = some path → root <+: path := by
  have here : ∀ below : Path, files.find? (root ++ below) = files'.find? (root ++ below) :=
    fun below => same _ (List.prefix_append root below)
  induction names generalizing below with
  | nil =>
      simp only [resolve?, here]
      refine ⟨trivial, fun path hpath => ?_⟩
      split at hpath
      · cases hpath
        exact List.prefix_append root below
      · cases hpath
  | cons name names ih =>
      have directory : files.isDirectory (root ++ below) = files'.isDirectory (root ++ below) := by
        rw [isDirectory, isDirectory, here]
      rw [stays] at h
      rw [resolve?, resolve?, directory]
      by_cases open' : files'.isDirectory (root ++ below) = true
      · rw [open', Bool.not_true, if_neg Bool.false_ne_true, if_neg Bool.false_ne_true]
        by_cases idle : (name = "" || name = ".") = true
        · rw [if_pos idle] at h
          rw [if_pos idle, if_pos idle]
          exact ih h
        rw [if_neg idle] at h
        rw [if_neg idle, if_neg idle]
        by_cases up : name = ".."
        · rw [if_pos up, Bool.and_eq_true] at h
          rw [if_pos up, if_pos up]
          -- The names never leave the root, so there is a level to drop.
          rcases below.eq_nil_or_concat with rfl | ⟨above, last, rfl⟩
          · cases h.1
          · rw [List.concat_eq_append, List.length_append, List.length_singleton] at h
            rw [List.concat_eq_append, ← List.append_assoc, List.dropLast_concat]
            exact ih h.2
        · rw [if_neg up] at h
          rw [if_neg up, if_neg up, List.append_assoc]
          refine ih ?_
          rwa [List.length_append, List.length_singleton]
      · rw [Bool.not_eq_true] at open'
        rw [open', Bool.not_false, if_pos rfl, if_pos rfl]
        exact ⟨rfl, fun path impossible => by cases impossible⟩

/-- A confined name leads to the same file in both trees, and to one inside of the root. -/
theorem lookUp?_inside (same : SameInside root files files') {name : String} (h : Confined name) :
    files.lookUp? root name = files'.lookUp? root name ∧
      ∀ file, files.lookUp? root name = some file →
        ∃ path, root <+: path ∧ files.find? path = some (.file file) := by
  obtain ⟨relative, stay⟩ := h
  obtain ⟨resolved, inside⟩ := @resolve?_inside root files files' same _ [] stay
  rw [List.append_nil] at resolved inside
  simp only [lookUp?, relative, Bool.false_eq_true, if_false, ← resolved]
  cases hpath : files.resolve? root (Text.segmentsOf '/' name) with
  | none => exact ⟨rfl, fun file impossible => by cases impossible⟩
  | some path =>
      have hbelow := inside path hpath
      simp only [Option.bind_some, ← same path hbelow]
      refine ⟨trivial, fun file hfile => ⟨path, hbelow, ?_⟩⟩
      split at hfile
      · next found hfound =>
          cases hfile
          exact hfound
      · cases hfile

end FileSystem

namespace Engine

/-! ## Loading from the same files -/

/-- Whatever templates the tags of a source name by a literal, their names are of this kind. -/
def NamesOnly (e : Engine) (kind : String → Prop) (source : String) : Prop :=
  ∀ t ∈ e.delimiters.tokens source.toList, ∀ names,
    t.reading e.filters = .ok (.splice names) → ∀ name ∈ names, kind name

/-- Names of this kind lead to the same files in both trees, and the texts of these files name
templates of this kind only. -/
structure SameFiles (e : Engine) (root : Path) (kind : String → Prop) (files files' : FileSystem) :
    Prop where
  same : ∀ {name}, kind name → files.lookUp? root name = files'.lookUp? root name
  closed : ∀ {name file text}, kind name → files.lookUp? root name = some file →
    file.text = some text → e.NamesOnly kind text

variable {e : Engine} {root : Path} {kind : String → Prop} {files files' : FileSystem}

theorem compileFile_congr (h : e.SameFiles root kind files files') {compile compile' : Compile}
    (hcompile : ∀ {source}, e.NamesOnly kind source → compile source = compile' source)
    {name : String} (hname : kind name) {file : File} (hfile : files.lookUp? root name = some file) :
    compileFile root compile name file = compileFile root compile' name file := by
  unfold compileFile
  cases htext : file.text with
  | none => rfl
  | some text =>
      dsimp only
      rw [hcompile (h.closed hname hfile htext)]

theorem loadFromFiles_congr (h : e.SameFiles root kind files files') {compile compile' : Compile}
    (hcompile : ∀ {source}, e.NamesOnly kind source → compile source = compile' source)
    (all : List String) {names : List String} (hnames : ∀ name ∈ names, kind name) :
    loadFromFiles files root compile all names = loadFromFiles files' root compile' all names := by
  induction names with
  | nil => rfl
  | cons name names ih =>
      have hname := hnames name List.mem_cons_self
      have rest := ih fun other hother => hnames other (List.mem_cons_of_mem _ hother)
      rw [loadFromFiles, loadFromFiles, ← h.same hname]
      cases hfile : files.lookUp? root name with
      | none => simp only [rest]
      | some file => simp only [compileFile_congr h hcompile hname hfile]

theorem loadFreshFiles_congr (h : e.SameFiles root kind files files') {compile compile' : Compile}
    (hcompile : ∀ {source}, e.NamesOnly kind source → compile source = compile' source)
    (all : List String) {names : List String} (hnames : ∀ name ∈ names, kind name) :
    loadFreshFiles files root compile all names = loadFreshFiles files' root compile' all names := by
  induction names with
  | nil => rfl
  | cons name names ih =>
      have hname := hnames name List.mem_cons_self
      have rest := ih fun other hother => hnames other (List.mem_cons_of_mem _ hother)
      rw [loadFreshFiles, loadFreshFiles, ← h.same hname]
      cases hfile : files.lookUp? root name with
      | none => exact rest
      | some file =>
          simp only [loadFreshFiles.recompile, compileFile_congr h hcompile hname hfile]

theorem loadWith_congr (hloader : e.loader = .files root ∨ e.loader = .freshFiles root)
    (h : e.SameFiles root kind files files') {compile compile' : Compile}
    (hcompile : ∀ {source}, e.NamesOnly kind source → compile source = compile' source)
    {names : List String} (hnames : ∀ name ∈ names, kind name) :
    e.loadWith files compile names = e.loadWith files' compile' names := by
  rcases hloader with hloader | hloader
  · simp only [loadWith, hloader]
    exact loadFromFiles_congr h hcompile names hnames
  · simp only [loadWith, hloader]
    exact loadFreshFiles_congr h hcompile names hnames

theorem compileWithin_congr (hloader : e.loader = .files root ∨ e.loader = .freshFiles root)
    (h : e.SameFiles root kind files files') (depth : Nat) {source : String}
    (hsource : e.NamesOnly kind source) :
    e.compileWithin files depth source = e.compileWithin files' depth source := by
  induction depth generalizing source with
  | zero => rfl
  | succ depth ih =>
      funext name m
      have loads : ∀ t ∈ e.delimiters.tokens source.toList, ∀ names,
          t.reading e.filters = .ok (.splice names) →
            e.loadWith files (e.compileWithin files depth) names =
              e.loadWith files' (e.compileWithin files' depth) names :=
        fun t ht names hreading => loadWith_congr hloader h ih (hsource t ht names hreading)
      rw [compileWithin, compileWithin, compileSource_run, compileSource_run,
        TagReader.nodes_congr loads]

/-- Confined names load the same from trees that are the same inside of the root, if the texts in
there name confined templates only. -/
theorem load_inside (hloader : e.loader = .files root ∨ e.loader = .freshFiles root)
    (same : FileSystem.SameInside root files files')
    (texts : ∀ path file text, root <+: path → files.find? path = some (.file file) →
      file.text = some text → e.NamesOnly FileSystem.Confined text)
    (names : List String) (confined : ∀ name ∈ names, FileSystem.Confined name) (m : Memory) :
    e.load files names m = e.load files' names m := by
  have hfiles : e.SameFiles root FileSystem.Confined files files' := {
    same := fun hname => (FileSystem.lookUp?_inside same hname).1
    closed := fun hname hfile htext => by
      obtain ⟨path, hbelow, hpath⟩ := (FileSystem.lookUp?_inside same hname).2 _ hfile
      exact texts path _ _ hbelow hpath htext }
  have compiles : ∀ {source}, e.NamesOnly FileSystem.Confined source →
      e.compile files source = e.compile files' source :=
    fun hsource => compileWithin_congr hloader hfiles _ hsource
  rw [load, load, loadWith_congr hloader hfiles compiles confined]

end Engine

/-! ## A file beside the root -/

namespace Outside

def root : Path := ["srv", "templates"]

/-- Loads the files under the root. -/
def engine : Engine := { Engine.ofDelimiters .standard with loader := .files root }

/-- The text of a template that includes another one, by a name that climbs inside of the root. -/
def pageText : String := "\x7b% include 'lib/../part' %\x7d"

/-- Nothing but two templates and a directory under the root. -/
def bare : FileSystem :=
  ⟨[(["srv"], .directory), (["srv", "templates"], .directory),
    (["srv", "templates", "lib"], .directory),
    (["srv", "templates", "page"], .file ⟨some pageText, 0⟩),
    (["srv", "templates", "part"], .file ⟨some "A", 0⟩)]⟩

/-- The same files and one beside the root. -/
def withSecret : FileSystem := ⟨(["srv", "secret"], .file ⟨some "B", 0⟩) :: bare.entries⟩

theorem sameInside : FileSystem.SameInside root withSecret bare := by
  intro path hbelow
  have other : (["srv", "secret"] == path) = false := by
    rw [beq_eq_false_iff_ne]
    rintro rfl
    exact absurd hbelow (by decide)
  unfold FileSystem.find?
  rw [withSecret, List.find?_cons_of_neg (by simp [other])]

theorem lookUp?_secret : withSecret.lookUp? root "../secret" = some ⟨some "B", 0⟩ := by
  decide +kernel

theorem lookUp?_bare : bare.lookUp? root "../secret" = none := by
  decide +kernel

/-- A name that climbs out of the root loads a file outside of it. -/
theorem load_secret :
    (engine.load withSecret ["../secret"] .initial).1.map Program.source = .ok "B" ∧
      (engine.load bare ["../secret"] .initial).1.map Program.source =
        .error (Engine.notFound ["../secret"]) := by
  have tokens : engine.delimiters.tokens "B".toList = [⟨.text, "B".toList, ⟨0, 1⟩⟩] := by cbv
  have compiles : ∃ p m, engine.compile withSecret "B" (some "../secret") .initial = (.ok p, m) ∧
      p.source = "B" ∧ m.cache = [] := by
    rw [Engine.compile, show engine.maxIncludeDepth = 63 + 1 from rfl, Engine.compileWithin,
      Engine.compileSource_run, tokens]
    exact ⟨_, _, rfl, rfl, rfl⟩
  constructor
  · obtain ⟨p, m, hcompile, hsource, hcache⟩ := compiles
    rw [Engine.load, Engine.loadWith, show engine.loader = .files root from rfl]
    simp only [Engine.loadFromFiles, lookUp?_secret, MemoryM.bind_run, Engine.cached,
      Engine.compileFile, Memory.initial, NameMap.find?_nil]
    rw [show engine.compile withSecret "B" (some "../secret") ⟨0, []⟩ = _ from hcompile]
    simp only [Engine.keepFirst, hcache, NameMap.find?_nil]
    exact congrArg Except.ok hsource
  · rw [Engine.load, Engine.loadWith, show engine.loader = .files root from rfl]
    simp only [Engine.loadFromFiles, lookUp?_bare]
    rfl

set_option maxRecDepth 10000 in
theorem page_names : engine.NamesOnly FileSystem.Confined pageText := by
  have tokens : engine.delimiters.tokens pageText.toList =
      [⟨.statement, "include 'lib/../part'".toList, ⟨0, 27⟩⟩] := by cbv
  have reading : Token.reading engine.filters ⟨.statement, "include 'lib/../part'".toList, ⟨0, 27⟩⟩ =
      .ok (.splice ["lib/../part"]) := by cbv
  intro t ht names hnames
  rw [tokens, List.mem_singleton] at ht
  rw [ht, reading] at hnames
  cases hnames
  decide +kernel

theorem plain_names {text : List Char} {span : Span}
    (tokens : engine.delimiters.tokens text = [⟨.text, text, span⟩]) :
    engine.NamesOnly FileSystem.Confined (String.ofList text) := by
  intro t ht names hnames
  rw [String.toList_ofList, tokens, List.mem_singleton] at ht
  rw [ht] at hnames
  cases hnames

/-- The texts under the root name confined templates only. -/
theorem texts (path : Path) (file : File) (text : String) (hbelow : root <+: path)
    (hfile : withSecret.find? path = some (.file file)) (htext : file.text = some text) :
    engine.NamesOnly FileSystem.Confined text := by
  rw [sameInside path hbelow, FileSystem.find?] at hfile
  split at hfile
  · cases hfile
  · obtain ⟨⟨found, entry⟩, hfound, rfl⟩ := Option.map_eq_some_iff.mp hfile
    have hmem := List.mem_of_find?_eq_some hfound
    simp only [bare, List.mem_cons, Prod.mk.injEq, FileEntry.file.injEq, reduceCtorEq, and_false,
      List.not_mem_nil, or_false, false_or] at hmem
    rcases hmem with ⟨-, rfl⟩ | ⟨-, rfl⟩
    · cases htext
      exact page_names
    · cases htext
      have tokens : engine.delimiters.tokens ['A'] = [⟨.text, ['A'], ⟨0, 1⟩⟩] := by cbv
      exact plain_names tokens

end Outside

/-- A page that includes another one loads the same, whatever lies beside the root. -/
theorem Engine.load_inside_page :
    (Outside.engine.loader = .files Outside.root ∨ Outside.engine.loader = .freshFiles Outside.root) ∧
      FileSystem.Confined "page" ∧
      Outside.engine.load Outside.withSecret ["page"] .initial =
        Outside.engine.load Outside.bare ["page"] .initial := by
  have confined : FileSystem.Confined "page" := by decide +kernel
  refine ⟨.inl rfl, confined, load_inside (.inl rfl) Outside.sameInside Outside.texts ["page"] ?_ _⟩
  intro name hname
  rw [List.mem_singleton.mp hname]
  exact confined

end TextTemplate
