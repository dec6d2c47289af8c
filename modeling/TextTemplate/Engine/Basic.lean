import TextTemplate.Engine.FileSystem
import TextTemplate.Filter.Standard
import TextTemplate.Template.Tag

/-!
# Engines

An engine is a configuration: delimiters, filters, builtins, the templates that were added to it and
the loader that resolves template names. The functions here compile sources and load templates; what
has to outlive a call is in the `Memory` that they thread through.

A template that names another one by a literal is compiled together with it. `compileWithin`
recurses on the number of templates that may still be compiled inside one another, so a cycle of
includes always ends in an error.
-/

namespace TextTemplate

/-- A source to be compiled. -/
structure NamedSource where
  name : Option String
  source : String
deriving DecidableEq, Repr

/-- How template names are resolved. -/
inductive Loader where
  /-- Among the templates added to the engine. -/
  | added
  /-- In a map from names to sources; each is compiled on first use and kept. -/
  | sources (sources : NameMap String)
  /-- Among the files under a directory; each is compiled on first use and kept. -/
  | files (root : Path)
  /-- Among the files under a directory; a file is compiled anew when its modification time
  changes. -/
  | freshFiles (root : Path)
  /-- By a function that gives the source for a list of candidate names. -/
  | custom (resolve : List String → Except Error NamedSource)

/-- A loader whose template is its own list of candidate names. -/
def Loader.echo : Loader :=
  .custom fun names => .ok ⟨some (names.headD ""), ",".intercalate names⟩

/-- A loader that fails for every name. -/
def Loader.failing (reason : String) : Loader :=
  .custom fun _ => .error ⟨.ioFailure reason, none, none⟩

structure Engine where
  delimiters : Delimiters
  filters : NameMap Filter
  /-- Values that every template sees. -/
  builtins : NameMap Value
  templates : NameMap Program
  loader : Loader
  maxIncludeDepth : Nat

namespace Engine

/-- The builtins of a new engine. -/
def standardBuiltins (delimiters : Delimiters) : NameMap Value := NameMap.ofEntries [
  ("delimiters", delimiters.toValue),
  ("now", .callable (.shared "now") .now),
  ("range", .callable (.shared "range") .range)]

/-- A new engine. -/
def ofDelimiters (delimiters : Delimiters) : Engine where
  delimiters
  filters := Filter.standard
  builtins := standardBuiltins delimiters
  templates := []
  loader := .added
  maxIncludeDepth := 64

def addFilter (e : Engine) (name : String) (filter : Filter) : Engine :=
  { e with filters := e.filters.insert name filter }

def addBuiltin (e : Engine) (name : String) (value : Value) : Engine :=
  { e with builtins := e.builtins.insert name value }

/-! ## Compiling -/

/-- Compiles a source, given how the templates it names are loaded. -/
def compileSource (e : Engine) (load : List String → MemoryM Program) (source : String)
    (name : Option String) : MemoryM Program := do
  let reader : TagReader := { filters := e.filters, source, load }
  let root ← fun m =>
    match reader.nodes (e.delimiters.tokens source.toList) m with
    | (.ok root, m) => (.ok root, m)
    | (.error error, m) => (.error (error.named name), m)
  return { serial := ← freshId, name, source, root, blocks := registryOf root }

/-! ## Loading -/

def notFound (names : List String) : Error := ⟨.notFound names, none, none⟩

/-- The first of the names under which a template was added. -/
def findAdded (e : Engine) (names : List String) : MemoryM Program :=
  match names.findSome? e.templates.find? with
  | some program => pure program
  | none => throw (notFound names)

/-- Keeps a program under a name unless one is kept there already; gives the one that is kept. -/
def keepFirst (name : String) (program : Program) : MemoryM Program := fun m =>
  match m.cache.find? name with
  | some entry => (.ok entry.program, m)
  | none => (.ok program, { m with cache := m.cache.insert name ⟨none, program⟩ })

/-- Keeps a program under a name in place of any other. -/
def keepLatest (name : String) (modified : Int) (program : Program) : MemoryM Unit := fun m =>
  (.ok (), { m with cache := m.cache.insert name ⟨some modified, program⟩ })

def cached (name : String) : MemoryM (Option CacheEntry) := fun m => (.ok (m.cache.find? name), m)

/-- Compiles one source on behalf of a loader. -/
abbrev Compile := String → Option String → MemoryM Program

def loadFromSources (sources : NameMap String) (compile : Compile) (all : List String) :
    List String → MemoryM Program
  | [] => throw (notFound all)
  | name :: names => do
    match ← cached name with
    | some entry => return entry.program
    | none =>
      match sources.find? name with
      | some source => keepFirst name (← compile source (some name))
      | none => loadFromSources sources compile all names

/-- Compiles the text of a file. -/
def compileFile (root : Path) (compile : Compile) (name : String) (file : File) : MemoryM Program :=
  match file.text with
  | some source => compile source (some name)
  | none =>
    let path := FileSystem.pathText root name
    throw ⟨.unreadable path "stream did not contain valid UTF-8", none, none⟩

def loadFromFiles (files : FileSystem) (root : Path) (compile : Compile) (all : List String) :
    List String → MemoryM Program
  | [] => throw (notFound all)
  | name :: names => do
    match ← cached name with
    | some entry => return entry.program
    | none =>
      match files.lookUp? root name with
      | some file => keepFirst name (← compileFile root compile name file)
      | none => loadFromFiles files root compile all names

def loadFreshFiles (files : FileSystem) (root : Path) (compile : Compile) (all : List String) :
    List String → MemoryM Program
  | [] => throw (notFound all)
  | name :: names => do
    match files.lookUp? root name with
    | none => loadFreshFiles files root compile all names
    | some file =>
      match ← cached name with
      | some ⟨some modified, program⟩ =>
        if modified = file.modified then return program
        else recompile file name
      | _ => recompile file name
where
  /-- Compiles a file and keeps the program with the modification time of the file. -/
  recompile (file : File) (name : String) : MemoryM Program := do
    let program ← compileFile root compile name file
    keepLatest name file.modified program
    return program

/-- Loads the first of the candidates that exists. -/
def loadWith (e : Engine) (files : FileSystem) (compile : Compile) (names : List String) :
    MemoryM Program :=
  match e.loader with
  | .added => e.findAdded names
  | .sources sources => loadFromSources sources compile names names
  | .files root => loadFromFiles files root compile names names
  | .freshFiles root => loadFreshFiles files root compile names names
  | .custom resolve =>
    match resolve names with
    | .ok source => compile source.source source.name
    | .error error => throw error

/-- Compiles a source when at most `depth` templates may be compiled inside one another, this one
included. -/
def compileWithin (e : Engine) (files : FileSystem) : Nat → Compile
  | 0, _, _ => throw ⟨.compileDepth e.maxIncludeDepth, none, none⟩
  | depth + 1, source, name =>
    e.compileSource (e.loadWith files (e.compileWithin files depth)) source name

/-- Compiles a source. -/
def compile (e : Engine) (files : FileSystem) : Compile := e.compileWithin files e.maxIncludeDepth

/-- Loads a template. -/
def load (e : Engine) (files : FileSystem) (names : List String) : MemoryM Program :=
  e.loadWith files (e.compile files) names

/-- Whether another template may be included while rendering where `depth` of them enclose the
place already. -/
def mayInclude (e : Engine) (depth : Nat) : Except Cause Unit :=
  if e.maxIncludeDepth ≤ depth then .error (.renderDepth e.maxIncludeDepth) else .ok ()

/-- Compiles a template and adds it to the engine. -/
def addTemplate (e : Engine) (files : FileSystem) (name source : String) : MemoryM Engine := do
  let program ← e.compile files source (some name)
  return { e with templates := e.templates.insert name program }

/-- Sets the loader, which starts without any programs of its own. -/
def setLoader (e : Engine) (loader : Loader) : MemoryM Engine := fun m =>
  (.ok { e with loader }, { m with cache := [] })

end Engine

end TextTemplate
