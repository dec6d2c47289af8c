import TextTemplate.Proofs.Engine.Cycles

/-!
# The guard of nested compilations

Compilations that run inside one another are told apart by a counter. It goes up when one begins, also
one that is refused for the limit, and down when one ends, however it ends. The functions here compile
with that counter at hand, and stop only when the counter says so. They do what `Engine.compileWithin`
does, which recurses on how much of the limit is left, and give the counter back as it was. With that,
templates that lead to a cycle are never loaded, whatever has been loaded before.
-/

namespace TextTemplate

/-- What compilations change: the memory, the counter of the guard, and how many sources are being
compiled inside one another, now and at most. -/
structure Nesting where
  memory : Memory
  counter : Nat
  running : Nat
  deepest : Nat

/-- A computation under the guard. There is no result when it does not end. -/
abbrev GuardM (α : Type) := ExceptT Error (StateT Nesting Option) α

namespace GuardM

variable {α β : Type}

theorem bind_run (act : GuardM α) (next : α → GuardM β) (s : Nesting) :
    (act >>= next) s =
      match act s with
      | some (.ok a, s) => next a s
      | some (.error e, s) => some (.error e, s)
      | none => none := by
  change (act s >>= fun p => ExceptT.bindCont next p.1 p.2 : Option _) = _
  rcases act s with _ | ⟨e | a, s⟩ <;> rfl

/-- A computation that compiles nothing. -/
def lift (act : MemoryM α) : GuardM α := fun s =>
  match act s.memory with
  | (result, memory) => some (result, { s with memory })

/-- Says more about a failure. -/
def mapError (f : Error → Error) (act : GuardM α) : GuardM α := fun s =>
  (act s).map fun (result, s) => (result.mapError f, s)

/-- Counts a source as being compiled for as long as that takes. -/
def counted (act : GuardM α) : GuardM α := fun s =>
  let running := s.running + 1
  (act { s with running, deepest := max s.deepest running }).map fun (result, s) =>
    (result, { s with running := s.running - 1 })

/-- Compiles under the guard. The counter goes up before it is compared with the limit, and down again
also if that refuses the compilation. -/
def guarded (limit : Nat) (act : GuardM α) : GuardM α := fun s =>
  let counter := s.counter + 1
  let body := if limit < counter then throw ⟨.compileDepth limit, none, none⟩ else act.counted
  (body { s with counter }).map fun (result, s) => (result, { s with counter := s.counter - 1 })

/-- Where the counter is `counter`, the guarded computation ends as the plain one does. It leaves the
counter as it was, and brings no more than `limit` sources inside one another. -/
def Shadows (limit counter : Nat) (act : GuardM α) (plain : MemoryM α) : Prop :=
  ∀ s : Nesting, s.counter = counter → s.running ≤ counter →
    ∃ deepest, s.deepest ≤ deepest ∧ deepest ≤ max s.deepest limit ∧
      act s = some ((plain s.memory).1, { s with memory := (plain s.memory).2, deepest })

variable {limit counter : Nat}

theorem shadows_lift (act : MemoryM α) : Shadows limit counter (lift act) act :=
  fun s _ _ => ⟨s.deepest, le_rfl, le_max_left .., rfl⟩

theorem Shadows.bind {act : GuardM α} {plain : MemoryM α} {next : α → GuardM β}
    {plainNext : α → MemoryM β} (h : Shadows limit counter act plain)
    (hnext : ∀ a, Shadows limit counter (next a) (plainNext a)) :
    Shadows limit counter (act >>= next) (plain >>= plainNext) := by
  intro s hcounter hrunning
  obtain ⟨deepest, low, high, hrun⟩ := h s hcounter hrunning
  rw [bind_run, hrun, MemoryM.bind_run]
  rcases plain s.memory with ⟨e | a, m⟩
  · exact ⟨deepest, low, high, rfl⟩
  · obtain ⟨deepest', low', high', hrun'⟩ :=
      hnext a { s with memory := m, deepest } hcounter hrunning
    simp only at high'
    exact ⟨deepest', low.trans low', by omega, hrun'⟩

theorem Shadows.mapError {act : GuardM α} {plain : MemoryM α} (h : Shadows limit counter act plain)
    (f : Error → Error) :
    Shadows limit counter (act.mapError f) fun m => ((plain m).1.mapError f, (plain m).2) := by
  intro s hcounter hrunning
  obtain ⟨deepest, low, high, hrun⟩ := h s hcounter hrunning
  exact ⟨deepest, low, high, by rw [GuardM.mapError, hrun]; rfl⟩

/-- Below the limit the guard lets a compilation pass. -/
theorem Shadows.guarded {act : GuardM α} {plain : MemoryM α}
    (h : Shadows limit (counter + 1) act plain) (below : counter < limit) :
    Shadows limit counter (act.guarded limit) plain := by
  intro s hcounter hrunning
  have allowed : ¬ limit < s.counter + 1 := by omega
  obtain ⟨deepest, low, high, hrun⟩ :=
    h ⟨s.memory, s.counter + 1, s.running + 1, max s.deepest (s.running + 1)⟩
      (congrArg (· + 1) hcounter) (Nat.succ_le_succ hrunning)
  simp only at low high
  refine ⟨deepest, by omega, by omega, ?_⟩
  simp only [GuardM.guarded, if_neg allowed, counted, hrun, Option.map_some, Nat.add_sub_cancel]

/-- At the limit it refuses one, and the counter is down again. -/
theorem shadows_refused (act : GuardM α) (reached : limit ≤ counter) :
    Shadows limit counter (act.guarded limit) (throw ⟨.compileDepth limit, none, none⟩) := by
  intro s hcounter _
  have refused : limit < s.counter + 1 := by omega
  refine ⟨s.deepest, le_rfl, le_max_left .., ?_⟩
  simp only [GuardM.guarded, if_pos refused]
  rfl

end GuardM

/-! ## Reading under the guard -/

/-- What reading a template needs, when templates are loaded under the guard. -/
structure GuardedReader where
  filters : NameMap Filter
  source : String
  load : List String → GuardM Program

namespace GuardedReader

variable (r : GuardedReader)

/-- The reader for what loads nothing. -/
def plain : TagReader := ⟨r.filters, r.source, fun names => throw (Engine.notFound names)⟩

def action (t : Token) : GuardM Action :=
  match t.reading r.filters with
  | .ok (.splice names) => do
    let program ← (r.load names).mapError (·.enrich r.source t.span)
    return .add (.splice program.root)
  | _ => .lift (r.plain.action t)

def outline : Outline → List Token → GuardM Outline
  | o, [] => pure o
  | o, t :: ts => do
    let action ← r.action t
    let o ← GuardM.lift (r.plain.locate t (o.act t.span action))
    outline o ts

def nodes (tokens : List Token) : GuardM (List Node) := do
  GuardM.lift (r.plain.close (← r.outline .start tokens))

end GuardedReader

namespace Engine

/-- As `compileSource`. -/
def compileSourceGuarded (e : Engine) (load : List String → GuardM Program) (source : String)
    (name : Option String) : GuardM Program := do
  let reader : GuardedReader := { filters := e.filters, source, load }
  let root ← (reader.nodes (e.delimiters.tokens source.toList)).mapError (·.named name)
  return { serial := ← GuardM.lift freshId, name, source, root, blocks := registryOf root }

/-- As `loadFromSources`. -/
def loadGuardedFrom (sources : NameMap String) (compile : String → Option String → GuardM Program)
    (all : List String) : List String → GuardM Program
  | [] => throw (notFound all)
  | name :: names => do
    match ← GuardM.lift (cached name) with
    | some entry => return entry.program
    | none =>
      match sources.find? name with
      | some source => GuardM.lift (keepFirst name (← compile source (some name)))
      | none => loadGuardedFrom sources compile all names

/-- Compiles under the guard. Nothing but the counter stops it; the fuel is what the recursion is on. -/
def compileGuarded (e : Engine) (sources : NameMap String) :
    Nat → String → Option String → GuardM Program
  | 0, _, _ => fun _ => none
  | fuel + 1, source, name =>
    .guarded e.maxIncludeDepth <| e.compileSourceGuarded
      (fun names => loadGuardedFrom sources (e.compileGuarded sources fuel) names names) source name

/-- Loads a template under the guard. How many sources have been compiled inside one another is counted
anew. -/
def loadGuarded (e : Engine) (sources : NameMap String) (fuel : Nat) (names : List String) :
    GuardM Program := fun s =>
  loadGuardedFrom sources (e.compileGuarded sources fuel) names names { s with deepest := s.running }

end Engine

/-! ## Under the guard nothing changes -/

section

open GuardM

variable {limit counter : Nat} {guardedLoad : List String → GuardM Program}
  {load : List String → MemoryM Program}

section

variable (loads : ∀ names, Shadows limit counter (guardedLoad names) (load names))
include loads

theorem GuardedReader.action_shadows (filters : NameMap Filter) (source : String) (t : Token) :
    Shadows limit counter (action ⟨filters, source, guardedLoad⟩ t)
      (TagReader.action ⟨filters, source, load⟩ t) := by
  -- Without a template to load the two readers are the same.
  have same (other : ∀ names, t.reading filters ≠ .ok (.splice names)) :
      TagReader.action ⟨filters, source, load⟩ t =
        (plain ⟨filters, source, guardedLoad⟩).action t := by
    funext m
    rw [TagReader.action_run, TagReader.action_run]
    dsimp only [plain]
    cases hreading : t.reading filters with
    | error cause => rfl
    | ok reading =>
        cases reading with
        | splice names => exact absurd hreading (other names)
        | _ => rfl
  unfold action
  split
  case h_1 names hreading =>
    have loaded := (loads names).mapError (·.enrich source t.span)
    have added := loaded.bind fun p => shadows_lift (pure (Action.add (.splice p.root)))
    refine (congrArg _ (funext fun m => ?_)).mp added
    rw [TagReader.action_run, MemoryM.bind_run]
    dsimp only at hreading ⊢
    rw [hreading]
    dsimp only
    rcases load names m with ⟨e | p, m⟩ <;> rfl
  case h_2 other =>
    rw [same other]
    exact shadows_lift _

theorem GuardedReader.outline_shadows (filters : NameMap Filter) (source : String) (ts : List Token)
    (o : Outline) :
    Shadows limit counter (outline ⟨filters, source, guardedLoad⟩ o ts)
      (TagReader.outline ⟨filters, source, load⟩ o ts) := by
  induction ts generalizing o with
  | nil => exact shadows_lift (pure o)
  | cons t ts ih =>
      exact (action_shadows loads filters source t).bind fun action =>
        (shadows_lift (TagReader.locate ⟨filters, source, load⟩ t (o.act t.span action))).bind ih

theorem Engine.compileSource_shadows (e : Engine) (source : String) (name : Option String) :
    Shadows limit counter (e.compileSourceGuarded guardedLoad source name)
      (e.compileSource load source name) := by
  have nodes := (GuardedReader.outline_shadows loads e.filters source
    (e.delimiters.tokens source.toList) .start).bind fun o =>
      shadows_lift (TagReader.close ⟨e.filters, source, load⟩ o)
  have named := (nodes.mapError (·.named name)).bind fun root =>
    (shadows_lift freshId).bind fun serial =>
      shadows_lift (pure (⟨serial, name, source, root, registryOf root⟩ : Program))
  refine (congrArg _ (funext fun m => ?_)).mp named
  rw [compileSource_run, MemoryM.bind_run, TagReader.nodes_eq]
  rcases (TagReader.outline ⟨e.filters, source, load⟩ .start (e.delimiters.tokens source.toList) >>=
    TagReader.close ⟨e.filters, source, load⟩) m with ⟨error | root, m⟩ <;> rfl

end

theorem Engine.loadFromSources_shadows (sources : NameMap String)
    {compile : String → Option String → GuardM Program} {plain : Compile}
    (compiles : ∀ source name, Shadows limit counter (compile source name) (plain source name))
    (all names : List String) :
    Shadows limit counter (loadGuardedFrom sources compile all names)
      (loadFromSources sources plain all names) := by
  induction names with
  | nil => exact shadows_lift (throw (notFound all))
  | cons name names ih =>
      refine (shadows_lift (cached name)).bind fun entry => ?_
      cases entry with
      | some entry => exact shadows_lift (pure entry.program)
      | none =>
          cases hsource : sources.find? name with
          | none => exact ih
          | some source =>
              exact (compiles source (some name)).bind fun p => shadows_lift (keepFirst name p)

end

namespace Engine

open GuardM

variable {e : Engine} {sources : NameMap String}

section

variable (hloader : e.loader = .sources sources) (files : FileSystem)
include hloader

/-- The guard leaves as many compilations as the limit is above the counter, and no fuel beyond that
is used. -/
theorem compileGuarded_shadows {fuel counter : Nat} (enough : e.maxIncludeDepth - counter < fuel)
    (source : String) (name : Option String) :
    Shadows e.maxIncludeDepth counter (e.compileGuarded sources fuel source name)
      (e.compileWithin files (e.maxIncludeDepth - counter) source name) := by
  induction fuel generalizing counter source name with
  | zero => exact absurd enough (Nat.not_lt_zero _)
  | succ fuel ih =>
      by_cases below : counter < e.maxIncludeDepth
      · have left : e.maxIncludeDepth - counter = (e.maxIncludeDepth - (counter + 1)) + 1 := by omega
        rw [left, compileWithin]
        refine Shadows.guarded (compileSource_shadows (fun names => ?_) e source name) below
        rw [loadWith, hloader]
        exact loadFromSources_shadows sources (fun source name => ih (by omega) source name) names names
      · rw [Nat.sub_eq_zero_of_le (not_lt.mp below), compileWithin]
        exact shadows_refused _ (not_lt.mp below)

theorem loadGuarded_run {fuel : Nat} {s : Nesting} (enough : e.maxIncludeDepth - s.counter < fuel)
    (hrunning : s.running ≤ s.counter) (names : List String) :
    ∃ deepest ≤ max s.running e.maxIncludeDepth,
      let compile := e.compileWithin files (e.maxIncludeDepth - s.counter)
      let plain := e.loadWith files compile names s.memory
      e.loadGuarded sources fuel names s = some (plain.1, { s with memory := plain.2, deepest }) := by
  have compiles := compileGuarded_shadows hloader files enough
  obtain ⟨deepest, -, high, hrun⟩ :=
    loadFromSources_shadows sources compiles names names { s with deepest := s.running } rfl hrunning
  refine ⟨deepest, high, ?_⟩
  dsimp only
  rw [loadWith, hloader]
  exact hrun

end

/-- The engine with another limit. -/
def limited (e : Engine) (limit : Nat) : Engine := { e with maxIncludeDepth := limit }

/-- The states between the loads on an engine whose loader has these sources. Nothing is kept at first,
and the limit may differ from load to load. No load uses more fuel than its limit. -/
inductive Reached (e : Engine) (sources : NameMap String) : Nesting → Prop
  | start (nextId counter : Nat) : Reached e sources ⟨⟨nextId, []⟩, counter, counter, counter⟩
  | load {s s' : Nesting} (h : Reached e sources s) {limit fuel : Nat} (enough : limit < fuel)
      {names : List String} {result : Except Error Program}
      (run : (e.limited limit).loadGuarded sources fuel names s = some (result, s')) :
      Reached e sources s'

section

variable (hloader : e.loader = .sources sources) (files : FileSystem) {s : Nesting}
  (h : e.Reached sources s)
include hloader h

theorem Reached.invariant : s.running ≤ s.counter ∧ e.Grounded sources s.memory := by
  induction h with
  | start nextId counter => exact ⟨le_rfl, nofun⟩
  | @load s s' _ limit fuel enough names result run ih =>
      obtain ⟨hrunning, grounded⟩ := ih
      have left : limit - s.counter < fuel := by omega
      obtain ⟨deepest, -, hrun⟩ :=
        loadGuarded_run (e := e.limited limit) hloader .empty left hrunning names
      rw [run] at hrun
      cases hrun
      exact ⟨hrunning, (loadWith_grounded (e := e.limited limit) hloader .empty _ names grounded).1⟩

/-- Whatever has been loaded before, a load ends, with no more templates compiled inside one another
than the limit says, and the counter is back where it was. It does not succeed for a template that leads
to a cycle of templates, and none of those is ever kept. -/
theorem loadGuarded_ends {limit fuel : Nat} (enough : limit < fuel) (names : List String) :
    ∃ result s', (e.limited limit).loadGuarded sources fuel names s = some (result, s') ∧
      (e.limited limit).loadWith files ((e.limited limit).compileWithin files (limit - s.counter)) names
        s.memory = (result, s'.memory) ∧
      s'.deepest ≤ max s.running limit ∧ s'.counter = s.counter ∧
      ∀ name, e.Circular sources name → s'.memory.cache.find? name = none ∧
        (firstSource sources names = some name → ∃ error, result = .error error) := by
  obtain ⟨hrunning, grounded⟩ := h.invariant hloader
  have left : limit - s.counter < fuel := by omega
  obtain ⟨deepest, bound, hrun⟩ :=
    loadGuarded_run (e := e.limited limit) hloader files left hrunning names
  obtain ⟨kept, acyclic⟩ := loadWith_grounded (e := e.limited limit) hloader files
    (limit - s.counter) names grounded
  refine ⟨_, _, hrun, rfl, bound, rfl, fun name circular => ⟨?_, fun first => ?_⟩⟩
  · rw [Option.eq_none_iff_forall_ne_some]
    intro entry hfound
    exact (kept name entry hfound).2.not_circular circular
  · match hresult : ((e.limited limit).loadWith files
        ((e.limited limit).compileWithin files (limit - s.counter)) names s.memory).1 with
    | .error error => exact ⟨error, rfl⟩
    | .ok p =>
        obtain ⟨other, same, hacyclic⟩ := acyclic p hresult
        rw [first] at same
        cases same
        exact absurd circular hacyclic.not_circular

end

end Engine

/-! A page includes one of two templates that extend each other. -/

namespace Cyclic

def sources : NameMap String := NameMap.ofEntries
  [("a", "\x7b% extends 'b' %\x7d"), ("b", "\x7b% extends 'a' %\x7d"),
    ("page", "\x7b% include ['none', 'b'] %\x7d")]

def engine : Engine := { Engine.ofDelimiters .standard with loader := .sources sources }

/-- A source that is a single tag draws what that tag names. -/
theorem draws_of_tag {name source : String} {t : Token} {names : List String} {other : String}
    (found : sources.find? name = some source) (tokens : engine.delimiters.tokens source.toList = [t])
    (reading : t.reading engine.filters = .ok (.splice names))
    (first : Engine.firstSource sources names = some other) : engine.Draws sources name other :=
  ⟨source, t, names, found, tokens ▸ List.mem_singleton_self t, reading, first⟩

theorem draws_a : engine.Draws sources "a" "b" :=
  have tokens : engine.delimiters.tokens "\x7b% extends 'b' %\x7d".toList =
      [⟨.statement, "extends 'b'".toList, ⟨0, 17⟩⟩] := by cbv
  draws_of_tag rfl tokens (by cbv) rfl

theorem draws_b : engine.Draws sources "b" "a" :=
  have tokens : engine.delimiters.tokens "\x7b% extends 'a' %\x7d".toList =
      [⟨.statement, "extends 'a'".toList, ⟨0, 17⟩⟩] := by cbv
  draws_of_tag rfl tokens (by cbv) rfl

theorem draws_page : engine.Draws sources "page" "b" :=
  have tokens : engine.delimiters.tokens "\x7b% include ['none', 'b'] %\x7d".toList =
      [⟨.statement, "include ['none', 'b']".toList, ⟨0, 27⟩⟩] := by cbv
  draws_of_tag rfl tokens (by cbv) rfl

theorem circular_page : engine.Circular sources "page" :=
  ⟨"b", .single draws_page, .head draws_b (.single draws_a)⟩

/-- As it is before anything is loaded. -/
def start : Nesting := ⟨.initial, 0, 0, 0⟩

end Cyclic

/-- The page cannot be loaded, and the guard sees to it that this takes no more than the limit. -/
theorem Engine.loadGuarded_ends_page :
    Cyclic.engine.loader = .sources Cyclic.sources ∧
      Cyclic.engine.Reached Cyclic.sources Cyclic.start ∧ 8 < 9 ∧
      Cyclic.engine.Circular Cyclic.sources "page" ∧
      ∃ error s', (Cyclic.engine.limited 8).loadGuarded Cyclic.sources 9 ["missing", "page"]
          Cyclic.start = some (.error error, s') ∧
        s'.deepest ≤ 8 ∧ s'.counter = 0 ∧ s'.memory.cache.find? "page" = none := by
  have reached : Cyclic.engine.Reached Cyclic.sources Cyclic.start := .start 0 0
  obtain ⟨result, s', run, -, deepest, counter, circular⟩ :=
    loadGuarded_ends rfl .empty reached (show 8 < 9 by decide) ["missing", "page"]
  obtain ⟨kept, fails⟩ := circular "page" Cyclic.circular_page
  obtain ⟨error, rfl⟩ := fails rfl
  exact ⟨rfl, reached, by decide, Cyclic.circular_page, error, s', run, deepest, counter, kept⟩

end TextTemplate
