import TextTemplate.Proofs.Engine.Catalogue
import TextTemplate.Proofs.Engine.Keeping
import TextTemplate.Proofs.Template.Bracketing

/-!
# Loading with more kept

A loader that finds its sources in a map keeps what it compiles, so from one start on it keeps more or
less, by what was loaded since. The names come to the same whatever is kept, unless the limit of compiling
is reached (`Warmed.keepsSettled`). With more kept it is never reached where it is not reached with less
(`Warmed.not_limited`): a template is kept together with all that its source names, so a load that still
has to compile them keeps no more in the end.
-/

namespace TextTemplate

/-- A program is kept under the name. -/
def Memory.Has (m : Memory) (name : String) : Prop := (m.cache.find? name).isSome = true

/-- All that is kept in the other memory is kept in this one as well. -/
def Memory.Covers (w c : Memory) : Prop := ∀ name, c.Has name → w.Has name

theorem Memory.Covers.refl (m : Memory) : m.Covers m := fun _ => id

theorem Memory.Covers.trans {m n k : Memory} (h : n.Covers m) (h' : k.Covers n) : k.Covers m :=
  fun name has => h' name (h name has)

namespace Engine

/-- The memories that an engine comes to from the one at the start, by loads, by compiling sources and by
rendering, each with success or not. -/
inductive Warmed (e : Engine) (m₀ : Memory) : Memory → Prop
  | start : Warmed e m₀ m₀
  | compile {m} (h : Warmed e m₀ m) (files : FileSystem) (depth : Nat) (source : String)
      (name : Option String) : Warmed e m₀ (e.compileWithin files depth source name m).2
  | load {m} (h : Warmed e m₀ m) (files : FileSystem) (depth : Nat) (names : List String) :
      Warmed e m₀ (e.loadWith files (e.compileWithin files depth) names m).2
  | draw {m} (h : Warmed e m₀ m) : Warmed e m₀ m.drawn
  | render {m} (h : Warmed e m₀ m) (p : Program) (world : World) (depth : Nat) (data : Value) :
      Warmed e m₀ (p.renderWithin e world depth m data).2

/-- The first of the names that has a source is kept. -/
def FirstKept (sources : NameMap String) (m : Memory) (names : List String) : Prop :=
  ∃ name, names.find? sources.contains = some name ∧ m.Has name

/-- All templates that the tags of a source name are kept. -/
def NamesKept (e : Engine) (sources : NameMap String) (m : Memory) (tokens : List Token) : Prop :=
  ∀ t ∈ tokens, ∀ names, t.reading e.filters = .ok (.splice names) → FirstKept sources m names

/-- What has been kept since the start is kept together with the templates that its source names. -/
def Rooted (e : Engine) (sources : NameMap String) (m₀ m : Memory) : Prop :=
  ∀ name source, m.Has name → ¬ m₀.Has name → sources.find? name = some source →
    e.NamesKept sources m (e.delimiters.tokens source.toList)

variable {e : Engine} {sources : NameMap String} {m₀ m n : Memory}

theorem Extends.covers {files : FileSystem} (h : e.Extends files m n) : n.Covers m := by
  intro name has
  obtain ⟨entry, found⟩ := Option.isSome_iff_exists.mp has
  exact Option.isSome_iff_exists.mpr ⟨entry, h.old found⟩

theorem FirstKept.mono (grown : n.Covers m) {names : List String}
    (h : FirstKept sources m names) : FirstKept sources n names := by
  obtain ⟨name, first, has⟩ := h
  exact ⟨name, first, grown name has⟩

theorem NamesKept.mono (grown : n.Covers m) {ts : List Token}
    (h : e.NamesKept sources m ts) : e.NamesKept sources n ts :=
  fun t ht names reading => (h t ht names reading).mono grown

/-- What is given is kept under the name, and nothing else is added. -/
theorem keepFirst_has (name : String) (p : Program) (m : Memory) :
    ∃ q n, keepFirst name p m = (.ok q, n) ∧ n.Has name ∧ n.Covers m ∧
      ∀ other, n.Has other → m.Has other ∨ other = name := by
  rw [keepFirst_run]
  cases found : m.cache.find? name with
  | some entry =>
      have has : m.Has name := Option.isSome_iff_exists.mpr ⟨entry, found⟩
      exact ⟨_, _, rfl, has, fun _ => id, fun _ => .inl⟩
  | none =>
      refine ⟨_, _, rfl, ?_, fun other old => ?_, fun other new => ?_⟩
      · rw [Memory.Has, NameMap.find?_insert_self]
        rfl
      · rw [Memory.Has, NameMap.find?_insert]
        split
        · rfl
        · exact old
      · rw [Memory.Has, NameMap.find?_insert] at new
        split at new
        · next same => exact .inr same.symm
        · exact .inl new

variable (hloader : e.loader = .sources sources) {files : FileSystem} {depth : Nat}

include hloader

theorem serves_sources (files : FileSystem) : e.Serves .empty files := by
  have plain : e.loader.Plain := hloader ▸ .sources sources
  exact serves_plain plain files

theorem caching_sources : e.loader.Caching := hloader ▸ .sources sources

theorem source?_sources (files : FileSystem) (name : String) :
    e.source? files name = (sources.find? name).map .ok := by
  simp only [source?, hloader]

theorem offers_sources (files : FileSystem) (m : Memory) : e.offers files m = sources.contains := by
  funext name
  simp only [offers, hloader]

/-- A load looks at nothing but the first of the names that has a source. -/
theorem loadWith_first (session : Session e m) (files : FileSystem) (compile : Compile)
    (names : List String) :
    e.loadWith files compile names m =
      match names.find? sources.contains with
      | some name => e.loadFirst files compile names [name] m
      | none => (.error (notFound names), m) := by
  have caching := caching_sources hloader
  rw [serves_caching caching, ← offers_sources hloader files m]
  exact loadFirst_offered caching (session.catalogued caching) compile names names

/-! ## What is kept together -/

theorem firstKept_of_load (session : Session e m) {names : List String} {p : Program}
    (run : e.loadWith files (e.compileWithin files depth) names m = (.ok p, n)) :
    FirstKept sources n names := by
  obtain ⟨name, entry, first, found, -⟩ := session.loaded_first (caching_sources hloader) run
  rw [offers_sources hloader] at first
  exact ⟨name, first, Option.isSome_iff_exists.mpr ⟨entry, found⟩⟩

/-- Reading tokens adds to what is kept, and ends with all templates kept that they name. -/
theorem performs_namesKept {source : String} {ts : List Token} {actions : List Action}
    (performs : (TagReader.mk e.filters source
      (e.loadWith files (e.compileWithin files depth))).Performs m ts actions n) (session : Session e m) :
    n.Covers m ∧ e.NamesKept sources n ts := by
  induction performs with
  | nil m => exact ⟨.refl m, nofun⟩
  | @cons t ts action actions m m₁ m₂ first rest ih =>
      have head : Session e m₁ ∧ m₁.Covers m ∧
          ∀ names, t.reading e.filters = .ok (.splice names) → FirstKept sources m₁ names := by
        rcases TagReader.action_ok first with ⟨_, reading, rfl, -⟩ | ⟨_, reading, rfl, -⟩ |
          ⟨_, reading, rfl, -⟩ | ⟨names, p, reading, load, -⟩
        · exact ⟨session, .refl _, fun _ other => nomatch reading.symm.trans other⟩
        · exact ⟨session.draw, .refl m, fun _ other => nomatch reading.symm.trans other⟩
        · exact ⟨session.draw, .refl m, fun _ other => nomatch reading.symm.trans other⟩
        · have loaded := session.load files depth names
          have extended := loadWith_extends (caching_sources hloader) files depth names m
          have run : e.loadWith files (e.compileWithin files depth) names m = (.ok p, m₁) := load
          rw [run] at loaded extended
          refine ⟨loaded, extended.covers, fun names' other => ?_⟩
          cases reading.symm.trans other
          exact firstKept_of_load hloader session run
      obtain ⟨session₁, grown, named⟩ := head
      obtain ⟨grown', kept⟩ := ih session₁
      refine ⟨grown.trans grown', List.forall_mem_cons.mpr ⟨?_, kept⟩⟩
      exact fun names reading => (named names reading).mono grown'

/-- What a source names is kept when it has been compiled. -/
theorem compileWithin_namesKept (session : Session e m) {source : String} {name : Option String}
    {p : Program} (run : e.compileWithin files depth source name m = (.ok p, n)) :
    e.NamesKept sources n (e.delimiters.tokens source.toList) := by
  cases depth with
  | zero => cases run
  | succ depth =>
      obtain ⟨k, nodes, rfl, -, -⟩ := compileSource_ok run
      obtain ⟨actions, performs, -⟩ := TagReader.performs_of_nodes nodes
      exact (performs_namesKept hloader performs session).2

theorem loadWith_rooted (session : Session e m) (h : e.Rooted sources m₀ m)
    (compiles : ∀ source name, e.Rooted sources m₀ (e.compileWithin files depth source name m).2)
    (names : List String) :
    e.Rooted sources m₀ (e.loadWith files (e.compileWithin files depth) names m).2 := by
  have caching := caching_sources hloader
  rw [serves_caching caching]
  have load := e.loadFirst_cases files (e.compileWithin files depth) names names m
  generalize e.loadFirst files (e.compileWithin files depth) names names m = r at load
  cases load with
  | kept _ => exact h
  | failed _ => exact h
  | @broken name source error n run =>
      have after := compiles source (some name)
      rwa [run] at after
  | @compiled name source p n absent found run =>
      have after := compiles source (some name)
      have names := compileWithin_namesKept hloader session run
      rw [run] at after
      obtain ⟨q, k, hkeep, -, grown, new⟩ := keepFirst_has name p n
      rw [keep_caching caching, hkeep]
      intro other source' has unkept hsource
      rcases new other has with old | rfl
      · exact (after other source' old unkept hsource).mono grown
      · rw [source?_sources hloader, hsource] at found
        cases found
        exact names.mono grown

theorem compileWithin_rooted (depth : Nat) (source : String) (name : Option String)
    (session : Session e m) (h : e.Rooted sources m₀ m) :
    e.Rooted sources m₀ (e.compileWithin files depth source name m).2 := by
  induction depth generalizing source name m with
  | zero => exact h
  | succ depth ih =>
      refine (compileSource_keeps (I := fun n => Session e n ∧ e.Rooted sources m₀ n)
        (fun hn => ⟨hn.1.draw, hn.2⟩) (fun names hn => ⟨hn.1.load files depth names, ?_⟩) source name
        ⟨session, h⟩).2
      exact loadWith_rooted hloader hn.1 hn.2 (fun source name => ih source name hn.1 hn.2) names

theorem load_rooted (session : Session e m) (h : e.Rooted sources m₀ m) (depth : Nat)
    (names : List String) :
    e.Rooted sources m₀ (e.loadWith files (e.compileWithin files depth) names m).2 :=
  loadWith_rooted hloader session h
    (fun source name => compileWithin_rooted hloader depth source name session h) names

/-! ## From one start on -/

variable (hstart : Session e m₀)

include hstart

omit hloader in
theorem Warmed.session (h : e.Warmed m₀ m) : Session e m := by
  induction h with
  | start => exact hstart
  | compile _ files depth source name ih => exact ih.compile files depth source name
  | load _ files depth names ih => exact ih.load files depth names
  | draw _ ih => exact ih.draw
  | render _ p world depth data ih => exact ih.render p world depth data

theorem Warmed.rooted (h : e.Warmed m₀ m) : e.Rooted sources m₀ m := by
  induction h with
  | start => exact fun name source has unkept => absurd has unkept
  | compile h files depth source name ih =>
      exact compileWithin_rooted hloader depth source name (h.session hstart) ih
  | load h files depth names ih => exact load_rooted hloader (h.session hstart) ih depth names
  | draw _ ih => exact ih
  | render h p world depth data ih =>
      exact (p.renderWithin_keeps (I := fun n => Session e n ∧ e.Rooted sources m₀ n)
        (fun names hn => ⟨hn.1.load world.files e.maxIncludeDepth names,
          load_rooted hloader hn.1 hn.2 e.maxIncludeDepth names⟩) ⟨h.session hstart, ih⟩ depth data).2

omit hstart in
theorem Warmed.covers (h : e.Warmed m₀ m) : m.Covers m₀ := by
  have caching := caching_sources hloader
  induction h with
  | start => exact .refl m₀
  | compile _ files depth source name ih =>
      exact ih.trans (compileWithin_extends caching files depth source name _).covers
  | load _ files depth names ih => exact ih.trans (loadWith_extends caching files depth names _).covers
  | draw _ ih => exact ih
  | render _ p world depth data ih => exact ih.trans (renderWithin_extends caching p world depth data).covers

section

variable {w : Memory} (rooted : e.Rooted sources m₀ w)

include rooted

section

-- Compiling keeps nothing that is not kept there, if all is kept there that the source names.
variable (compiles : ∀ {c source name p n}, e.Warmed m₀ c → w.Covers c →
  e.NamesKept sources w (e.delimiters.tokens source.toList) →
  e.compileWithin files depth source name c = (.ok p, n) → w.Covers n)

include compiles

/-- A load of what is kept elsewhere adds nothing to what is kept there. -/
theorem load_covered {c : Memory} (warmed : e.Warmed m₀ c) (covered : w.Covers c)
    {names : List String} (kept : FirstKept sources w names) {p : Program}
    (run : e.loadWith files (e.compileWithin files depth) names c = (.ok p, n)) :
    w.Covers n := by
  have caching := caching_sources hloader
  obtain ⟨name, first, has⟩ := kept
  rw [loadWith_first hloader (warmed.session hstart), first] at run
  rcases loadFirst_one caching run with ⟨_, -, -, rfl⟩ | ⟨source, q, k, absent, found, compiled, kept⟩
  · exact covered
  · have unkept : ¬ m₀.Has name := by
      intro there
      have here := warmed.covers hloader name there
      rw [Memory.Has, absent] at here
      cases here
    have hsource : sources.find? name = some source := by
      rw [source?_sources hloader] at found
      obtain ⟨_, hsource, same⟩ := Option.map_eq_some_iff.mp found
      rw [hsource, Except.ok.inj same]
    have inside := compiles warmed covered (rooted name source has unkept hsource) compiled
    obtain ⟨_, _, hkeep, -, -, new⟩ := keepFirst_has name q k
    rw [kept] at hkeep
    cases hkeep
    intro other hother
    rcases new other hother with old | rfl
    · exact inside other old
    · exact has

theorem performs_covered {source : String} {ts : List Token} {actions : List Action} {c : Memory}
    (performs : (TagReader.mk e.filters source
      (e.loadWith files (e.compileWithin files depth))).Performs c ts actions n)
    (warmed : e.Warmed m₀ c) (covered : w.Covers c)
    (named : e.NamesKept sources w ts) : w.Covers n := by
  induction performs with
  | nil m => exact covered
  | @cons t ts action actions m m₁ m₂ first rest ih =>
      obtain ⟨here, later⟩ := List.forall_mem_cons.mp named
      rcases TagReader.action_ok first with ⟨_, -, rfl, -⟩ | ⟨_, -, rfl, -⟩ | ⟨_, -, rfl, -⟩ |
        ⟨names, q, reading, load, -⟩
      · exact ih warmed covered later
      · exact ih warmed.draw covered later
      · exact ih warmed.draw covered later
      · have run : e.loadWith files (e.compileWithin files depth) names m = (.ok q, m₁) := load
        have loaded := warmed.load files depth names
        rw [run] at loaded
        exact ih loaded (load_covered hloader hstart rooted compiles warmed covered
          (here names reading) run) later

end

theorem compileWithin_covered (depth : Nat) {c : Memory} {source : String} {name : Option String}
    {p : Program} (warmed : e.Warmed m₀ c) (covered : w.Covers c)
    (named : e.NamesKept sources w (e.delimiters.tokens source.toList))
    (run : e.compileWithin files depth source name c = (.ok p, n)) :
    w.Covers n := by
  induction depth generalizing c source name p n with
  | zero => cases run
  | succ depth ih =>
      obtain ⟨k, nodes, rfl, -, -⟩ := compileSource_ok run
      obtain ⟨actions, performs, -⟩ := TagReader.performs_of_nodes nodes
      have inside : w.Covers k :=
        performs_covered hloader hstart rooted ih performs warmed covered named
      exact inside

end

end Engine

/-! ## Two runs side by side -/

/-- Two runs side by side: unless the first one goes too deep, both fail, the second one without going
too deep, or both come to results as asked for. -/
def Follows {α : Type} (good : α → α → Memory → Memory → Prop) :
    Except Error α × Memory → Except Error α × Memory → Prop
  | (.error error, _), (.error error', _) => error.cause.Limited ∨ ¬ error'.cause.Limited
  | (.error error, _), (.ok _, _) => error.cause.Limited
  | (.ok _, _), (.error _, _) => False
  | (.ok a, m), (.ok b, n) => good a b m n

namespace Follows

variable {α β : Type} {good : α → α → Memory → Memory → Prop} {c w : Memory}

theorem mono {good' : α → α → Memory → Memory → Prop} {x y : Except Error α × Memory}
    (h : Follows good x y)
    (imp : ∀ a b m n, x = (.ok a, m) → y = (.ok b, n) → good a b m n → good' a b m n) :
    Follows good' x y := by
  rcases x with ⟨error | a, m⟩ <;> rcases y with ⟨error' | b, n⟩
  · exact h
  · exact h
  · exact h
  · exact imp a b m n rfl rfl h

theorem bind {good' : β → β → Memory → Memory → Prop} {act act' : MemoryM α} {next next' : α → MemoryM β}
    (first : Follows good (act c) (act' w))
    (rest : ∀ a b m n, good a b m n → Follows good' (next a m) (next' b n)) :
    Follows good' ((act >>= next) c) ((act' >>= next') w) := by
  rw [MemoryM.bind_run, MemoryM.bind_run]
  revert first
  rcases act c with ⟨error | a, m⟩ <;> rcases act' w with ⟨error' | b, n⟩
  · exact id
  · intro limited
    dsimp only
    rcases next' b n with ⟨error' | b', n'⟩
    · exact .inl limited
    · exact limited
  · exact False.elim
  · exact rest a b m n

section

variable {R : Memory → Memory → Prop} (draws : ∀ {c w}, R c w → R c.drawn w.drawn)
  {load load' : List String → MemoryM Program}
  (loads : ∀ {c w} names, R c w → Follows (fun _ _ => R) (load names c) (load' names w))
  {filters : NameMap Filter} {source : String}

include draws loads

theorem action (t : Token) (h : R c w) :
    Follows (fun _ _ => R) (TagReader.action ⟨filters, source, load⟩ t c)
      (TagReader.action ⟨filters, source, load'⟩ t w) := by
  rw [TagReader.action_run, TagReader.action_run]
  dsimp only
  cases t.reading filters with
  | error cause => exact em _
  | ok reading =>
      cases reading with
      | action a => exact h
      | cycle items => exact draws h
      | block title => exact draws h
      | splice names =>
          have loaded := loads names h
          revert loaded
          dsimp only
          rcases load names c with ⟨error | p, m⟩ <;> rcases load' names w with ⟨error' | p', n⟩ <;>
            exact id

/-- The outlines expect the same end tags all the time, so both fail at one token or none. -/
theorem outline (ts : List Token) {o o' : Outline} (same : o.missing = o'.missing) (h : R c w) :
    Follows (fun o o' m n => o.missing = o'.missing ∧ R m n)
      (TagReader.outline ⟨filters, source, load⟩ o ts c)
      (TagReader.outline ⟨filters, source, load'⟩ o' ts w) := by
  induction ts generalizing o o' c w with
  | nil => exact ⟨same, h⟩
  | cons t ts ih =>
      rw [TagReader.outline, TagReader.outline]
      have first := (@action c w R draws load load' loads filters source t h).mono
        fun a b m n run run' related => And.intro run (And.intro run' related)
      refine first.bind ?_
      rintro a b m n ⟨run, run', related⟩
      have step := o.missing_act (TagReader.agrees_of_action run).1
      have step' := o'.missing_act (TagReader.agrees_of_action run').1
      rw [← same, ← step] at step'
      revert step'
      cases o.act t.span a with
      | error cause =>
          cases o'.act t.span b with
          | error cause' =>
              rintro ⟨⟩
              exact em _
          | ok o₁' =>
              intro impossible
              cases impossible
      | ok o₁ =>
          cases o'.act t.span b with
          | error cause' =>
              intro impossible
              cases impossible
          | ok o₁' => exact fun step' => ih (Except.ok.inj step').symm related

theorem nodes (ts : List Token) (h : R c w) :
    Follows (fun _ _ => R) (TagReader.nodes ⟨filters, source, load⟩ ts c)
      (TagReader.nodes ⟨filters, source, load'⟩ ts w) := by
  rw [TagReader.nodes_eq, TagReader.nodes_eq]
  refine (outline (R := R) draws loads ts rfl h).bind ?_
  rintro ⟨frames, nodes⟩ ⟨frames', nodes'⟩ m n ⟨same, related⟩
  cases frames with
  | nil =>
      cases frames' with
      | nil => exact related
      | cons frame' frames' => cases same
  | cons frame frames =>
      cases frames' with
      | nil => cases same
      | cons frame' frames' => exact .inr nofun

theorem compileSource (e : Engine) (source : String) (name : Option String) (h : R c w) :
    Follows (fun _ _ => R) (e.compileSource load source name c)
      (e.compileSource load' source name w) := by
  have read := @nodes c w R draws load load' loads e.filters source (e.delimiters.tokens source.toList) h
  rw [Engine.compileSource_run, Engine.compileSource_run]
  revert read
  rcases TagReader.nodes ⟨e.filters, source, load⟩ _ c with ⟨error | root, m⟩ <;>
    rcases TagReader.nodes ⟨e.filters, source, load'⟩ _ w with ⟨error' | root', n⟩
  · exact id
  · exact id
  · exact id
  · exact draws

end

end Follows

namespace Engine

/-- Less and more kept from one start on. -/
structure Beside (e : Engine) (m₀ c w : Memory) : Prop where
  less : e.Warmed m₀ c
  more : e.Warmed m₀ w
  covered : w.Covers c

variable {e : Engine} {sources : NameMap String} {m₀ m n : Memory}
  (hloader : e.loader = .sources sources) (hstart : Session e m₀) {base : String → Nat}
  (hapart : e.Apart .empty m₀ base fun _ => False)

include hloader hstart hapart

/-- Whatever was loaded before, with success or not, what is kept is what the names come to. -/
theorem Warmed.keepsSettled (h : e.Warmed m₀ m) : e.KeepsSettled .empty m₀ base m := by
  have serves := serves_sources hloader
  induction h with
  | start => exact ⟨_, keeps_start hstart.sound hapart fun _ impossible => impossible.elim⟩
  | compile _ files depth source name ih =>
      exact compileWithin_keepsSettled hapart (serves files) depth source name ih
  | load _ files depth names ih => exact loadWith_keepsSettled hapart (serves files) depth names ih
  | draw _ ih => exact ih.drawn
  | render _ p world depth data ih =>
      exact p.renderWithin_keeps (I := e.KeepsSettled .empty m₀ base)
        (fun names hn => loadWith_keepsSettled hapart (serves world.files) e.maxIncludeDepth names hn) ih
        depth data

variable {files files' : FileSystem}

theorem load_covers {depth : Nat}
    (compiles : ∀ {c w} source name, e.Beside m₀ c w →
      Follows (fun _ _ => e.Beside m₀) (e.compileWithin files depth source name c)
        (e.compileWithin files' depth source name w))
    {c w : Memory} (h : e.Beside m₀ c w) (names : List String) :
    Follows (fun _ _ m n => n.Covers m)
      (e.loadWith files (e.compileWithin files depth) names c)
      (e.loadWith files' (e.compileWithin files' depth) names w) := by
  have caching := caching_sources hloader
  have less := loadWith_first hloader (h.less.session hstart) files (e.compileWithin files depth) names
  have more := loadWith_first hloader (h.more.session hstart) files' (e.compileWithin files' depth) names
  cases first : names.find? sources.contains with
  | none =>
      rw [less, more, first]
      exact .inr nofun
  | some name =>
      rw [first] at less more
      dsimp only at less more
      by_cases has : w.Has name
      · -- What is kept there is given at once. It comes from a compilation here.
        obtain ⟨entry, found⟩ := Option.isSome_iff_exists.mp has
        rw [loadFirst_cached caching found] at more
        rcases run : e.loadWith files (e.compileWithin files depth) names c with ⟨error | p, k⟩
        · rw [more]
          by_contra within
          have keeps := h.less.keepsSettled hloader hstart hapart
          have keeps' := h.more.keepsSettled hloader hstart hapart
          have serves := serves_sources hloader
          rcases keeps.loads_agree hapart (serves files) (serves files') keeps' depth names
            (by rw [run]; exact limited_error.not.mpr within) (by rw [more]; exact not_limited_ok _) with
            ⟨_, _, _, -, run'⟩ | ⟨_, _, _, _, _, run', -⟩
          · rw [more] at run'
            cases run'
          · rw [run] at run'
            cases run'
        · rw [more]
          have rooted := h.more.rooted hloader hstart
          exact load_covered hloader hstart rooted (compileWithin_covered hloader hstart rooted depth)
            h.less h.covered ⟨name, first, has⟩ run
      · -- Both compile the source and keep the program under the name.
        have absent : ∀ {m : Memory}, ¬ m.Has name → m.cache.find? name = none := fun hasnt =>
          Option.not_isSome_iff_eq_none.mp hasnt
        have hasnt : ¬ c.Has name := fun there => has (h.covered name there)
        rw [loadFirst_cons, kept_caching caching, absent hasnt, source?_sources hloader,
          keep_caching caching] at less
        rw [loadFirst_cons, kept_caching caching, absent has, source?_sources hloader,
          keep_caching caching] at more
        rw [less, more]
        cases sources.find? name with
        | none => exact .inr nofun
        | some source =>
            refine (compiles source (some name) h).bind fun p q m n beside => ?_
            obtain ⟨_, _, run, -, -, new⟩ := keepFirst_has name p m
            obtain ⟨_, _, run', has', grown, -⟩ := keepFirst_has name q n
            rw [run, run']
            intro other there
            rcases new other there with old | rfl
            · exact grown other (beside.covered other old)
            · exact has'

theorem load_beside {depth : Nat}
    (compiles : ∀ {c w} source name, e.Beside m₀ c w →
      Follows (fun _ _ => e.Beside m₀) (e.compileWithin files depth source name c)
        (e.compileWithin files' depth source name w))
    {c w : Memory} (h : e.Beside m₀ c w) (names : List String) :
    Follows (fun _ _ => e.Beside m₀) (e.loadWith files (e.compileWithin files depth) names c)
      (e.loadWith files' (e.compileWithin files' depth) names w) := by
  refine (load_covers hloader hstart hapart compiles h names).mono fun a b m n run run' covered => ?_
  have less := h.less.load files depth names
  have more := h.more.load files' depth names
  rw [run] at less
  rw [run'] at more
  exact ⟨less, more, covered⟩

theorem compileWithin_beside (depth : Nat) {c w : Memory} (source : String) (name : Option String)
    (h : e.Beside m₀ c w) :
    Follows (fun _ _ => e.Beside m₀) (e.compileWithin files depth source name c)
      (e.compileWithin files' depth source name w) := by
  induction depth generalizing source name c w with
  | zero => exact .inl ⟨_, rfl⟩
  | succ depth ih =>
      refine Follows.compileSource (R := e.Beside m₀) (fun h => ⟨h.less.draw, h.more.draw, h.covered⟩)
        (fun names h => ?_) e source name h
      exact load_beside hloader hstart hapart ih h names

omit hapart

/-- A load that does not reach the limit of compiling at the start does not reach it later on. -/
theorem Warmed.not_limited (h : e.Warmed m₀ m) {names : List String}
    (within : ¬ Limited (e.load files names m₀).1) : ¬ Limited (e.load files' names m).1 := by
  obtain ⟨base, hapart⟩ := e.exists_apart .empty m₀ 0
  have hapart : e.Apart .empty m₀ base fun _ => False := hapart.mono fun _ => False.elim
  have beside : e.Beside m₀ m₀ m := ⟨.start, h, h.covers hloader⟩
  have follows : Follows (fun _ _ => e.Beside m₀) (e.load files names m₀) (e.load files' names m) :=
    load_beside hloader hstart hapart (compileWithin_beside hloader hstart hapart e.maxIncludeDepth)
      beside names
  revert within follows
  rcases e.load files names m₀ with ⟨error | p, k⟩ <;> rcases e.load files' names m with ⟨error' | q, n⟩
  · intro within follows
    exact limited_error.not.mpr (follows.resolve_left (limited_error.not.mp within))
  · exact fun _ _ => not_limited_ok q
  · exact fun _ follows => follows.elim
  · exact fun _ _ => not_limited_ok q

end Engine

end TextTemplate
