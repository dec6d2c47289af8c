import TextTemplate.Proofs.Engine.Warming
import TextTemplate.Proofs.Render.Reloaded

/-!
# What was loaded before

A loader that finds its sources in a map keeps what it compiles. So what a load comes to might depend on
what was loaded before. It does in one respect only: a template that is kept is not compiled again, and
then the templates in place in it do not count for the limit of compiling (`Chain.load_warm`). Apart from
this limit a load comes to the same after all histories (`Engine.load_after_histories`).
-/

namespace TextTemplate

/-- Two loads fail with one error, or give programs with one name and one source that render alike. -/
def LoadedSame (e : Engine) :
    Except Error Program × Memory → Except Error Program × Memory → Prop
  | (.error error, _), (.error error', _) => error = error'
  | (.ok p, m), (.ok p', m') =>
    p.name = p'.name ∧ p.source = p'.source ∧ ∀ files, RendersAlike e files p p' m m'
  | _, _ => False

namespace Engine

variable {e : Engine} {sources : NameMap String} {m₀ m m' : Memory}
  (hloader : e.loader = .sources sources) (hstart : Session e m₀)

include hloader hstart

/-- The name and the source of a program that has been loaded are those of the first of the names with a
source. -/
theorem Warmed.loaded_source (h : e.Warmed m₀ m) {files : FileSystem} {names : List String} {p : Program}
    {n : Memory} (run : e.load files names m = (.ok p, n)) :
    p.name = names.find? sources.contains ∧
      (names.find? sources.contains).bind sources.find? = some p.source := by
  have caching := caching_sources hloader
  obtain ⟨name, entry, first, found, rfl⟩ := (h.session hstart).loaded_first caching run
  have after := loadWith_extends caching files e.maxIncludeDepth names m
  rw [← Engine.compile, ← Engine.load, run] at after
  have catalogued := after.catalogued ((h.session hstart).catalogued caching)
  rw [offers_sources hloader] at first
  rw [first]
  exact ⟨catalogued.named found, catalogued.sourced hloader found⟩

theorem Warmed.loadedSame (h : e.Warmed m₀ m) (h' : e.Warmed m₀ m') (files files' : FileSystem)
    (names : List String) (within : ¬ Limited (e.load files names m).1)
    (within' : ¬ Limited (e.load files' names m').1) :
    LoadedSame e (e.load files names m) (e.load files' names m') := by
  obtain ⟨base, hapart⟩ := e.exists_apart .empty m₀ 0
  have hapart : e.Apart .empty m₀ base fun _ => False := hapart.mono fun _ => False.elim
  have keeps := h.keepsSettled hloader hstart hapart
  have keeps' := h'.keepsSettled hloader hstart hapart
  have serves := serves_sources hloader
  rcases keeps.loads_agree hapart (serves files) (serves files') keeps' e.maxIncludeDepth names within
    within' with ⟨error, n, n', run, run'⟩ | ⟨q, p, p', n, n', run, run', settled, settled'⟩
  · rw [Engine.load, Engine.load, Engine.compile, Engine.compile, run, run']
    rfl
  · obtain ⟨hname, hsource⟩ := h.loaded_source hloader hstart run
    obtain ⟨hname', hsource'⟩ := h'.loaded_source hloader hstart run'
    have blocks := ((h.session hstart).loaded_formed run).blocks
    have blocks' := ((h'.session hstart).loaded_formed run').blocks
    have same : p.name = p'.name := hname.trans hname'.symm
    rw [hsource] at hsource'
    rw [Engine.load, Engine.load, Engine.compile, Engine.compile, run, run']
    refine ⟨same, Option.some.inj hsource', fun files => ?_⟩
    exact settled.rendersAlike hapart (serves files) settled' blocks blocks' same

/-- After any two histories that have one start, a load comes to the same, if neither load reaches the
limit of compiling: the same error, or programs with one name and one source that render all data alike.
Neither reaches the limit if the load would not reach it at the start, so what was loaded before never
takes away what a load gives then. -/
theorem load_after_histories (h : e.Warmed m₀ m) (h' : e.Warmed m₀ m') (files files' : FileSystem)
    (names : List String) :
    (¬ Limited (e.load files names m).1 → ¬ Limited (e.load files' names m').1 →
      LoadedSame e (e.load files names m) (e.load files' names m')) ∧
    (¬ Limited (e.load files names m₀).1 →
      ¬ Limited (e.load files names m).1 ∧ ¬ Limited (e.load files' names m').1) := by
  refine ⟨h.loadedSame hloader hstart h' files files' names, fun within => ⟨?_, ?_⟩⟩
  · exact h.not_limited hloader hstart within
  · exact h'.not_limited hloader hstart within

end Engine

/-! ## A chain of templates

The first includes the second, and the second includes the third. -/

namespace Chain

def firstText : String := "\x7b% include 'second' %\x7d"

def secondText : String := "\x7b% include 'third' %\x7d"

def sources : NameMap String := [("first", firstText), ("second", secondText), ("third", "end")]

/-- One template at a time may be compiled. -/
def engine : Engine :=
  { Engine.ofDelimiters .standard with loader := .sources sources, maxIncludeDepth := 1 }

def third : Program := ⟨0, some "third", "end", [.text "end"], []⟩

def second : Program := ⟨1, some "second", secondText, [.splice third.root], []⟩

def first : Program := ⟨2, some "first", firstText, [.splice second.root], []⟩

/-- The third has been loaded. -/
def thirdMemory : Memory := ⟨1, [("third", ⟨none, third⟩)]⟩

/-- The third and then the second have been loaded. -/
def secondMemory : Memory := ⟨2, thirdMemory.cache.insert "second" ⟨none, second⟩⟩

def firstMemory : Memory := ⟨3, secondMemory.cache.insert "first" ⟨none, first⟩⟩

theorem tokens_third : engine.delimiters.tokens "end".toList = [⟨.text, "end".toList, ⟨0, 3⟩⟩] := by
  cbv

set_option maxRecDepth 10000 in
theorem tokens_second : engine.delimiters.tokens secondText.toList =
    [⟨.statement, "include 'third'".toList, ⟨0, 21⟩⟩] := by
  cbv

set_option maxRecDepth 10000 in
theorem tokens_first : engine.delimiters.tokens firstText.toList =
    [⟨.statement, "include 'second'".toList, ⟨0, 22⟩⟩] := by
  cbv

section

variable (filters : NameMap Filter) (span : Span)

set_option maxRecDepth 10000 in
theorem reading_include_third :
    Token.reading filters ⟨.statement, "include 'third'".toList, span⟩ = .ok (.splice ["third"]) := by
  cbv

set_option maxRecDepth 10000 in
theorem reading_include_second :
    Token.reading filters ⟨.statement, "include 'second'".toList, span⟩ = .ok (.splice ["second"]) := by
  cbv

end

theorem load_third : engine.load .empty ["third"] ⟨0, []⟩ = (.ok third, thirdMemory) := by
  change (engine.compileWithin .empty 1 "end" (some "third") >>= Engine.keepFirst "third") ⟨0, []⟩ = _
  rw [MemoryM.bind_run, Engine.compileWithin, Engine.compileSource_run, tokens_third]
  rfl

/-- A template that only includes another is compiled as the other one loads. -/
theorem compile_including {text tag target : String} {span : Span}
    (tokens : engine.delimiters.tokens text.toList = [⟨.statement, tag.toList, span⟩])
    (reading : Token.reading engine.filters ⟨.statement, tag.toList, span⟩ = .ok (.splice [target]))
    (name : String) (m : Memory) :
    engine.compileWithin .empty 1 text (some name) m =
      match engine.loadWith .empty (engine.compileWithin .empty 0) [target] m with
      | (.ok p, n) =>
        (.ok ⟨n.nextId, some name, text, [.splice p.root], registryOf [.splice p.root]⟩, n.drawn)
      | (.error error, n) => (.error ((error.enrich text span).named (some name)), n) := by
  rw [Engine.compileWithin, Engine.compileSource_run, tokens]
  simp only [TagReader.nodes_run, TagReader.outline_cons, TagReader.action_run, reading]
  rcases engine.loadWith .empty (engine.compileWithin .empty 0) [target] m with ⟨error | p, n⟩ <;> rfl

theorem load_second : engine.load .empty ["second"] thirdMemory = (.ok second, secondMemory) := by
  change (engine.compileWithin .empty 1 secondText (some "second") >>= Engine.keepFirst "second")
    thirdMemory = _
  rw [MemoryM.bind_run, compile_including tokens_second (reading_include_third _ _)]
  rfl

theorem load_first : engine.load .empty ["first"] secondMemory = (.ok first, firstMemory) := by
  change (engine.compileWithin .empty 1 firstText (some "first") >>= Engine.keepFirst "first")
    secondMemory = _
  rw [MemoryM.bind_run, compile_including tokens_first (reading_include_second _ _)]
  rfl

theorem load_first_cold : engine.load .empty ["first"] ⟨0, []⟩ =
    (.error ⟨.compileDepth 1, some ⟨firstText, ⟨0, 22⟩⟩, some "first"⟩, ⟨0, []⟩) := by
  change (engine.compileWithin .empty 1 firstText (some "first") >>= Engine.keepFirst "first")
    ⟨0, []⟩ = _
  rw [MemoryM.bind_run, compile_including tokens_first (reading_include_second _ _)]
  rfl

theorem engine_session : Session engine ⟨0, []⟩ := by
  have loading : Session { Engine.ofDelimiters .standard with loader := .sources sources } ⟨0, []⟩ :=
    .setLoader (.start .standard 0) rfl
  exact loading.setLimit 1

theorem warmed : engine.Warmed ⟨0, []⟩ secondMemory := by
  have loaded : engine.Warmed ⟨0, []⟩
      (engine.load .empty ["second"] (engine.load .empty ["third"] ⟨0, []⟩).2).2 :=
    .load (.load .start .empty 1 ["third"]) .empty 1 ["second"]
  rwa [load_third, load_second] at loaded

/-- The first renders the text of the third, if the third and the second were loaded before. With a new
loader it does not load. -/
theorem load_warm :
    Session engine ⟨0, []⟩ ∧ engine.Warmed ⟨0, []⟩ secondMemory ∧
      engine.load .empty ["first"] secondMemory = (.ok first, firstMemory) ∧
      (first.render engine emptyWorld firstMemory .none).1 = .text "end" ∧
      Limited (engine.load .empty ["first"] ⟨0, []⟩).1 := by
  refine ⟨engine_session, warmed, load_first, rfl, ?_⟩
  rw [load_first_cold]
  exact limited_error.mpr ⟨1, rfl⟩

end Chain

/-- The third is the same when it is loaded first and when it is kept. -/
theorem Engine.load_after_histories_third :
    Chain.engine.loader = .sources Chain.sources ∧ Session Chain.engine ⟨0, []⟩ ∧
    Chain.engine.Warmed ⟨0, []⟩ ⟨0, []⟩ ∧ Chain.engine.Warmed ⟨0, []⟩ Chain.secondMemory ∧
    ¬ Limited (Chain.engine.load .empty ["third"] ⟨0, []⟩).1 ∧
    ¬ Limited (Chain.engine.load .empty ["third"] Chain.secondMemory).1 ∧
    LoadedSame Chain.engine (Chain.engine.load .empty ["third"] ⟨0, []⟩)
      (Chain.engine.load .empty ["third"] Chain.secondMemory) := by
  have cold : ¬ Limited (Chain.engine.load .empty ["third"] ⟨0, []⟩).1 := by
    rw [Chain.load_third]
    exact not_limited_ok _
  obtain ⟨same, later⟩ := load_after_histories rfl Chain.engine_session .start Chain.warmed .empty .empty
    ["third"]
  obtain ⟨within, within'⟩ := later cold
  exact ⟨rfl, Chain.engine_session, .start, Chain.warmed, cold, within', same within within'⟩

end TextTemplate
