import TextTemplate.Proofs.Engine.Places
import TextTemplate.Proofs.Render.Preserved
import TextTemplate.Render.Template

/-!
# Where errors of renders point

What goes wrong in a render has no place, unless it went wrong in a template that was loaded while
rendering. `Render.Fails` is about the errors that a computation can end with; it holds of whole renders
if it holds of their loads.
-/

namespace TextTemplate

namespace Render

variable {χ α β : Type}

/-- Wherever the computation ends with an error, the error is of this kind. -/
def Fails (P : Error → Prop) (act : RenderM χ α) : Prop :=
  ∀ s e t, act s = .ok (.error e, t) → P e

namespace Fails

variable {P : Error → Prop}

theorem pure (a : α) : Fails P (Pure.pure a : RenderM χ α) := by
  rintro s e t h
  cases h

theorem fail {e : Error} (h : P e) : Fails P (Render.fail e : RenderM χ α) := by
  intro s e' t run
  rw [fail_run] at run
  split at run
  · cases run
  · cases run
    exact h

theorem bind {act : RenderM χ α} {next : α → RenderM χ β} (first : Fails P act)
    (rest : ∀ a, Fails P (next a)) : Fails P (act >>= next) := by
  intro s e t h
  rw [bind_run] at h
  obtain ⟨r, u, hact, h⟩ := andThen_ok.mp h
  cases r with
  | error e =>
      cases h
      exact first _ _ _ hact
  | ok a => exact rest a _ _ _ h

/-- An error that is caught is gone. -/
theorem tryCatch {act : RenderM χ α} {handle : Error → RenderM χ α}
    (rest : ∀ e, Fails P (handle e)) : Fails P (MonadExcept.tryCatch act handle) := by
  intro s e t h
  rw [tryCatch_run] at h
  obtain ⟨r, u, hact, h⟩ := andThen_ok.mp h
  cases r with
  | error e => exact rest e _ _ _ h
  | ok a => cases h

theorem within {enter leave : RenderState χ → RenderState χ} {act : RenderM χ α}
    (inside : Fails P act) : Fails P (Render.within enter leave act) := by
  intro s e t run
  obtain ⟨r, u, hact, h⟩ := andThen_ok.mp ((within_run ..).symm.trans run)
  cases h
  exact inside _ _ _ hact

theorem captured {act : RenderM χ Unit} (inside : Fails P act) : Fails P (Render.captured act) := by
  intro s e t run
  obtain ⟨r, u, hact, h⟩ := andThen_ok.mp ((captured_run ..).symm.trans run)
  cases r with
  | error e =>
      cases h
      exact inside _ _ _ hact
  | ok a => cases h

/-- What only reads or changes the state does not fail. -/
theorem of_ok {act : RenderM χ α} (h : ∀ s, ∃ a t, act s = .ok (.ok a, t)) : Fails P act := by
  intro s e t run
  obtain ⟨a, u, ok⟩ := h s
  rw [ok] at run
  cases run

section

variable (bare : ∀ cause, P ⟨cause, none, none⟩)

include bare

/-- What is put together from computations that fail in a certain way only does so too, if all errors
without a place and a name are of the kind. -/
theorem of_uniform {ι : Type} {act : Family (fun _ : ι => χ) α}
    (h : Uniform (fun _ act => ∀ i, Fails P (act i)) act) (i : ι) : Fails P (act i) := by
  induction h with
  | given h => exact h i
  | pure a => exact pure a
  | bind _ _ first rest => exact bind first rest
  | failWith cause => exact fail (bare cause)
  | tryCatch _ _ _ rest => exact tryCatch rest
  | scopes => exact of_ok fun s => ⟨_, _, scopes_run s⟩
  | write text => exact of_ok fun s => ⟨_, _, write_run text s⟩
  | newIdentity => exact of_ok fun s => ⟨_, _, newIdentity_run s⟩
  | withScope _ _ inside => exact within inside
  | captured _ inside => exact captured inside

variable {c : RenderContext χ}
  (loads : ∀ {names m e n}, c.load names m = (.error e, n) → P e)

omit bare in
include loads in
theorem loadTemplate (names : List String) : Fails P (Render.loadTemplate c names) := by
  intro s e t run
  rw [loadTemplate_run] at run
  rcases hload : c.load names s.memory with ⟨error | p, memory⟩
  · rw [hload] at run
    exact fail (loads hload) _ _ _ run
  · rw [hload] at run
    cases run

omit bare in
theorem nextInChain : Fails P (Render.nextInChain c) := by
  refine of_ok fun s => ?_
  cases hchains : s.chains with
  | nil => exact ⟨_, _, nextInChain_nil c hchains⟩
  | cons chain chains => exact ⟨_, _, nextInChain_cons c hchains⟩

variable {inner : Renderer χ} (hinner : ∀ nodes, Fails P (inner nodes))

include hinner

omit bare in
theorem renderNext : Fails P (Render.renderNext c inner) := by
  refine nextInChain.bind fun next => ?_
  cases next with
  | none => exact pure _
  | some block => exact within (hinner _)

omit bare in
theorem renderBlock (block : Block) : Fails P (Render.renderBlock c inner block) := by
  unfold Render.renderBlock
  cases c.blocks.enter block with
  | none => exact pure _
  | some chain => exact within (renderNext hinner)

include loads

theorem includeTemplate (names : List String) : Fails P (Render.includeTemplate c inner names) := by
  intro s e t h
  rw [includeTemplate_run] at h
  cases hmay : c.mayInclude s.includeDepth with
  | error cause =>
      rw [hmay] at h
      exact fail (bare cause) _ _ _ h
  | ok _ =>
      rw [hmay] at h
      exact within ((loadTemplate loads names).bind fun p => hinner _) _ _ _ h

theorem nodeSteps :
    NodeSteps (fun _ act => ∀ i, Fails P (act i)) (fun _ : Unit => c) (fun _ => inner)
      (.same Unit) where
  clock := ⟨_, fun _ => rfl⟩
  functions := ⟨_, fun _ => rfl⟩
  super := .captured (.given fun _ => renderNext hinner)
  bodies _ _ := .given fun _ => hinner _
  cycleAt id _ := .given fun i => of_ok fun s => ⟨_, _, cycleAt_run (id i) s⟩
  putCycle id state _ := .given fun i => of_ok fun s => ⟨_, _, putCycle_run (id i) state s⟩
  blocks _ _ := .given fun _ => renderBlock hinner _
  includes _ _ := .given fun _ => includeTemplate bare loads hinner _
  others _ h := h.elim

omit hinner in
/-- A render fails as its loads do, or with an error without a place and a name. -/
theorem render (depth : Nat) (nodes : List Node) : Fails P (Render.render c depth nodes) := by
  induction depth generalizing nodes with
  | zero =>
      rintro s e t h
      cases h
  | succ depth ih => exact of_uniform bare ((nodeSteps bare loads ih).renderAll (.same nodes)) ()

end

end Fails

end Render

/-! ## Programs -/

variable {e : Engine}

/-- An error of a render has no place, or it points into a template that the loader finds. -/
theorem Program.renderWithin_fails (h : e.loader.ByName) {p : Program} {world : World} {depth : Nat}
    {m n : Memory} {data : Value} {error : Error}
    (run : p.renderWithin e world depth m data = (.failed error, n)) :
    error.PointsInto e.delimiters (e.Finds world.files) := by
  rw [renderWithin, renderIn] at run
  cases hdata : dataScope data with
  | error inner =>
      rw [hdata] at run
      cases run
      unfold dataScope at hdata
      split at hdata
      · cases hdata
      · cases hdata
      · cases hdata
      · cases hdata
        exact nofun
  | ok scope =>
      rw [hdata] at run
      dsimp only at run
      rcases hrender : Render.render (p.context e world) depth p.root (startState e m scope)
        with stop | ⟨inner | _, s⟩
      · rw [hrender] at run
        cases run
      · rw [hrender] at run
        cases run
        have fails : inner.Bare ∨ inner.Placed e.delimiters (e.Finds world.files) :=
          Render.Fails.render (P := fun error => error.Bare ∨ error.Placed e.delimiters _)
            (fun cause => .inl ⟨rfl, rfl⟩) (fun load => Engine.load_fails h load) depth p.root _ _ _ hrender
        rcases fails with bare | ⟨tag, other, rfl, found⟩
        · exact bare.named_pointsInto _
        · -- The name of the template that failed is there already.
          exact (Error.Placed.mk tag ⟨other, rfl, found⟩).pointsInto
      · rw [hrender] at run
        cases run

/-- Errors with a place point into the right template. The place is a tag of the source, and the source
is that of the template whose name the error has: one that the loader finds, or the one that is being
compiled, which may have no name. An error of a compilation always has a place, unless no template may
be compiled at all. -/
theorem Engine.errors_point_into (h : e.loader.ByName) (files : FileSystem) (m : Memory) :
    (∀ {source name error n}, e.compile files source name m = (.error error, n) →
      error.PointsInto e.delimiters (e.Sites files name source) ∧
        (error.location = none → e.maxIncludeDepth = 0)) ∧
    (∀ {name source error n}, e.addTemplate files name source m = (.error error, n) →
      error.PointsInto e.delimiters (e.Sites files (some name) source) ∧
        (error.location = none → e.maxIncludeDepth = 0)) ∧
    (∀ {names error n}, e.load files names m = (.error error, n) →
      error.PointsInto e.delimiters (e.Finds files)) ∧
    ∀ {p : Program} {world depth data error n}, world.files = files →
      p.renderWithin e world depth m data = (.failed error, n) →
        error.PointsInto e.delimiters (e.Finds files) := by
  have placed : ∀ {name source} {error : Error}, e.maxIncludeDepth = 0 ∧ error.Bare ∨
      error.Placed e.delimiters (e.Sites files name source) →
        error.PointsInto e.delimiters (e.Sites files name source) ∧
          (error.location = none → e.maxIncludeDepth = 0) := by
    rintro name source error (⟨none, bare⟩ | points)
    · exact ⟨bare.pointsInto, fun _ => none⟩
    · refine ⟨points.pointsInto, fun missing => ?_⟩
      cases points
      cases missing
  refine ⟨fun run => placed (compileWithin_fails h run), fun run => placed (addTemplate_fails h run),
    fun run => ?_, ?_⟩
  · rcases load_fails h run with bare | points
    · exact bare.pointsInto
    · exact points.pointsInto
  · rintro p world depth data error n rfl run
    exact Program.renderWithin_fails h run

/-! A template includes another one with a tag that does not exist. -/

namespace Broken

def pageText : String := "\x7b% include 'part' %\x7d"

def partText : String := "See \x7b% nope %\x7d."

def engine : Engine :=
  { Engine.ofDelimiters .standard with
    loader := .sources [("page", pageText), ("part", partText)], maxIncludeDepth := 2 }

set_option maxRecDepth 10000 in
theorem tokens_page : engine.delimiters.tokens pageText.toList =
    [] ++ ⟨.statement, "include 'part'".toList, ⟨0, 20⟩⟩ :: [] := by
  cbv

set_option maxRecDepth 10000 in
theorem tokens_part : engine.delimiters.tokens partText.toList =
    [⟨.text, "See ".toList, ⟨0, 4⟩⟩] ++ ⟨.statement, "nope".toList, ⟨4, 14⟩⟩ ::
      [⟨.text, ".".toList, ⟨14, 15⟩⟩] := by
  cbv

theorem reading_part : Token.reading engine.filters ⟨.statement, "nope".toList, ⟨4, 14⟩⟩ =
    .error (.unknownTag "nope") := by
  cbv

set_option maxRecDepth 10000 in
theorem reading_page (filters : NameMap Filter) :
    Token.reading filters ⟨.statement, "include 'part'".toList, ⟨0, 20⟩⟩ = .ok (.splice ["part"]) := by
  cbv

def error : Error := ⟨.unknownTag "nope", some ⟨partText, ⟨4, 14⟩⟩, some "part"⟩

theorem compile_part (m : Memory) :
    engine.compileWithin .empty 1 partText (some "part") m = (.error error, m) := by
  rw [Engine.compileWithin, Engine.compileSource_run, tokens_part,
    TagReader.nodes_between_error (by simp) (by rw [TagReader.action_run, reading_part])]
  rfl

theorem load_page : engine.load .empty ["page"] ⟨0, []⟩ = (.error error, ⟨0, []⟩) := by
  have load_part : engine.loadWith .empty (engine.compileWithin .empty 1) ["part"] ⟨0, []⟩ =
      (.error error, ⟨0, []⟩) := by
    change (engine.compileWithin .empty 1 partText (some "part") >>= Engine.keepFirst "part") _ = _
    rw [MemoryM.bind_run, compile_part]
  have failed : TagReader.action ⟨engine.filters, pageText,
      engine.loadWith .empty (engine.compileWithin .empty 1)⟩
      ⟨.statement, "include 'part'".toList, ⟨0, 20⟩⟩ ⟨0, []⟩ = (.error error, ⟨0, []⟩) := by
    rw [TagReader.action_run, reading_page]
    dsimp only
    rw [load_part]
    rfl
  change (engine.compileWithin .empty 2 pageText (some "page") >>= Engine.keepFirst "page") _ = _
  rw [MemoryM.bind_run, Engine.compileWithin, Engine.compileSource_run, tokens_page,
    TagReader.nodes_between_error (by simp) failed]
  rfl

end Broken

theorem Engine.errors_point_into_part :
    Broken.engine.loader.ByName ∧
      Broken.engine.load .empty ["page"] ⟨0, []⟩ = (.error Broken.error, ⟨0, []⟩) ∧
      Location.AtTag Broken.engine.delimiters ⟨Broken.partText, ⟨4, 14⟩⟩ ∧
      Broken.engine.Finds .empty (some "part") Broken.partText := by
  have byName : Broken.engine.loader.ByName := nofun
  obtain ⟨-, -, load, -⟩ := errors_point_into byName .empty ⟨0, []⟩
  obtain ⟨tag, found⟩ := load Broken.load_page _ rfl
  exact ⟨byName, Broken.load_page, tag, found⟩

end TextTemplate
