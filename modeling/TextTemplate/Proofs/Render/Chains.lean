import TextTemplate.Proofs.Engine.Chains
import TextTemplate.Proofs.Render.Including

/-!
# Rendering chains of templates

Two counters bound how deep templates may name each other. While compiling, a template counts together
with those that it names by literals, so a run of literals has to be shorter than the limit. While
rendering only includes by a variable count, and there may be as many as the limit. A template that is
loaded while rendering starts to count its literals anew (`Engine.chain_renders_iff`).
-/

namespace TextTemplate

namespace Link

/-- Whether the rest of a chain renders where so many templates that were loaded while rendering enclose
the place. -/
def Fits (limit : Nat) : Nat → List Link → Prop
  | _, [] => True
  | depth, .literal :: links => Fits limit depth links
  | depth, .lookUp :: links => depth < limit ∧ run links < limit ∧ Fits limit (depth + 1) links

/-- Includes by variables are counted all together, literals run by run. -/
theorem fits_iff {limit depth : Nat} {links : List Link} (h : depth ≤ limit) :
    run links < limit ∧ Fits limit depth links ↔
      depth + links.count .lookUp ≤ limit ∧ Short limit links := by
  induction links generalizing depth with
  | nil => simp [Fits, short_nil, h]
  | cons link links ih =>
      rw [short_cons]
      cases link with
      | literal =>
          have inner := ih h
          simp only [Fits, run_literal, List.count_cons_of_ne (by decide : Link.literal ≠ .lookUp)]
          constructor
          · rintro ⟨front, fits⟩
            obtain ⟨count, short⟩ := inner.1 ⟨by omega, fits⟩
            exact ⟨count, front, short⟩
          · rintro ⟨count, front, short⟩
            exact ⟨front, (inner.2 ⟨count, short⟩).2⟩
      | lookUp =>
          simp only [Fits, run_lookUp, List.count_cons_self]
          constructor
          · rintro ⟨some, deeper, front, fits⟩
            obtain ⟨count, short⟩ := (ih deeper).1 ⟨front, fits⟩
            exact ⟨by omega, some, short⟩
          · rintro ⟨count, some, short⟩
            have deeper : depth < limit := by omega
            exact ⟨some, deeper, (ih deeper).2 ⟨by omega, short⟩⟩

end Link

namespace Render

variable {χ : Type} {c : RenderContext χ} {inner : Renderer χ}

/-! ## Texts and a tag between them -/

variable (c inner) in
theorem renderAll_texts (texts : List Token) (nodes : List Node) (s : RenderState χ) :
    ∃ out, renderAll (renderNode c inner) (textNodes texts ++ nodes) s =
      renderAll (renderNode c inner) nodes { s with out } := by
  induction texts generalizing s with
  | nil => exact ⟨s.out, rfl⟩
  | cons t texts ih =>
      obtain ⟨out, rest⟩ := ih { s with out := s.out ++ String.ofList t.content }
      refine ⟨out, ?_⟩
      change (write (String.ofList t.content) >>= fun _ =>
        renderAll (renderNode c inner) (textNodes texts ++ nodes)) s = _
      rw [bind_run, write_run]
      exact rest

/-- How a render ends that succeeds exactly if the limit allows it. -/
inductive Ending (limit : Nat) (fits : Prop) :
    Except Stop (Except Error Unit × RenderState χ) → Prop
  | rendered (h : fits) (s : RenderState χ) : Ending limit fits (.ok (.ok (), s))
  | limited (h : ¬ fits) {error : Error}
      (cause : error.cause = .compileDepth limit ∨ error.cause = .renderDepth limit)
      (s : RenderState χ) : Ending limit fits (.ok (.error error, s))

namespace Ending

variable {limit : Nat} {fits : Prop} {s : RenderState χ}

/-- Texts around a node do not matter. -/
theorem between {front back : List Token} {node : Node}
    (h : ∀ out, Ending limit fits (renderNode c inner node { s with out })) :
    Ending limit fits
      (renderAll (renderNode c inner) (textNodes front ++ node :: textNodes back) s) := by
  obtain ⟨out, front⟩ := renderAll_texts c inner front (node :: textNodes back) s
  have here := h out
  rw [front, renderAll, bind_run]
  generalize renderNode c inner node { s with out } = r at here
  cases here with
  | limited h cause s => exact .limited h cause s
  | rendered h t =>
      obtain ⟨out, behind⟩ := renderAll_texts c inner back [] t
      rw [List.append_nil] at behind
      dsimp only [andThen]
      rw [behind]
      exact .rendered h _

theorem fail (h : ¬ fits) {error : Error}
    (cause : error.cause = .compileDepth limit ∨ error.cause = .renderDepth limit) :
    Ending limit fits (Render.fail error s) := by
  have other : error.cause ≠ .aborted := by
    intro aborted
    rcases cause with cause | cause <;> cases cause.symm.trans aborted
  rw [fail_run, if_neg other]
  exact .limited h cause s

end Ending

/-- An include tag looks up the name, and includes the template. -/
theorem renderInclude_names {r : Reference} {name : String} {s : RenderState χ}
    (names : r.Names s.scopes name) :
    renderInclude c inner (.reference r) s = includeTemplate c inner [name] s := by
  have value : eval c inner (.reference r) s = .ok (.ok (.string name), s) := by
    rw [eval_of_ne_callable c inner rfl names.plain, names.value]
  rw [renderInclude, bind_run, value]
  rfl

/-! ## Chains -/

variable {e : Engine} {sources : NameMap String} {files : FileSystem} (hload : c.load = e.load files)
  (hmay : c.mayInclude = e.mayInclude)

include hload hmay

/-- An include by a variable takes up one level, and what it loads is compiled anew. -/
theorem includeTemplate_linked {next : String} {links : Links} {touched : List String}
    {s : RenderState χ}
    (load : Arrives e.maxIncludeDepth s.scopes links e.maxIncludeDepth touched s.memory
      (e.load files [next] s.memory))
    (inside : ∀ {p : Program} {n : Memory}, Carries s.scopes p.root links →
      (∀ name, name ∉ touched → n.cache.find? name = s.memory.cache.find? name) →
        Ending e.maxIncludeDepth (Link.Fits e.maxIncludeDepth (s.includeDepth + 1) links.kinds)
          (inner p.root { s with includeDepth := s.includeDepth + 1, memory := n })) :
    Ending e.maxIncludeDepth (Link.Fits e.maxIncludeDepth s.includeDepth (.lookUp :: links.kinds))
      (includeTemplate c inner [next] s) := by
  rw [includeTemplate_run, hmay, Engine.mayInclude]
  by_cases full : e.maxIncludeDepth ≤ s.includeDepth
  · rw [if_pos full]
    exact .fail (fun fits => absurd fits.1 (Nat.not_lt.2 full)) (.inr rfl)
  · rw [if_neg full]
    have room : s.includeDepth < e.maxIncludeDepth := Nat.not_le.1 full
    dsimp only
    rw [withInclude, within_run, bind_run, loadTemplate_run, hload]
    dsimp only
    generalize e.load files [next] s.memory = r at load
    cases load with
    | @limited error n tooMany cause =>
        have other : error.cause ≠ .aborted := by
          intro aborted
          cases cause.symm.trans aborted
        dsimp only
        rw [fail_run, if_neg other]
        exact .limited (fun fits => absurd fits.2.1 (Nat.not_lt.2 tooMany)) (.inl cause) _
    | @compiled p n enough carries others =>
        have rendered := inside carries others
        dsimp only [andThen]
        generalize inner p.root { s with includeDepth := s.includeDepth + 1, memory := n } = r at rendered
        cases rendered with
        | rendered fits t => exact .rendered ⟨room, enough, fits⟩ _
        | limited unfit cause t => exact .limited (fun fits => unfit fits.2.2) cause _

/-- A chain whose first template has been compiled renders to its end or up to the limit. The induction
is on the depth of the render; each link takes up one level. -/
theorem render_linked (hloader : e.loader = .sources sources) {name : String} {links : Links}
    {depth : Nat} {root : List Node} {s : RenderState χ}
    (chain : e.Linked sources s.scopes name links) (carries : Carries s.scopes root links)
    (distinct : links.names.Nodup)
    (absent : ∀ n ∈ links.behind.names, s.memory.cache.find? n = none) (deep : links.length < depth) :
    Ending e.maxIncludeDepth (Link.Fits e.maxIncludeDepth s.includeDepth links.kinds)
      (render c depth root s) := by
  induction depth generalizing name links root s with
  | zero => exact absurd deep (Nat.not_lt_zero _)
  | succ depth ih =>
      rw [render]
      cases carries with
      | last texts =>
          obtain ⟨out, all⟩ := renderAll_texts c (render c depth) texts [] s
          rw [List.append_nil] at all
          rw [all]
          exact .rendered trivial _
      | @literal front back inner next links carries =>
          refine .between fun out => ?_
          cases chain with
          | link found tokens hfront hback tag rest =>
              exact @ih next links inner { s with out } rest carries (List.nodup_cons.1 distinct).2 absent
                (Nat.lt_of_succ_lt_succ deep)
      | @lookUp front back r next links names =>
          refine .between fun out => ?_
          cases chain with
          | link found tokens hfront hback tag rest =>
              change Ending _ _ (renderInclude c (render c depth) (.reference r) { s with out })
              rw [renderInclude_names (s := { s with out }) names]
              have load := Engine.load_linked files s.memory hloader rest distinct absent
              refine includeTemplate_linked hload hmay (s := { s with out }) load fun carries others => ?_
              refine @ih next links _ { s with out, includeDepth := _, memory := _ } rest carries
                (List.nodup_cons.1 distinct).2 (fun later mem => ?_) (Nat.lt_of_succ_lt_succ deep)
              obtain ⟨known, untouched⟩ := Links.apart_of_mem_behind distinct mem
              exact (others later untouched).trans (absent later (List.mem_cons_of_mem _ known))

end Render

/-! ## Loading and rendering -/

namespace Engine

/-- Loads a template and renders it. -/
def renderLoaded (e : Engine) (world : World) (depth : Nat) (names : List String) (data : Value)
    (m : Memory) : Outcome × Memory :=
  match e.load world.files names m with
  | (.error error, m) => (.failed error, m)
  | (.ok p, m) => p.renderWithin e world depth m data

/-- Whether the limit allows a chain: includes by a variable are counted all together and may be as many
as the limit, literals are counted run by run and have to be fewer. -/
def Allows (e : Engine) (links : List Link) : Prop :=
  links.count .lookUp ≤ e.maxIncludeDepth ∧ Link.Short e.maxIncludeDepth links

section

variable {e : Engine} {sources : NameMap String} (hloader : e.loader = .sources sources)
  {data : Value} {scope : NameMap Value} (hdata : dataScope data = .ok scope) {name : String}
  {links : Links} (chain : e.Linked sources (.initial e.builtins scope) name links)
  (distinct : (name :: links.names).Nodup) {depth : Nat} (deep : links.length < depth) (world : World)
  (nextId : Nat)

include hloader hdata chain distinct deep

/-- A chain with a new loader renders, or it fails at the limit. -/
theorem chain_cases :
    e.Allows links.kinds ∧
        (∃ text, (e.renderLoaded world depth [name] data ⟨nextId, []⟩).1 = .text text) ∨
      ¬ e.Allows links.kinds ∧ ∃ error,
        (e.renderLoaded world depth [name] data ⟨nextId, []⟩).1 = .failed error ∧
          (error.cause = .compileDepth e.maxIncludeDepth ∨
            error.cause = .renderDepth e.maxIncludeDepth) := by
  have allows : Link.run links.kinds < e.maxIncludeDepth ∧
      Link.Fits e.maxIncludeDepth 0 links.kinds ↔ e.Allows links.kinds := by
    rw [Link.fits_iff (Nat.zero_le _), Nat.zero_add, Allows]
  have load := load_linked world.files ⟨nextId, []⟩ hloader chain distinct
    fun _ _ => rfl
  rw [renderLoaded]
  generalize e.load world.files [name] ⟨nextId, []⟩ = r at load
  cases load with
  | @limited error n tooMany cause =>
      exact .inr ⟨fun allowed => absurd (allows.2 allowed).1 (Nat.not_lt.2 tooMany), error, rfl,
        .inl cause⟩
  | @compiled p n enough carries others =>
      have rendered := Render.render_linked (c := p.context e world) rfl rfl hloader
        (s := Program.startState e n scope) chain carries (List.nodup_cons.1 distinct).2
        (fun later mem => ?_) deep
      · dsimp only
        rw [Program.renderWithin, Program.renderIn, hdata]
        dsimp only
        generalize Render.render (p.context e world) depth p.root (Program.startState e n scope) = r
          at rendered
        cases rendered with
        | rendered fits s => exact .inl ⟨allows.1 ⟨enough, fits⟩, _, rfl⟩
        | @limited unfit error cause s =>
            exact .inr ⟨fun allowed => unfit (allows.2 allowed).2, _, rfl, cause⟩
      · exact others later (Links.apart_of_mem_behind distinct mem).2

/-- A chain of templates with a new loader renders exactly if the limit allows it, and it fails at the
limit otherwise. -/
theorem chain_renders_iff :
    ((∃ text, (e.renderLoaded world depth [name] data ⟨nextId, []⟩).1 = .text text) ↔
      e.Allows links.kinds) ∧
    (¬ e.Allows links.kinds → ∃ error,
      (e.renderLoaded world depth [name] data ⟨nextId, []⟩).1 = .failed error ∧
        (error.cause = .compileDepth e.maxIncludeDepth ∨
          error.cause = .renderDepth e.maxIncludeDepth)) := by
  rcases chain_cases hloader hdata chain distinct deep world nextId with
    ⟨allowed, text, rendered⟩ | ⟨refused, error, failed, cause⟩
  · exact ⟨⟨fun _ => allowed, fun _ => ⟨text, rendered⟩⟩, fun refused => absurd allowed refused⟩
  · refine ⟨⟨?_, fun allowed => absurd allowed refused⟩, fun _ => ⟨error, failed, cause⟩⟩
    rintro ⟨text, rendered⟩
    rw [failed] at rendered
    cases rendered

end

end Engine

/-! Two chains of two templates, one by a literal and one by a variable, where the limit is one: only the
one by a variable renders. -/

namespace TwoLinks

def sources : NameMap String := [("base", "end"), ("fixed", fixedSource), ("dynamic", dynamicSource)]

def engine : Engine :=
  { Engine.ofDelimiters .standard with loader := .sources sources, maxIncludeDepth := 1 }

theorem linked_base : engine.Linked sources (.initial engine.builtins baseData) "base" [] := by
  have tokens : engine.delimiters.tokens "end".toList = [⟨.text, "end".toList, ⟨0, 3⟩⟩] := by cbv
  have found : sources.find? "base" = some "end" := rfl
  refine .last found ?_
  rw [tokens]
  simp

theorem linked_fixed :
    engine.Linked sources (.initial engine.builtins baseData) "fixed" [(.literal, "base")] := by
  have found : sources.find? "fixed" = some fixedSource := rfl
  have tokens : engine.delimiters.tokens fixedSource.toList =
      [] ++ ⟨.statement, "include 'base'".toList, ⟨0, 20⟩⟩ :: [] := tokens_fixedSource
  exact .link found tokens (List.forall_mem_nil _) (List.forall_mem_nil _)
    (.literal (reading_include_base _ _)) linked_base

theorem linked_dynamic :
    engine.Linked sources (.initial engine.builtins baseData) "dynamic" [(.lookUp, "base")] := by
  have value : (Scopes.initial engine.builtins baseData).resolve "v" = .string "base" := rfl
  have names : baseMark.reference.Names (.initial engine.builtins baseData) "base" := by
    refine ⟨fun id f callable => ?_, ?_⟩
    · cases value.symm.trans callable
    · rw [show baseMark.reference.path = "v" from rfl, value]
      rfl
  have found : sources.find? "dynamic" = some dynamicSource := rfl
  have tokens : engine.delimiters.tokens dynamicSource.toList =
      [] ++ ⟨.statement, "include v".toList, ⟨0, 15⟩⟩ :: [] := tokens_dynamicSource
  exact .link found tokens (List.forall_mem_nil _) (List.forall_mem_nil _)
    (.lookUp (reading_include_v _ _) names) linked_base

end TwoLinks

theorem Engine.chain_renders_iff_two :
    TwoLinks.engine.loader = .sources TwoLinks.sources ∧ TwoLinks.engine.maxIncludeDepth = 1 ∧
    dataScope (.map baseData) = .ok baseData ∧
    (∃ error, (TwoLinks.engine.renderLoaded emptyWorld 2 ["fixed"] (.map baseData)
      ⟨0, []⟩).1 = .failed error ∧ error.message = "reached maximum include depth (1)") ∧
    ∃ text, (TwoLinks.engine.renderLoaded emptyWorld 2 ["dynamic"] (.map baseData)
      ⟨0, []⟩).1 = .text text := by
  have hdata : dataScope (.map baseData) = .ok baseData := rfl
  have refused : ¬ TwoLinks.engine.Allows [.literal] := fun allowed =>
    absurd (allowed.2 1 (List.infix_refl _)) (Nat.lt_irrefl 1)
  have allowed : TwoLinks.engine.Allows [.lookUp] := by
    refine ⟨Nat.le_refl 1, ?_⟩
    rw [Link.short_cons, Link.short_nil]
    exact ⟨Nat.one_pos, Nat.one_pos⟩
  have fixed := chain_renders_iff rfl hdata TwoLinks.linked_fixed (by decide) (Nat.lt_succ_self 1)
    emptyWorld 0
  have dynamic := chain_renders_iff rfl hdata TwoLinks.linked_dynamic (by decide) (Nat.lt_succ_self 1)
    emptyWorld 0
  obtain ⟨error, failed, cause⟩ := fixed.2 refused
  have message : error.message = "reached maximum include depth (1)" := by
    rcases cause with cause | cause <;> rw [Error.message, cause] <;> rfl
  exact ⟨rfl, rfl, hdata, ⟨error, failed, message⟩, dynamic.1.2 allowed⟩

end TextTemplate
