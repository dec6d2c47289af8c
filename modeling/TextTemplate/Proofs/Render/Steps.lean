import Mathlib
import TextTemplate.Render.Basic

/-!
# Single steps of the renderer

What the steps of the renderer do to a state, one equation for each. The proofs about whole renders
cite these and do not unfold the steps again.
-/

namespace TextTemplate

namespace Render

variable {χ α β : Type}

/-! ## Putting computations together -/

/-- Goes on with a result and a state, if there are any. -/
def andThen (r : Except Stop (Except Error α × RenderState χ))
    (next : Except Error α → RenderState χ → Except Stop (Except Error β × RenderState χ)) :
    Except Stop (Except Error β × RenderState χ) :=
  match r with
  | .error reason => .error reason
  | .ok (result, s) => next result s

theorem andThen_ok {r : Except Stop (Except Error α × RenderState χ)}
    {next : Except Error α → RenderState χ → Except Stop (Except Error β × RenderState χ)}
    {last : Except Error β × RenderState χ} :
    andThen r next = .ok last ↔ ∃ result s, r = .ok (result, s) ∧ next result s = .ok last := by
  rcases r with reason | ⟨result, s⟩
  · simp [andThen]
  · constructor
    · exact fun h => ⟨result, s, rfl, h⟩
    · rintro ⟨_, _, h, hnext⟩
      cases h
      exact hnext

theorem bind_run (act : RenderM χ α) (next : α → RenderM χ β) (s : RenderState χ) :
    (act >>= next) s =
      andThen (act s) fun
        | .error e, t => .ok (.error e, t)
        | .ok a, t => next a t := by
  change (act s >>= fun p => ExceptT.bindCont next p.1 p.2) = _
  rcases act s with reason | ⟨e | a, t⟩ <;> rfl

theorem tryCatch_run (act : RenderM χ α) (handle : Error → RenderM χ α) (s : RenderState χ) :
    (tryCatch act handle) s =
      andThen (act s) fun
        | .error e, t => handle e t
        | .ok a, t => .ok (.ok a, t) := by
  simp only [tryCatch, tryCatchThe, MonadExceptOf.tryCatch, ExceptT.tryCatch, ExceptT.mk, bind,
    StateT.bind]
  rcases act s with reason | ⟨e | a, t⟩ <;> rfl

theorem within_run (enter leave : RenderState χ → RenderState χ) (act : RenderM χ α)
    (s : RenderState χ) :
    within enter leave act s = andThen (act (enter s)) fun result t => .ok (result, leave t) := by
  unfold within
  rcases act (enter s) with reason | ⟨result, t⟩ <;> rfl

theorem captured_run (act : RenderM χ Unit) (s : RenderState χ) :
    captured act s =
      andThen (act { s with out := "" }) fun result t =>
        .ok (result.map fun _ => t.out, { t with out := s.out }) := by
  unfold captured
  rcases act { s with out := "" } with reason | ⟨result, t⟩ <;> rfl

theorem fail_run (e : Error) (s : RenderState χ) :
    (fail e : RenderM χ α) s =
      if e.cause = .aborted then .error .aborted else .ok (.error e, s) := by
  unfold fail
  split <;> rfl

/-! What stops inside stops outside. -/

section

variable {reason : Stop} {act : RenderM χ α} {s : RenderState χ}

theorem bind_stops (next : α → RenderM χ β) (h : act s = .error reason) :
    (act >>= next) s = .error reason := by
  rw [bind_run, h]
  rfl

theorem tryCatch_stops (handle : Error → RenderM χ α) (h : act s = .error reason) :
    tryCatch act handle s = .error reason := by
  rw [tryCatch_run, h]
  rfl

theorem within_stops {enter : RenderState χ → RenderState χ} (leave : RenderState χ → RenderState χ)
    (h : act (enter s) = .error reason) : within enter leave act s = .error reason := by
  rw [within_run, h]
  rfl

theorem captured_stops {act : RenderM χ Unit} (h : act { s with out := "" } = .error reason) :
    captured act s = .error reason := by
  rw [captured_run, h]
  rfl

end

/-! ## Reading and changing the state -/

theorem scopes_run (s : RenderState χ) : scopes s = .ok (.ok s.scopes, s) := rfl

theorem write_run (text : String) (s : RenderState χ) :
    write text s = .ok (.ok (), { s with out := s.out ++ text }) := rfl

theorem newIdentity_run (s : RenderState χ) :
    newIdentity s = .ok (.ok (.made s.made), { s with made := s.made + 1 }) := rfl

theorem cycleAt_run (id : Nat) (s : RenderState χ) :
    cycleAt id s = .ok (.ok (findCycle s.cycles id), s) := rfl

theorem putCycle_run (id : Nat) (state : CycleState) (s : RenderState χ) :
    putCycle id state s = .ok (.ok (), { s with cycles := setCycle s.cycles id state }) := rfl

theorem nextInChain_nil (c : RenderContext χ) {s : RenderState χ} (h : s.chains = []) :
    nextInChain c s = .ok (.ok none, s) := by
  obtain ⟨scopes, cycles, chains, includeDepth, made, memory, out⟩ := s
  subst h
  rfl

theorem nextInChain_cons (c : RenderContext χ) {s : RenderState χ} {chain : χ} {chains : List χ}
    (h : s.chains = chain :: chains) :
    nextInChain c s =
      .ok (.ok (c.blocks.next chain).1, { s with chains := (c.blocks.next chain).2 :: chains }) := by
  obtain ⟨scopes, cycles, chains', includeDepth, made, memory, out⟩ := s
  subst h
  rfl

theorem loadTemplate_run (c : RenderContext χ) (names : List String) (s : RenderState χ) :
    loadTemplate c names s =
      match c.load names s.memory with
      | (.ok program, memory) => .ok (.ok program, { s with memory })
      | (.error e, memory) => fail e { s with memory } := by
  unfold loadTemplate
  rcases c.load names s.memory with ⟨e | program, memory⟩ <;> rfl

/-! ## Blocks and includes -/

theorem renderNext_nil (c : RenderContext χ) (inner : Renderer χ) {s : RenderState χ}
    (h : s.chains = []) : renderNext c inner s = .ok (.ok (), s) := by
  unfold renderNext
  rw [bind_run, nextInChain_nil c h]
  rfl

theorem renderNext_cons (c : RenderContext χ) (inner : Renderer χ) {s : RenderState χ} {chain : χ}
    {chains : List χ} (h : s.chains = chain :: chains) :
    renderNext c inner s =
      match c.blocks.next chain with
      | (none, left) => .ok (.ok (), { s with chains := left :: chains })
      | (some block, left) =>
        withScope blockScope (inner block.body) { s with chains := left :: chains } := by
  unfold renderNext
  rw [bind_run, nextInChain_cons c h]
  rcases c.blocks.next chain with ⟨_ | block, left⟩ <;> rfl

theorem renderSuper_nil (c : RenderContext χ) (inner : Renderer χ) {s : RenderState χ}
    (h : s.chains = []) : renderSuper c inner s = .ok (.ok "", s) := by
  have outside : { s with out := "" }.chains = [] := h
  rw [renderSuper, captured_run, renderNext_nil c inner outside]
  rfl

theorem renderSuper_cons (c : RenderContext χ) (inner : Renderer χ) {s : RenderState χ} {chain : χ}
    {chains : List χ} (h : s.chains = chain :: chains) :
    renderSuper c inner s =
      match c.blocks.next chain with
      | (none, left) => .ok (.ok "", { s with chains := left :: chains })
      | (some block, left) =>
        andThen (inner block.body
          { s with scopes := blockScope :: s.scopes, chains := left :: chains, out := "" })
          fun result t =>
            .ok (result.map fun _ => t.out, { t with scopes := t.scopes.drop 1, out := s.out }) := by
  have inside : { s with out := "" }.chains = chain :: chains := h
  rw [renderSuper, captured_run, renderNext_cons c inner inside]
  rcases c.blocks.next chain with ⟨_ | block, left⟩
  · rfl
  · dsimp only
    rw [withScope, within_run]
    rcases inner block.body _ with reason | ⟨result, t⟩ <;> rfl

theorem includeTemplate_run (c : RenderContext χ) (inner : Renderer χ) (names : List String)
    (s : RenderState χ) :
    includeTemplate c inner names s =
      match c.mayInclude s.includeDepth with
      | .error cause => failWith cause s
      | .ok () => withInclude (loadTemplate c names >>= fun p => inner p.root) s := by
  have get_run : (get : RenderM χ (RenderState χ)) s = .ok (.ok s, s) := rfl
  simp only [includeTemplate, bind_run, get_run, andThen]
  cases c.mayInclude s.includeDepth <;> rfl

/-! ## References that call nothing -/

/-- A path whose value is no callable leaves nothing to be called. -/
theorem evalPath_of_ne_callable (c : RenderContext χ) (inner : Renderer χ) {r : Reference}
    {s : RenderState χ} {v : Value} (resolved : s.scopes.resolve r.path = v)
    (closed : ∀ identity f, v ≠ .callable identity f) : evalPath c inner r s = .ok (.ok v, s) := by
  rw [evalPath, bind_run, scopes_run]
  simp only [andThen, resolved]
  cases v with
  | callable identity f => exact absurd rfl (closed identity f)
  | _ => rfl

theorem eval_of_ne_callable (c : RenderContext χ) (inner : Renderer χ) {r : Reference}
    {s : RenderState χ} {v : Value} (resolved : s.scopes.resolve r.path = v)
    (closed : ∀ identity f, v ≠ .callable identity f) :
    eval c inner (.reference r) s =
      match applyFilters r.raw r.filters v with
      | .ok w => .ok (.ok w, s)
      | .error cause => failWith cause s := by
  rw [eval, bind_run, evalPath_of_ne_callable c inner resolved closed]
  simp only [andThen]
  cases applyFilters r.raw r.filters v <;> rfl

/-! ## The positions of the cycles -/

theorem findCycle_setCycle_self (cycles : List (Nat × CycleState)) (id : Nat) (state : CycleState) :
    findCycle (setCycle cycles id state) id = some state := by
  induction cycles with
  | nil => simp [setCycle, findCycle]
  | cons entry rest ih =>
      unfold setCycle
      split
      · simp [findCycle]
      · next other =>
          simp only [findCycle, List.find?_cons, other] at ih ⊢
          exact ih

theorem findCycle_setCycle_of_ne (cycles : List (Nat × CycleState)) {id other : Nat}
    (state : CycleState) (h : id ≠ other) :
    findCycle (setCycle cycles id state) other = findCycle cycles other := by
  induction cycles with
  | nil => simp [setCycle, findCycle, h]
  | cons entry rest ih =>
      unfold setCycle
      split
      · next same =>
          have distinct : (entry.1 == other) = false := by
            rw [beq_iff_eq] at same
            simpa [same] using h
          simp [findCycle, distinct, h]
      · simp only [findCycle, List.find?_cons] at ih ⊢
        split
        · rfl
        · exact ih

end Render

end TextTemplate
