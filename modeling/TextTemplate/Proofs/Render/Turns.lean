import TextTemplate.Proofs.Render.Alike
import TextTemplate.Proofs.Render.Correspondence

/-!
# The turns of a cycle

A cycle prints one of its items each time it is rendered, and its position outlives scopes, failures
and nested renders. Here every turn of a cycle is written into a log instead. `renderLogged` reads off
the log how often a cycle has been rendered before and with which items, and knows no positions. Both
renderers come to the same (`turns_in_order`), unless a cycle is rendered while its own items are
evaluated for the first time: then the outer turn puts the position back to the start.
-/

namespace TextTemplate

/-- What a cycle prints at a position: the items come again behind the last one. -/
def CycleState.shown (turn : CycleState) : List Char :=
  match turn.items[turn.position % turn.items.length]? with
  | some item => item.displayChars
  | none => []

/-- Without items there is nothing to step through. -/
def CycleState.next (turn : CycleState) : CycleState :=
  if turn.items.isEmpty then turn else { turn with position := turn.position + 1 }

theorem CycleState.shown_of_empty {turn : CycleState} (h : turn.items = []) : turn.shown = [] := by
  simp [shown, h]

namespace Render

variable {χ : Type}

/-! ## The log -/

/-- All turns of all cycles, the first one first. A turn gives the items of the cycle and how often it
had been rendered before. -/
abbrev TurnLog := List (Nat × CycleState)

/-- The turns of one cycle. -/
def turnsOf (log : TurnLog) (id : Nat) : List CycleState :=
  (log.filter fun entry => entry.1 == id).map (·.2)

/-- The items are those of the first turn, and every turn is one position further. -/
def InOrder (turns : List CycleState) : Prop :=
  ∃ items, turns = (List.range turns.length).map fun position => ⟨items, position⟩

/-- Where a cycle stands behind its turns. -/
def reached : List CycleState → Option CycleState
  | [] => none
  | first :: rest =>
    some (if first.items.isEmpty then first else ⟨first.items, rest.length + 1⟩)

theorem turnsOf_append (log : TurnLog) (id other : Nat) (turn : CycleState) :
    turnsOf (log ++ [(id, turn)]) other =
      if other = id then turnsOf log other ++ [turn] else turnsOf log other := by
  by_cases same : id = other <;> simp [turnsOf, same, eq_comm (a := other)]

theorem InOrder.nil : InOrder [] := ⟨[], rfl⟩

theorem InOrder.first (items : List Value) : InOrder [⟨items, 0⟩] := ⟨items, rfl⟩

/-- Behind one more turn a cycle stands at the next position, and its turn showed what stood at the
position before. -/
theorem reached_append {first state : CycleState} {rest : List CycleState} (turn : CycleState)
    (h : reached (first :: rest) = some state) :
    (CycleState.mk first.items (rest.length + 1)).shown = state.shown ∧
      some state.next = reached (first :: rest ++ [turn]) := by
  obtain ⟨items, position⟩ := first
  simp only [reached, Option.some.injEq] at h
  subst h
  cases items with
  | nil => exact ⟨rfl, rfl⟩
  | cons item items =>
      refine ⟨rfl, ?_⟩
      simp [reached, CycleState.next]

theorem InOrder.append {first : CycleState} {rest : List CycleState} (h : InOrder (first :: rest)) :
    InOrder (first :: rest ++ [⟨first.items, rest.length + 1⟩]) := by
  obtain ⟨items, turns⟩ := h
  have same : first.items = items := by
    rw [List.length_cons, List.range_succ_eq_map, List.map_cons] at turns
    rw [(List.cons.inj turns).1]
  refine ⟨items, ?_⟩
  rw [List.length_append, List.length_singleton, List.range_succ, List.map_append, ← turns, same]
  rfl

/-! ## Rendering with the log -/

section

variable (c : RenderContext χ) (reason : Stop) (inner : Renderer χ)

def turnLog : RenderM χ TurnLog := return (← get).cycles

/-- Writes a turn into the log and prints its item. -/
def takeTurn (id : Nat) (turn : CycleState) : RenderM χ Unit := do
  modify fun s => { s with cycles := s.cycles ++ [(id, turn)] }
  writeChars turn.shown

/-- Renders a cycle. Only its first turn evaluates the items; a turn inside of that stops. -/
def renderTurn (id : Nat) (items : Expr) : RenderM χ Unit := do
  match turnsOf (← turnLog) id with
  | first :: rest => takeTurn id ⟨first.items, rest.length + 1⟩
  | [] =>
    let value ← eval c inner items
    match turnsOf (← turnLog) id with
    | [] => takeTurn id ⟨value.iterate.getD [], 0⟩
    | _ => stop reason

def renderNodeLogged : Node → RenderM χ Unit
  | .cycle id items => renderTurn c reason inner id items
  | node => renderNode c inner node

end

/-- Renders nodes at most so many levels deep and keeps a log of the turns. -/
def renderLogged (c : RenderContext χ) (reason : Stop) : Nat → Renderer χ :=
  renderBy (renderNodeLogged c reason)

variable {c : RenderContext χ} {reason : Stop} {inner : Renderer χ} {id : Nat} {s t : RenderState χ}

theorem takeTurn_run (id : Nat) (turn : CycleState) (s : RenderState χ) :
    takeTurn id turn s =
      .ok (.ok (), { s with
        cycles := s.cycles ++ [(id, turn)]
        out := s.out ++ String.ofList turn.shown }) :=
  rfl

/-- Behind the first turn the expression is not evaluated again. -/
theorem renderTurn_again (items : Expr) {first : CycleState} {rest : List CycleState}
    (h : turnsOf s.cycles id = first :: rest) :
    renderTurn c reason inner id items s = takeTurn id ⟨first.items, rest.length + 1⟩ s := by
  have log : turnLog s = .ok (.ok s.cycles, s) := rfl
  rw [renderTurn, bind_run, log]
  simp only [andThen, h]

theorem renderTurn_first (items : Expr) (h : turnsOf s.cycles id = []) :
    renderTurn c reason inner id items s =
      andThen (eval c inner items s) fun
        | .error e, t => .ok (.error e, t)
        | .ok value, t =>
          match turnsOf t.cycles id with
          | [] => takeTurn id ⟨value.iterate.getD [], 0⟩ t
          | _ => .error reason := by
  have log : ∀ s : RenderState χ, turnLog s = .ok (.ok s.cycles, s) := fun _ => rfl
  rw [renderTurn, bind_run, log]
  simp only [andThen, h]
  rw [bind_run]
  congr 1
  funext result t
  cases result with
  | error e => rfl
  | ok value =>
      dsimp only
      rw [bind_run, log]
      simp only [andThen]
      cases turnsOf t.cycles id <;> rfl

/-! ## The log and the positions -/

/-- The positions are what the log says. -/
structure Tallied (log : TurnLog) (cycles : List (Nat × CycleState)) : Prop where
  inOrder : ∀ id, InOrder (turnsOf log id)
  reached : ∀ id, findCycle cycles id = reached (turnsOf log id)

theorem Tallied.nil : Tallied [] [] := ⟨fun _ => .nil, fun _ => rfl⟩

/-- One turn more, and the position behind it. -/
theorem Tallied.append {log : TurnLog} {cycles cycles' : List (Nat × CycleState)}
    (h : Tallied log cycles) {turn : CycleState} (inOrder : InOrder (turnsOf log id ++ [turn]))
    (behind : findCycle cycles' id = Render.reached (turnsOf log id ++ [turn]))
    (others : ∀ other, id ≠ other → findCycle cycles' other = findCycle cycles other) :
    Tallied (log ++ [(id, turn)]) cycles' := by
  constructor <;> intro other <;> rw [turnsOf_append] <;> by_cases same : other = id
  · subst same
    rwa [if_pos rfl]
  · rw [if_neg same]
    exact h.inOrder other
  · subst same
    rwa [if_pos rfl]
  · rw [if_neg same, others other (Ne.symm same)]
    exact h.reached other

/-- The logged render beside the one with positions. -/
def logged (χ : Type) (reason : Stop) : Correspondence fun _ => χ where
  cycles := Tallied
  chains := Eq
  errors := Eq
  errors_refl _ := rfl
  lax := (· = reason)

/-- Renders a cycle that stands at a position. -/
def showTurn (id : Nat) (state : CycleState) : RenderM χ Unit := do
  match state.items[state.position % state.items.length]? with
  | none => return
  | some item =>
    writeChars item.displayChars
    putCycle id { state with position := state.position + 1 }

theorem renderCycle_again (items : Expr) {state : CycleState}
    (known : findCycle s.cycles id = some state) :
    renderCycle c inner id items s = showTurn id state s := by
  have same : renderCycle c inner id items = cycleState c inner id items >>= showTurn id := rfl
  rw [same, bind_run, cycleState, bind_run, cycleAt_run]
  simp only [andThen, known]
  rfl

theorem renderCycle_first (items : Expr) (new : findCycle s.cycles id = none) :
    renderCycle c inner id items s =
      andThen (eval c inner items s) fun
        | .error e, t => .ok (.error e, t)
        | .ok value, t =>
          let state : CycleState := ⟨value.iterate.getD [], 0⟩
          showTurn id state { t with cycles := setCycle t.cycles id state } := by
  have same : renderCycle c inner id items = cycleState c inner id items >>= showTurn id := rfl
  rw [same, bind_run, cycleState, bind_run, cycleAt_run]
  simp only [andThen, new]
  rw [bind_run]
  rcases eval c inner items s with stopped | ⟨e | value, t⟩ <;> rfl

theorem showTurn_run {state : CycleState} (known : findCycle s.cycles id = some state) :
    ∃ cycles, showTurn id state s =
        .ok (.ok (), { s with cycles, out := s.out ++ String.ofList state.shown }) ∧
      findCycle cycles id = some state.next ∧
      ∀ other, id ≠ other → findCycle cycles other = findCycle s.cycles other := by
  by_cases empty : state.items = []
  · refine ⟨s.cycles, ?_, ?_, fun _ _ => rfl⟩
    · have none : state.items[state.position % state.items.length]? = none := by simp [empty]
      rw [showTurn, none, CycleState.shown_of_empty empty]
      simp only [String.ofList_nil, String.append_empty]
      rfl
    · rw [known, CycleState.next, empty]
      rfl
  · have some : ∃ item, state.items[state.position % state.items.length]? = some item := by
      have inside := Nat.mod_lt state.position (List.length_pos_of_ne_nil empty)
      exact ⟨_, List.getElem?_eq_getElem inside⟩
    obtain ⟨item, some⟩ := some
    have next : state.next = { state with position := state.position + 1 } := by
      simp [CycleState.next, empty]
    refine ⟨setCycle s.cycles id state.next, ?_, findCycle_setCycle_self .., fun other h =>
      findCycle_setCycle_of_ne _ _ h⟩
    rw [showTurn, CycleState.shown, some, next]
    rfl

/-- A turn on both sides, if the position is that of the turn. -/
theorem matches_turn {σ : Scopes} (hst : (logged χ reason).States σ s t) {turn state : CycleState}
    {cycles : List (Nat × CycleState)} (inOrder : InOrder (turnsOf s.cycles id ++ [turn]))
    (shown : turn.shown = state.shown)
    (behind : some state.next = reached (turnsOf s.cycles id ++ [turn]))
    (known : findCycle cycles id = some state)
    (others : ∀ other, id ≠ other → findCycle cycles other = findCycle t.cycles other) :
    (logged χ reason).Matches σ (· = ·) (takeTurn id turn s) (showTurn id state { t with cycles }) := by
  obtain ⟨cycles', run, found, kept⟩ :=
    showTurn_run (s := { t with cycles }) known
  rw [takeTurn_run, run, shown]
  refine ⟨rfl, { hst with cycles := ?_, out := congrArg (· ++ _) hst.out }⟩
  exact hst.cycles.append inOrder (found.trans behind) fun other h => (kept other h).trans (others other h)

variable {inner' : Renderer χ}

theorem logged_contexts
    (h : ∀ nodes, (logged χ reason).Agree (fun _ => True) (inner nodes) (inner' nodes)) :
    (logged χ reason).Contexts c c inner inner' where
  load := rfl
  mayInclude := rfl
  world := rfl
  left := by
    rintro k _ rfl
    rfl
  next := by
    rintro k _ rfl
    cases (c.blocks.next k).1 with
    | none => exact .none
    | some block => exact .some (h block.body)

/-- The parts of the nodes that are no cycles. -/
abbrev plainParts : Parts Side := { Parts.same Side with cycles := fun _ => False }

theorem logged_steps
    (h : ∀ nodes, (logged χ reason).Agree (fun _ => True) (inner nodes) (inner' nodes)) :
    NodeSteps (fun _ act => (logged χ reason).Agree (fun _ => True) (act .left) (act .right))
      (fun _ => c) (Side.pick inner inner') plainParts where
  clock := ⟨_, fun _ => rfl⟩
  functions := ⟨_, fun _ => rfl⟩
  super := .captured (.given (logged_contexts h).renderNext)
  bodies := by
    rintro _ ⟨body, rfl⟩
    exact .given (h body)
  cycleAt _ := False.elim
  putCycle _ _ := False.elim
  blocks := by
    rintro _ ⟨block, rfl⟩
    refine .given ((logged_contexts h).renderBlock ?_)
    cases c.blocks.enter block with
    | none => exact .none
    | some chain => exact .some rfl
  includes _ names := .given ((logged_contexts h).includeTemplate (fun p => h p.root) names)
  others _ h := h.elim

section

variable (h : ∀ nodes, (logged χ reason).Agree (fun _ => True) (inner nodes) (inner' nodes))

include h

theorem agree_turn (id : Nat) (items : Expr) :
    (logged χ reason).Agree (fun _ => True) (renderTurn c reason inner id items)
      (renderCycle c inner' id items) := by
  intro σ _ s t hst
  have tallied : Tallied s.cycles t.cycles := hst.cycles
  have found := tallied.reached id
  cases turns : turnsOf s.cycles id with
  | cons first rest =>
      rw [turns] at found
      have inOrder : InOrder (first :: rest) := turns ▸ tallied.inOrder id
      have shown := reached_append ⟨first.items, rest.length + 1⟩ (rfl : reached (first :: rest) = some _)
      rw [renderTurn_again items turns, renderCycle_again items found]
      rw [← turns] at shown
      exact matches_turn hst (turns ▸ inOrder.append) shown.1 shown.2 found fun _ _ => rfl
  | nil =>
      rw [turns] at found
      rw [renderTurn_first items turns, renderCycle_first items found]
      have evaluated : (logged χ reason).Agree (fun _ => True) (eval c inner items)
          (eval c inner' items) := .of_uniform (fun same => same) ((logged_steps h).eval items)
      refine (evaluated σ trivial s t hst).andThen fun result result' s' t' results hst' => ?_
      match result, result', results with
      | .error _, .error _, errors => exact ⟨errors, hst'⟩
      | .ok value, .ok _, rfl =>
          dsimp only
          cases inside : turnsOf s'.cycles id with
          | cons _ _ => exact .inl rfl
          | nil =>
              refine matches_turn hst' ?_ rfl ?_ (findCycle_setCycle_self ..)
                fun other => findCycle_setCycle_of_ne _ _
              · rw [inside]
                exact .first _
              · rw [inside]
                rfl

theorem agree_logged (node : Node) :
    (logged χ reason).Agree (fun _ => True) (renderNodeLogged c reason inner node)
      (renderNode c inner' node) := by
  by_cases cycle : ∃ id items, node = .cycle id items
  · obtain ⟨id, items, rfl⟩ := cycle
    exact agree_turn h id items
  · have form : SameForm plainParts fun _ => node :=
      .const (P := plainParts) (fun body => ⟨body, rfl⟩) (fun block => ⟨block, rfl⟩) trivial
        fun id items same => cycle ⟨id, items, same⟩
    have same : renderNodeLogged c reason inner node = renderNode c inner node := by
      cases node with
      | cycle id items => exact absurd ⟨id, items, rfl⟩ cycle
      | _ => rfl
    rw [same]
    exact .of_uniform (fun same => same) ((logged_steps h).renderNode form)

end

/-- Every render is a logged render, unless that stops. -/
theorem agree_renderLogged (c : RenderContext χ) (reason : Stop) (depth : Nat) (nodes : List Node) :
    (logged χ reason).Agree (fun _ => True) (renderLogged c reason depth nodes) (render c depth nodes) := by
  rw [render_eq_renderBy]
  induction depth generalizing nodes with
  | zero => exact fun _ _ _ _ _ => .inr rfl
  | succ depth ih =>
      rw [renderLogged, renderBy, renderBy]
      rw [← render_eq_renderBy] at ih ⊢
      induction nodes with
      | nil => exact .pure rfl
      | cons node rest ihrest => exact .bind (agree_logged ih node) fun _ => ihrest

/-! ## Cycles -/

/-- Every render does what a logged one does, so the turns of a cycle are its renderings in the order
in which they come about, wherever in the render that is. All of them have the items of the first one,
and each shows the item at its number, from 0 on and from the start again behind the last item, or
nothing if there are no items. The items are the value of the expression at the first turn: a turn
evaluates it only while there is none, an evaluation that fails is no turn, and later on neither the
expression nor the turns of other cycles matter. The logged render stops for the given reason where a
cycle is rendered while its own items are evaluated for the first time. -/
theorem turns_in_order (c : RenderContext χ) :
    (∀ reason depth nodes s, s.cycles = [] → renderLogged c reason depth nodes s ≠ .error reason →
      report (render c depth nodes s) = report (renderLogged c reason depth nodes s)) ∧
    (∀ reason depth nodes s result t, s.cycles = [] →
      renderLogged c reason depth nodes s = .ok (result, t) → ∀ id, InOrder (turnsOf t.cycles id)) ∧
    (∀ reason inner id items s first rest, turnsOf s.cycles id = first :: rest →
      let turn : CycleState := ⟨first.items, rest.length + 1⟩
      renderNodeLogged c reason inner (.cycle id items) s =
        .ok (.ok (), { s with
          cycles := s.cycles ++ [(id, turn)], out := s.out ++ String.ofList turn.shown })) ∧
    (∀ reason inner id items s v t, turnsOf s.cycles id = [] →
      eval c inner items s = .ok (.ok v, t) → turnsOf t.cycles id = [] →
      let turn : CycleState := ⟨v.iterate.getD [], 0⟩
      renderNodeLogged c reason inner (.cycle id items) s =
        .ok (.ok (), { t with
          cycles := t.cycles ++ [(id, turn)], out := t.out ++ String.ofList turn.shown })) ∧
    (∀ reason inner id items s e t, turnsOf s.cycles id = [] →
      eval c inner items s = .ok (.error e, t) →
      renderNodeLogged c reason inner (.cycle id items) s = .ok (.error e, t)) ∧
    (∀ item items position, (CycleState.mk (item :: items) position).shown =
      ((item :: items).get
        ⟨position % (items.length + 1), Nat.mod_lt _ (Nat.succ_pos _)⟩).displayChars) ∧
    ∀ position, (CycleState.mk [] position).shown = [] := by
  have agreed : ∀ reason depth nodes (s : RenderState χ), s.cycles = [] →
      (logged χ reason).Matches s.scopes (· = ·) (renderLogged c reason depth nodes s)
        (render c depth nodes s) := by
    intro reason depth nodes s start
    have tallied : Tallied s.cycles s.cycles := start ▸ .nil
    exact agree_renderLogged c reason depth nodes s.scopes trivial s s
      ⟨rfl, rfl, tallied, List.forall₂_same.mpr fun _ _ => rfl, rfl, rfl, rfl, rfl⟩
  refine ⟨?same, ?order, ?again, ?first, ?failing, ?shown, fun _ => rfl⟩
  case same =>
    intro reason depth nodes s start goes
    refine ((agreed reason depth nodes s start).reports ?_).eq.symm
    rintro _ stopped rfl
    exact goes stopped
  case order =>
    intro reason depth nodes s result t start run id
    have ends := agreed reason depth nodes s start
    rw [run] at ends
    revert ends
    rcases render c depth nodes s with stopped | ⟨result', t'⟩
    · exact False.elim
    · exact fun ends => ends.2.cycles.inOrder id
  case again =>
    intro reason inner id items s first rest turns
    exact renderTurn_again items turns
  case first =>
    intro reason inner id items s v t turns evaluated inside
    change renderTurn c reason inner id items s = _
    rw [renderTurn_first items turns, evaluated]
    simp only [andThen, inside]
    rfl
  case failing =>
    intro reason inner id items s e t turns evaluated
    change renderTurn c reason inner id items s = _
    rw [renderTurn_first items turns, evaluated]
    rfl
  case shown =>
    intro item items position
    have inside := Nat.mod_lt position (Nat.succ_pos items.length)
    have found : (item :: items)[position % (item :: items).length]? =
        some ((item :: items).get ⟨position % (items.length + 1), inside⟩) :=
      List.getElem?_eq_getElem inside
    rw [CycleState.shown, found]

/-- A cycle of two items in a loop of three runs, beside a cycle without items. -/
theorem turns_in_order_loop :
    let c := (Program.mk 0 none "" [] []).context (.ofDelimiters .standard)
      ⟨.empty, ⟨1970, 1, 1, 0, 0, 0, 0, 0⟩, []⟩
    let s := Program.startState (.ofDelimiters .standard) .initial []
    let items := [Value.string "a", .string "b"]
    let letters := Node.cycle 0 (.literal (.list items))
    let runs := Expr.literal (.list [.none, .none, .none])
    let nodes := [Node.loop ["i"] runs "for i in x" [letters, .cycle 1 (.literal .none)] []]
    let t := { s with
      cycles := [(0, ⟨items, 0⟩), (1, ⟨[], 0⟩), (0, ⟨items, 1⟩), (1, ⟨[], 1⟩), (0, ⟨items, 2⟩),
        (1, ⟨[], 2⟩)]
      out := "aba" }
    s.cycles = [] ∧ renderLogged c .aborted 2 nodes s = .ok (.ok (), t) ∧
      report (render c 2 nodes s) = .ok (.ok "aba") ∧ InOrder (turnsOf t.cycles 0) ∧
      renderNodeLogged c .aborted (render c 1) letters t =
        .ok (.ok (), { t with cycles := t.cycles ++ [(0, ⟨items, 3⟩)], out := "abab" }) := by
  intro c s items letters runs nodes t
  obtain ⟨same, order, again, -⟩ := turns_in_order c
  have run : renderLogged c .aborted 2 nodes s = .ok (.ok (), t) := by with_unfolding_all rfl
  have goes : renderLogged c .aborted 2 nodes s ≠ .error .aborted := nofun
  have turns : turnsOf t.cycles 0 = [⟨items, 0⟩, ⟨items, 1⟩, ⟨items, 2⟩] := rfl
  exact ⟨rfl, run, (same .aborted 2 nodes s rfl goes).trans (congrArg report run),
    order .aborted 2 nodes s _ t rfl run 0,
    (again .aborted (render c 1) 0 _ t _ _ turns).trans (by with_unfolding_all rfl)⟩

/-- A page whose block cycles through the text of the block that it overrides. That block includes the
page once more, so the turns of the inner page are taken while the outer one evaluates its items. -/
def cyclingPage : Program where
  serial := 0
  name := none
  source := ""
  root := [
    .splice [.block 0 "x" [
      .branch ⟨[[⟨false, .reference ⟨"inner", "inner", [], []⟩, none⟩]]⟩
        [.text "abc"]
        [.bind "inner" (.literal (.bool true)) [.includeBy (.literal (.string "page"))]]]],
    .block 1 "x" [.loop ["i"] (.literal (.list [.integer 1, .integer 2])) "for i in [1, 2]"
      [.cycle 2 (.reference ⟨"super", "super", [], []⟩)] []]]
  blocks := []

def cyclingContext : RenderContext (List Block) where
  load _ m := (.ok cyclingPage, m)
  mayInclude _ := .ok ()
  world := ⟨.empty, ⟨1970, 1, 1, 0, 0, 0, 0, 0⟩, []⟩
  blocks := .ofRegistry (registryOf cyclingPage.root)

/-- The inner page has shown `a` and `b` of `abc`. The outer one goes on with `a` and `b` of `ab`, not
with `c` and `a`. -/
example :
    let s := Program.startState (.ofDelimiters .standard) .initial []
    report (render cyclingContext 20 cyclingPage.root s) = .ok (.ok "ab") ∧
      renderLogged cyclingContext .aborted 20 cyclingPage.root s = .error .aborted :=
  ⟨by cbv, by cbv⟩

end Render

end TextTemplate
