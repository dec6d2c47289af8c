import TextTemplate.Proofs.Render.Chains
import TextTemplate.Proofs.Render.Correspondence
import TextTemplate.Proofs.Template.Constants

/-!
# Constants in place

Filters on a constant come to the same whether they are applied while a template is read or while it is
rendered. So a template renders the same with constants in place of the names that are bound to them, in
all tags but the include tags and up to the block bodies.
-/

namespace TextTemplate

/-! ## Constants while rendering -/

/-- The names are bound to the constants. -/
def Constants.Holds (k : Constants) (scopes : Scopes) : Prop :=
  ∀ name v, k name = some v → scopes.get name = some v

namespace Constants

variable {k : Constants} {scopes : Scopes}

theorem holds_nothing (scopes : Scopes) : nothing.Holds scopes := nofun

theorem Holds.hide (h : k.Holds scopes) {names : List String} {scope : NameMap Value}
    (free : ∀ name, name ∉ names → scope.find? name = none) : (k.hide names).Holds (scope :: scopes) := by
  intro name v bound
  unfold Constants.hide at bound
  split at bound
  · cases bound
  · next other =>
      rw [Scopes.get, List.findSome?_cons, free name other]
      exact h name v bound

theorem Holds.bind (h : k.Holds scopes) (name : String) {value : Value} {known : Option Value}
    (same : ∀ v, known = some v → value = v) : (k.bind name known).Holds ([(name, value)] :: scopes) := by
  intro other v bound
  rw [Scopes.get, List.findSome?_cons, NameMap.find?, NameMap.find?_nil]
  unfold Constants.bind at bound
  by_cases here : other = name
  · rw [if_pos here] at bound
    rw [if_pos here.symm, same v bound]
  · rw [if_neg here] at bound
    rw [if_neg (Ne.symm here)]
    exact h other v bound

end Constants

namespace Render

variable {χ : Type}

/-- Where the constants hold, an expression has the value that follows from them. -/
theorem eval_constant (c : RenderContext χ) (inner : Renderer χ) {k : Constants} {e : Expr} {w : Value}
    (follows : e.constant? k = some w) {s : RenderState χ} (h : k.Holds s.scopes) :
    eval c inner e s = .ok (.ok w, s) := by
  cases e with
  | literal v =>
      cases follows
      rfl
  | reference r =>
      unfold Expr.constant? at follows
      dsimp only at follows
      split at follows
      · cases follows
      · next name rest segments =>
          obtain ⟨v, bound, follows⟩ := Option.bind_eq_some_iff.mp follows
          have resolved : s.scopes.resolve r.path = v.follow rest := by
            rw [Scopes.resolve, segments, Scopes.resolveSegments.eq_def]
            simp only [h name v bound]
          have closed : ∀ identity f, v.follow rest ≠ .callable identity f := by
            intro identity f callable
            rw [callable] at follows
            cases follows
          rw [eval_of_ne_callable c inner resolved closed]
          have fits : applyFilters r.raw r.filters (v.follow rest) = .ok w := by
            split at follows
            · cases follows
            · cases applied : applyFilters r.raw r.filters (v.follow rest) <;>
                simp_all [Except.toOption]
          rw [fits]

/-! ## Renders with constants in place -/

/-- The errors are the same but for the content of a loop tag, which failing to unpack an item quotes;
where a block fails so, calling `super` quotes the error. -/
inductive Requoted : Error → Error → Prop
  | same (e : Error) : Requoted e e
  | unpacking (item tag tag' : String) :
      Requoted ⟨.cannotUnpack item tag, none, none⟩ ⟨.cannotUnpack item tag', none, none⟩
  | called (path : String) {e e' : Error} (h : Requoted e e') :
      Requoted ⟨.callFailed path e.display, none, none⟩ ⟨.callFailed path e'.display, none, none⟩

/-- A template beside the same one with constants in place. -/
def inlining : Correspondence fun _ => List Block where
  cycles := Eq
  chains := List.Forall₂ BlockInlined
  errors := Requoted
  errors_refl := .same
  lax _ := False

/-- What a function gives back on both sides. -/
inductive ReturnedAlike : Except Failure Value → Except Failure Value → Prop
  | same (result : Except Failure Value) : ReturnedAlike result result
  | failed {e e' : Error} (h : Requoted e e') :
      ReturnedAlike (.error (.reason e.display)) (.error (.reason e'.display))

open Correspondence

section

variable {c c' : RenderContext (List Block)} {inner inner' : Renderer (List Block)} {P : Scopes → Prop}
  {k : Constants} (hc : inlining.Contexts c c' inner inner')

theorem agree_returned (result : Except Failure Returned) :
    inlining.AgreeBy P ReturnedAlike (returned result) (returned result) := by
  unfold returned
  cases result with
  | error failure => exact .pure (.same _)
  | ok r =>
      cases r with
      | value v => exact .pure (.same _)
      | newCallable f =>
          refine AgreeBy.bind Agree.newIdentity ?_
          rintro identity _ rfl
          exact .pure (.same _)
      | newObject d g t a =>
          refine AgreeBy.bind Agree.newIdentity ?_
          rintro identity _ rfl
          exact .pure (.same _)

include hc

theorem agree_callFunction (f : Function) (arguments : List Value) :
    inlining.AgreeBy P ReturnedAlike (callFunction c inner f arguments)
      (callFunction c' inner' f arguments) := by
  have looked : ∀ g : Scopes → Except Failure Returned, inlining.AgreeBy P ReturnedAlike
      (do returned (g (← scopes))) (do returned (g (← scopes))) := by
    intro g
    refine AgreeBy.bind Agree.scopes ?_
    rintro σ _ rfl
    exact agree_returned _
  cases f with
  | super =>
      refine AgreeBy.tryCatch ?_ fun e e' h => .pure (.failed h)
      refine AgreeBy.bind (Agree.captured hc.renderNext) ?_
      rintro text _ rfl
      exact .pure (.same _)
  | defined => exact looked fun σ => NativeFunction.defined σ arguments
  | range => exact looked fun σ => NativeFunction.range σ arguments
  | now =>
      simp only [callFunction, hc.world]
      exact looked fun σ => NativeFunction.now c'.world.clock σ arguments
  | host name =>
      simp only [callFunction, hc.world]
      cases c'.world.functions.find? name with
      | none => exact .pure (.same _)
      | some g => exact looked fun σ => g σ arguments

theorem agree_evalPath (r : Reference) :
    inlining.Agree P (evalPath c inner r) (evalPath c' inner' r) := by
  refine Agree.bind Agree.scopes fun σ => ?_
  cases σ.resolve r.path with
  | callable identity f =>
      refine AgreeBy.bind (agree_callFunction hc f r.arguments) ?_
      rintro result result' (_ | h)
      · cases result with
        | ok value => exact .pure rfl
        | error failure => exact .fail _
      · exact .fails (.called r.path h) nofun nofun
  | _ => exact .pure rfl

theorem agree_eval {e e' : Expr} (h : e.Inlined k e') :
    inlining.Agree k.Holds (eval c inner e) (eval c' inner' e') := by
  rcases h with rfl | ⟨w, follows, rfl⟩
  · cases e' with
    | literal v => exact .pure rfl
    | reference r =>
        refine Agree.bind (agree_evalPath hc r) fun v => ?_
        cases applyFilters r.raw r.filters v with
        | ok w => exact .pure rfl
        | error cause => exact .fail _
  · intro σ holds s t hst
    rw [eval_constant c inner follows (hst.left.symm ▸ holds)]
    exact ⟨rfl, hst⟩

omit hc in
/-- Where the value follows from the constants, both sides come to it. -/
theorem agree_constant {e e' : Expr} (h : e.Inlined k e') {w : Value} (follows : e.constant? k = some w) :
    inlining.AgreeBy k.Holds (fun v v' => v = w ∧ v' = w) (eval c inner e) (eval c' inner' e') := by
  intro σ holds s t hst
  have follows' : e'.constant? k = some w := by
    rcases h with rfl | ⟨w', same, rfl⟩
    · exact follows
    · exact same.symm.trans follows
  rw [eval_constant c inner follows (hst.left.symm ▸ holds),
    eval_constant c' inner' follows' (hst.right.symm ▸ holds)]
  exact ⟨⟨rfl, rfl⟩, hst⟩

theorem agree_evalPlain {condition condition' : Condition} (h : condition.Inlined k condition') :
    inlining.Agree k.Holds (evalPlain c inner condition) (evalPlain c' inner' condition') := by
  cases h with
  | plain negated hleft => exact Agree.bind (agree_eval hc hleft) fun _ => .pure rfl
  | compared negated op hleft hright =>
      refine Agree.bind (agree_eval hc hleft) fun left => ?_
      refine Agree.bind (agree_eval hc hright) fun right => ?_
      cases op.apply left right with
      | ok b => exact .pure rfl
      | error reason => exact .fail _

theorem agree_evalCondition {condition condition' : Condition} (h : condition.Inlined k condition') :
    inlining.Agree k.Holds (evalCondition c inner condition) (evalCondition c' inner' condition') := by
  have negated : condition.negated = condition'.negated := by
    cases h <;> rfl
  refine Agree.bind (AgreeBy.tryCatch (agree_evalPlain hc h) fun _ _ _ => .pure rfl) fun holds => ?_
  rw [negated]
  exact .pure rfl

theorem agree_evalGroup {group group' : List Condition}
    (h : List.Forall₂ (Condition.Inlined k) group group') :
    inlining.Agree k.Holds (evalGroup c inner group) (evalGroup c' inner' group') := by
  induction h with
  | nil => exact .pure rfl
  | cons first _ ih =>
      refine Agree.bind (agree_evalCondition hc first) fun holds => ?_
      cases holds with
      | true => exact ih
      | false => exact .pure rfl

theorem agree_evalTest {test test' : Test} (h : test.Inlined k test') :
    inlining.Agree k.Holds (evalTest c inner test) (evalTest c' inner' test') := by
  obtain ⟨groups⟩ := test
  obtain ⟨groups'⟩ := test'
  have alike : List.Forall₂ (List.Forall₂ (Condition.Inlined k)) groups groups' := h
  change inlining.Agree k.Holds (evalGroups c inner groups) (evalGroups c' inner' groups')
  clear h
  induction alike with
  | nil => exact .pure rfl
  | cons first _ ih =>
      refine Agree.bind (agree_evalGroup hc first) fun holds => ?_
      cases holds with
      | true => exact .pure rfl
      | false => exact ih

theorem agree_evalChain {options options' : List Expr}
    (h : List.Forall₂ (Expr.Inlined k) options options') (last : Value) :
    inlining.Agree k.Holds (evalChain c inner last options) (evalChain c' inner' last options') := by
  induction h generalizing last with
  | nil => exact .pure rfl
  | cons first _ ih =>
      refine Agree.bind (agree_eval hc first) fun value => ?_
      cases value.isTruthy with
      | true => exact .pure rfl
      | false => exact ih value

theorem agree_evalBody {body body' : PrintBody} (h : body.Inlined k body') :
    inlining.Agree k.Holds (evalBody c inner body) (evalBody c' inner' body') := by
  cases h with
  | chain options => exact agree_evalChain hc options _
  | choice htest hyes hno =>
      refine Agree.bind (agree_evalTest hc htest) fun holds => ?_
      cases holds with
      | true => exact agree_eval hc hyes
      | false => exact agree_eval hc hno

theorem agree_renderCycle (id : Nat) {items items' : Expr} (h : items.Inlined k items') :
    inlining.Agree k.Holds (renderCycle c inner id items) (renderCycle c' inner' id items') := by
  have known : inlining.Agree k.Holds (cycleAt id) (cycleAt id) := by
    intro σ _ s t hst
    have same : s.cycles = t.cycles := hst.cycles
    rw [cycleAt_run, cycleAt_run, same]
    exact ⟨rfl, hst⟩
  have put : ∀ state, inlining.Agree k.Holds (putCycle id state) (putCycle id state) :=
    fun state σ _ s t hst =>
      ⟨rfl, { hst with cycles := congrArg (setCycle · id state) hst.cycles }⟩
  have state : inlining.Agree k.Holds (cycleState c inner id items) (cycleState c' inner' id items') := by
    refine Agree.bind known fun found => ?_
    cases found with
    | some state => exact .pure rfl
    | none => exact Agree.bind (agree_eval hc h) fun _ => Agree.bind (put _) fun _ => .pure rfl
  refine Agree.bind state fun state => ?_
  cases state.items[state.position % state.items.length]? with
  | none => exact .pure rfl
  | some item => exact Agree.bind (Agree.write _) fun _ => put _

omit hc

/-! ## Loops -/

/-- A run binds nothing but the loop variables and `loop`. -/
theorem find?_runScope_of_not_mem {names : List String} {tag : String} {item : Value}
    {scope : NameMap Value} (bound : loopBindings names tag item = .ok scope) (record : Value)
    {name : String} (other : name ∉ "loop" :: names) :
    (scope.insert "loop" record).find? name = none := by
  obtain ⟨noLoop, others⟩ := List.ne_and_not_mem_of_not_mem_cons other
  rw [NameMap.find?_insert_of_ne _ _ (Ne.symm noLoop)]
  unfold loopBindings at bound
  split at bound
  · next single =>
      cases bound
      rw [NameMap.find?, if_neg (Ne.symm (List.ne_of_not_mem_cons others)), NameMap.find?_nil]
  · split at bound
    · next parts _ =>
        cases bound
        rw [NameMap.find?_ofEntries, NameMap.last?, Option.map_eq_none_iff, List.find?_eq_none]
        intro entry mem same
        rw [List.mem_reverse] at mem
        exact others (beq_iff_eq.mp same ▸ (List.of_mem_zip mem).1)
    · cases bound

/-- A loop with another tag binds the same, and quotes the other tag where it fails. -/
theorem loopBindings_retagged (names : List String) (tag tag' : String) (item : Value) :
    (∃ scope, loopBindings names tag item = .ok scope ∧ loopBindings names tag' item = .ok scope) ∨
      loopBindings names tag item = .error (.cannotUnpack item.literalText tag) ∧
        loopBindings names tag' item = .error (.cannotUnpack item.literalText tag') := by
  unfold loopBindings
  split
  · exact .inl ⟨_, rfl, rfl⟩
  · cases item.iterate with
    | some parts => exact .inl ⟨_, rfl, rfl⟩
    | none => exact .inr ⟨rfl, rfl⟩

variable (hinner : ∀ {k nodes nodes'}, Inlined k nodes nodes' →
  inlining.Agree k.Holds (inner nodes) (inner' nodes'))

include hinner

theorem agree_renderItems (names : List String) (tag tag' : String) {body body' : List Node}
    (hbody : Inlined (k.hide ("loop" :: names)) body body') (length index : Nat) (items : List Value) :
    inlining.Agree k.Holds (renderItems inner names tag body length index items)
      (renderItems inner' names tag' body' length index items) := by
  induction items generalizing index with
  | nil => exact .pure rfl
  | cons item items ih =>
      refine Agree.bind Agree.scopes fun σ => ?_
      rcases loopBindings_retagged names tag tag' item with ⟨scope, bound, bound'⟩ | ⟨fails, fails'⟩
      · rw [bound, bound']
        refine Agree.bind ?_ fun _ => ih _
        exact (hinner hbody).withScope fun _ holds =>
          holds.hide fun name other => find?_runScope_of_not_mem bound _ other
      · rw [fails, fails']
        exact .fails (.unpacking item.literalText tag tag') nofun nofun

include hc

theorem agree_renderLoop (names : List String) {items items' : Expr} (hitems : items.Inlined k items')
    (tag tag' : String) {body body' fallback fallback' : List Node}
    (hbody : Inlined (k.hide ("loop" :: names)) body body') (hfallback : Inlined k fallback fallback') :
    inlining.Agree k.Holds (renderLoop c inner names items tag body fallback)
      (renderLoop c' inner' names items' tag' body' fallback') := by
  refine Agree.bind (agree_eval hc hitems) fun value => ?_
  cases loopItems value with
  | nil => exact hinner hfallback
  | cons item items => exact agree_renderItems hinner names tag tag' hbody _ _ _

/-- Every tag does the same with constants in place. -/
theorem agree_renderNode (enters : ∀ {block block'}, BlockInlined block block' →
      Option.Rel inlining.chains (c.blocks.enter block) (c'.blocks.enter block'))
    {node node' : Node} (h : NodeInlined k node node') :
    inlining.Agree k.Holds (renderNode c inner node) (renderNode c' inner' node') := by
  cases h with
  | text _ text => exact Agree.write text
  | print escape hbody => exact Agree.bind (agree_evalBody hc hbody) fun _ => Agree.write _
  | loop names tag tag' hitems hbody hfallback =>
      exact agree_renderLoop hc hinner names hitems tag tag' hbody hfallback
  | emptyMark _ | elifMark _ _ | elseMark _ => exact .pure rfl
  | branch htest hyes hno =>
      refine Agree.bind (agree_evalTest hc htest) fun holds => ?_
      cases holds with
      | true => exact hinner hyes
      | false => exact hinner hno
  | cycle id hitems => exact agree_renderCycle hc id hitems
  | splice hbody => exact hinner hbody
  | includeBy _ target =>
      refine Agree.bind (agree_eval hc (.refl target)) fun value => ?_
      cases candidateNames value with
      | nil => exact .fail _
      | cons name names => exact hc.includeTemplate (fun p => hinner (.refl k p.root)) _
  | block _ id title hbody => exact hc.renderBlock (enters ⟨rfl, rfl, hbody⟩)
  | spaceless hbody | trim hbody =>
      exact Agree.bind (Agree.captured (hinner hbody)) fun _ => Agree.write _
  | @bind _ name value value' body body' hvalue hbody =>
      -- The names inside are known from the value on the left, which both sides come to.
      cases known : value.constant? k with
      | none =>
          rw [known] at hbody
          refine Agree.bind (agree_eval hc hvalue) fun v => ?_
          exact (hinner hbody).withScope fun _ holds => holds.bind name nofun
      | some w =>
          rw [known] at hbody
          refine AgreeBy.bind (agree_constant hvalue known) ?_
          rintro v v' ⟨rfl, rfl⟩
          exact (hinner hbody).withScope fun _ holds => holds.bind name fun _ => Option.some.inj

end

/-! ## Blocks -/

theorem ids_eq {blocks blocks' : List Block} (h : List.Forall₂ BlockInlined blocks blocks') :
    blocks.map (·.id) = blocks'.map (·.id) := by
  induction h with
  | nil => rfl
  | cons first _ ih => rw [List.map_cons, List.map_cons, first.id, ih]

theorem inlining_contexts {root root' : List Node} (c : RenderContext (List Block))
    {inner inner' : Renderer (List Block)}
    (hinner : ∀ {k nodes nodes'}, Inlined k nodes nodes' →
      inlining.Agree k.Holds (inner nodes) (inner' nodes')) :
    inlining.Contexts (c.of root) (c.of root') inner inner' where
  load := rfl
  mayInclude := rfl
  world := rfl
  left hkl := (forall₂_getLast hkl).1
  next {chain chain'} hkl := by
    rcases (forall₂_getLast hkl).2 with ⟨hk, hl⟩ | ⟨block, block', hk, hl, same⟩
    · change Option.Rel _ chain.getLast? chain'.getLast?
      rw [hk, hl]
      exact .none
    · change Option.Rel _ chain.getLast? chain'.getLast?
      rw [hk, hl]
      exact .some ((hinner same.body).mono fun σ _ => Constants.holds_nothing σ)

section

variable {root root' : List Node} (h : Inlined .nothing root root')

include h

/-- A block starts with corresponding definitions. -/
theorem chainOf_inlined {block block' : Block} (same : BlockInlined block block') :
    Option.Rel (List.Forall₂ BlockInlined) (chainOf (registryOf root) block)
      (chainOf (registryOf root') block') := by
  have titled := h.titled block.title
  have ids := ids_eq titled
  have first : ∀ blocks : List Block, blocks.head?.map (·.id) = (blocks.map (·.id)).head? :=
    fun blocks => List.head?_map.symm
  have listed : ∀ blocks : List Block, blocks.any (·.id == block.id) =
      (blocks.map (·.id)).any (· == block.id) := by
    intro blocks
    rw [List.any_map]
    rfl
  rw [chainOf_registryOf, chainOf_registryOf, ← same.title, ← same.id, first, first, listed, listed,
    ids]
  split
  · exact .some titled
  · split
    · exact .none
    · exact .some (.cons same .nil)

/-- Nodes with constants in place render alike wherever the constants hold. -/
theorem agree_render (c : RenderContext (List Block)) (depth : Nat) {k : Constants}
    {nodes nodes' : List Node} (hnodes : Inlined k nodes nodes') :
    inlining.Agree k.Holds (render (c.of root) depth nodes) (render (c.of root') depth nodes') := by
  induction depth generalizing k nodes nodes' with
  | zero => exact fun _ _ _ _ _ => .inr rfl
  | succ depth ih =>
      have hc : inlining.Contexts (c.of root) (c.of root') (render (c.of root) depth)
          (render (c.of root') depth) := inlining_contexts c ih
      rw [render, render]
      induction nodes generalizing nodes' with
      | nil =>
          cases hnodes
          exact .pure rfl
      | cons node rest ihrest =>
          cases hnodes with
          | cons hnode hrest =>
              exact Agree.bind (agree_renderNode hc ih (chainOf_inlined h) hnode) fun _ => ihrest hrest

end

/-! ## Constants -/

/-- Applying filters to a literal comes to what evaluating a variable with these filters comes to, each
side quoting its own expression. -/
theorem applyFilters_iff_eval (c : RenderContext χ) (inner : Renderer χ) {r : Reference}
    {s : RenderState χ} {v : Value} (resolved : s.scopes.resolve r.path = v)
    (closed : ∀ identity f, v ≠ .callable identity f) (raw : String) :
    let read := (applyFilters raw r.filters v).map Expr.literal
    (∀ w, read = .ok (.literal w) ↔ eval c inner (.reference r) s = .ok (.ok w, s)) ∧
      (∀ name reason, read = .error (.filterFailed name raw reason) ↔
        eval c inner (.reference r) s =
          .ok (.error ⟨.filterFailed name r.raw reason, none, none⟩, s)) ∧
      (read = .error .aborted ↔ eval c inner (.reference r) s = .error .aborted) := by
  rw [eval_of_ne_callable c inner resolved closed]
  rcases applyFilters_cases r.filters v with ⟨w, fits⟩ | ⟨filter, text, fails⟩ | breaks
  · simp [fits, Except.map]
  · simp [fails, Except.map, failWith, fail_run]
  · simp [breaks, Except.map, failWith, fail_run]

/-- Filters on a literal come to the same while a template is read and, on a variable that has the value
of the literal, while it is rendered: to the same value, to the same failure of the same filter, each
quoting its own expression, or they break off. There is nothing else that reading the literal could come
to. And a template renders the same with constants in place of the names that are bound to them, whatever
stands around the names. -/
theorem constant_in_place {filters : NameMap Filter} {calls : List CallText} {uses : List FilterCall}
    (h : List.Forall₂ (Uses filters) calls uses) {text path : List Char} {v : Value}
    (hv : Literal.parseChars text = some v) (plain : isPlainPath path = true)
    (other : Literal.parseChars path = none) :
    let read := parseExpr filters (exprText text calls)
    (∃ r, parseExpr filters (exprText path calls) = .ok (.reference r) ∧
      ∀ {χ : Type} (c : RenderContext χ) (inner : Renderer χ) (s : RenderState χ),
        s.scopes.resolve (String.ofList path) = v →
        (∀ w, read = .ok (.literal w) ↔ eval c inner (.reference r) s = .ok (.ok w, s)) ∧
        (∀ name reason, read = .error (.filterFailed name (quotedExpr text calls) reason) ↔
          eval c inner (.reference r) s =
            .ok (.error ⟨.filterFailed name (quotedExpr path calls) reason, none, none⟩, s)) ∧
        (read = .error .aborted ↔ eval c inner (.reference r) s = .error .aborted)) ∧
    ((∃ w, read = .ok (.literal w)) ∨
      (∃ name reason, read = .error (.filterFailed name (quotedExpr text calls) reason)) ∨
      read = .error .aborted) ∧
    (∀ (k : Constants) e e', isPlainIdent path = true → k (String.ofList path) = some v →
      parseExpr filters (exprText path calls) = .ok e → read = .ok e' → e.Inlined k e') ∧
    ∀ (c : RenderContext (List Block)) root root' depth s, Inlined .nothing root root' →
      s.chains = [] →
      ReportsAlike Requoted (report (render (c.of root) depth root s))
        (report (render (c.of root') depth root' s)) := by
  intro read
  have closed := (Literal.isData_of_parseChars hv).ne_callable
  have hread : read = (applyFilters (quotedExpr text calls) uses v).map .literal := parseExpr_literal h hv
  let r : Reference := ⟨quotedExpr path calls, String.ofList path, [], uses⟩
  refine ⟨⟨r, parseExpr_filtered h plain other, ?_⟩, ?_, ?_, ?_⟩
  · intro χ c inner s resolved
    rw [hread]
    exact applyFilters_iff_eval c inner (r := r) resolved closed (quotedExpr text calls)
  · exact parseExpr_literal_cases h hv
  · intro k e e' ident bound named literal
    exact inlined_of_parseExpr h hv ident other bound named literal
  · intro c root root' depth s inlined start
    have begin : inlining.States s.scopes s s :=
      ⟨rfl, rfl, rfl, start ▸ .nil, rfl, rfl, rfl, rfl⟩
    have agreed := agree_render inlined c depth inlined
    exact (agreed s.scopes (Constants.holds_nothing _) s s begin).reports fun _ _ => id

/-- Letters in upper case, by a filter of the same name. -/
def upperFilters : NameMap Filter := [("upper", Filter.onChars Text.upper)]

def upperCalls : List CallText := [⟨false, "upper".toList, []⟩]

def upperUses : List FilterCall := [⟨"upper", Filter.onChars Text.upper, []⟩]

set_option maxRecDepth 10000 in
theorem constant_in_place_upper :
    List.Forall₂ (Uses upperFilters) upperCalls upperUses ∧
    Literal.parseChars "'a'".toList = some (.string "a") ∧ isPlainPath "x".toList = true ∧
    Literal.parseChars "x".toList = none ∧
    let c := (Program.mk 0 none "" [] []).context (.ofDelimiters .standard) emptyWorld
    let s := Program.startState (.ofDelimiters .standard) .initial [("x", .string "a")]
    let x := Expr.reference ⟨"x | upper", "x", [], upperUses⟩
    let shown (e : Expr) := [Node.bind "x" (.literal (.string "a")) [.print false (.chain [e])]]
    s.scopes.resolve "x" = .string "a" ∧ s.chains = [] ∧
      parseExpr upperFilters "x | upper".toList = .ok x ∧
      parseExpr upperFilters "'a' | upper".toList = .ok (.literal (.string "A")) ∧
      eval c (render c 1) x s = .ok (.ok (.string "A"), s) ∧
      Inlined .nothing (shown x) (shown (.literal (.string "A"))) ∧
      ReportsAlike Requoted (report (render (c.of (shown x)) 3 (shown x) s))
        (report (render (c.of (shown (.literal (.string "A")))) 3 (shown (.literal (.string "A"))) s)) := by
  have uses : List.Forall₂ (Uses upperFilters) upperCalls upperUses :=
    .cons ⟨by decide, by decide, by cbv, .nil⟩ .nil
  have literal : Literal.parseChars "'a'".toList = some (.string "a") := by cbv
  have plain : isPlainPath "x".toList = true := by decide
  have other : Literal.parseChars "x".toList = none := by cbv
  refine ⟨uses, literal, plain, other, ?_⟩
  intro c s x shown
  obtain ⟨⟨r, named, agree⟩, -, inlined, alike⟩ := constant_in_place uses literal plain other
  have written : exprText "x".toList upperCalls = "x | upper".toList := by cbv
  have placed : exprText "'a'".toList upperCalls = "'a' | upper".toList := by cbv
  have read : parseExpr upperFilters "x | upper".toList = .ok x := by cbv
  have value : parseExpr upperFilters "'a' | upper".toList = .ok (.literal (.string "A")) := by cbv
  have resolved : s.scopes.resolve "x" = .string "a" := rfl
  rw [written] at named inlined
  rw [placed] at agree inlined
  obtain rfl : (⟨"x | upper", "x", [], upperUses⟩ : Reference) = r :=
    Expr.reference.inj (Except.ok.inj (read.symm.trans named))
  have evaluated := ((agree c (render c 1) s resolved).1 (.string "A")).mp value
  let k := Constants.nothing.bind "x" (some (.string "a"))
  have put : x.Inlined k (.literal (.string "A")) := inlined k x _ rfl rfl read value
  have body : PrintBody.Inlined k (.chain [x]) (.chain [.literal (.string "A")]) :=
    .chain (.cons put .nil)
  have both : Inlined .nothing (shown x) (shown (.literal (.string "A"))) :=
    .cons (.bind "x" (.refl _) (.cons (.print false body) (.nil _))) (.nil _)
  exact ⟨resolved, rfl, read, value, evaluated, both, alike c _ _ 3 s both rfl⟩

end Render

namespace InPlace

/-- A literal target brings the block of the template along, so that it takes the place of the first one
of its title. A block renders outside of the tags around it. And a condition whose filter fails counts as
false, but a literal whose filter fails cannot be read. -/
def sources : NameMap String := [
  ("blockBound", "\x7b% block b %\x7d\x7b% endblock %\x7d" ++
    "\x7b% with x = 'a' %\x7d\x7b% block b %\x7d\x7b\x7b x \x7d\x7d\x7b% endblock %\x7d\x7b% endwith %\x7d"),
  ("blockInPlace", "\x7b% block b %\x7d\x7b% endblock %\x7d" ++
    "\x7b% block b %\x7d\x7b\x7b 'a' \x7d\x7d\x7b% endblock %\x7d"),
  ("includeBound", "\x7b% block b %\x7dA\x7b% endblock %\x7d" ++
    "\x7b% with x = 'n' %\x7d\x7b% include x %\x7d\x7b% endwith %\x7d"),
  ("includeInPlace", "\x7b% block b %\x7dA\x7b% endblock %\x7d\x7b% include 'n' %\x7d"),
  ("lenBound", "\x7b% with x = 1 %\x7d" ++
    "\x7b% if x | len %\x7dyes\x7b% else %\x7dno\x7b% endif %\x7d\x7b% endwith %\x7d"),
  ("lenInPlace", "\x7b% if 1 | len %\x7dyes\x7b% else %\x7dno\x7b% endif %\x7d"),
  ("n", "\x7b% block b %\x7dB\x7b% endblock %\x7d")]

/-- The other filters of a new engine do not matter. -/
def engine : Engine :=
  { Engine.ofDelimiters .standard with filters := [("len", Filter.len)], loader := .sources sources }

def rendered (name : String) : Outcome :=
  (engine.renderLoaded emptyWorld 8 [name] .none ⟨0, []⟩).1

set_option maxRecDepth 100000 in
theorem rendered_include :
    rendered "includeBound" = .text "AB" ∧ rendered "includeInPlace" = .text "B" :=
  ⟨by cbv, by cbv⟩

set_option maxRecDepth 100000 in
theorem rendered_block :
    rendered "blockBound" = .text "" ∧ rendered "blockInPlace" = .text "a" :=
  ⟨by cbv, by cbv⟩

set_option maxRecDepth 100000 in
theorem rendered_lenBound : rendered "lenBound" = .text "no" := by
  cbv

set_option maxRecDepth 100000 in
theorem rendered_lenInPlace :
    rendered "lenInPlace" = .failed ⟨.filterFailed "len" "1 | len" "value of type integer has no length",
      some ⟨"\x7b% if 1 | len %\x7dyes\x7b% else %\x7dno\x7b% endif %\x7d", ⟨0, 16⟩⟩, some "lenInPlace"⟩ := by
  cbv

theorem in_place_differs :
    rendered "includeBound" = .text "AB" ∧ rendered "includeInPlace" = .text "B" ∧
      rendered "blockBound" = .text "" ∧ rendered "blockInPlace" = .text "a" ∧
      rendered "lenBound" = .text "no" ∧
      ∃ error, rendered "lenInPlace" = .failed error ∧ error.kind = .filter :=
  ⟨rendered_include.1, rendered_include.2, rendered_block.1, rendered_block.2, rendered_lenBound, _,
    rendered_lenInPlace, rfl⟩

end InPlace

end TextTemplate
