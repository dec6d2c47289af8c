import TextTemplate.Proofs.Render.Preserved

/-!
# Evaluating writes nothing

Expressions, tests and the bodies of print tags leave the text so far as it is, whatever they call: what
`super` renders is captured and becomes a value.
-/

namespace TextTemplate

namespace Render

variable {χ α β : Type}

/-- The text so far is the same. -/
def SameOut (s t : RenderState χ) : Prop := t.out = s.out

namespace SameOut

theorem refl (s : RenderState χ) : SameOut s s := rfl

theorem trans (s t u : RenderState χ) (h : SameOut s t) (h' : SameOut t u) : SameOut s u :=
  Eq.trans h' h

end SameOut

/-- The computation leaves the text so far as it is. -/
abbrev Silent (act : RenderM χ α) : Prop := Preserves SameOut act

namespace Silent

theorem pure (a : α) : Silent (Pure.pure a : RenderM χ α) := Preserves.pure_of_refl SameOut.refl a

theorem failWith (cause : Cause) : Silent (Render.failWith cause : RenderM χ α) :=
  Preserves.fail_of_refl SameOut.refl _

theorem bind {act : RenderM χ α} {next : α → RenderM χ β} (first : Silent act)
    (rest : ∀ a, Silent (next a)) : Silent (act >>= next) :=
  Preserves.bind_of_trans SameOut.trans first rest

theorem tryCatch {act : RenderM χ α} {handle : Error → RenderM χ α} (first : Silent act)
    (rest : ∀ e, Silent (handle e)) : Silent (MonadExcept.tryCatch act handle) :=
  Preserves.tryCatch_of_trans SameOut.trans first rest

theorem scopes : Silent (Render.scopes : RenderM χ Scopes) :=
  Preserves.scopes_of_refl SameOut.refl

/-- What is captured does not reach the text so far. -/
theorem captured (act : RenderM χ Unit) : Silent (Render.captured act) := by
  intro s result t h
  obtain ⟨r, u, -, h⟩ := andThen_ok.mp ((captured_run ..).symm.trans h)
  cases h
  rfl

theorem returned (result : Except Failure Returned) :
    Silent (Render.returned result : RenderM χ (Except Failure Value)) := by
  have new : ∀ r : Returned, Silent (do return .ok (r.toValue (← newIdentity)) :
      RenderM χ (Except Failure Value)) := by
    intro r
    refine bind (fun s result t h => ?_) fun _ => pure _
    cases h
    rfl
  unfold Render.returned
  cases result with
  | error failure => exact pure _
  | ok r =>
      cases r with
      | value v => exact pure _
      | newCallable f => exact new _
      | newObject d g t a => exact new _

section

variable (c : RenderContext χ) (inner : Renderer χ)

theorem callFunction (f : Function) (arguments : List Value) :
    Silent (Render.callFunction c inner f arguments) := by
  cases f with
  | super => exact tryCatch (bind (captured _) fun _ => pure _) fun _ => pure _
  | defined => exact bind scopes fun _ => returned _
  | range => exact bind scopes fun _ => returned _
  | now => exact bind scopes fun _ => returned _
  | host name =>
      simp only [Render.callFunction]
      cases c.world.functions.find? name with
      | none => exact pure _
      | some f => exact bind scopes fun _ => returned _

theorem eval (e : Expr) : Silent (Render.eval c inner e) := by
  cases e with
  | literal value => exact pure _
  | reference r =>
      have path : Silent (evalPath c inner r) := by
        refine bind scopes fun scopes => ?_
        cases scopes.resolve r.path with
        | callable identity f =>
            refine bind (callFunction c inner f _) fun result => ?_
            cases result with
            | ok value => exact pure _
            | error failure => exact failWith _
        | _ => exact pure _
      refine bind path fun value => ?_
      cases applyFilters r.raw r.filters value with
      | ok value => exact pure _
      | error cause => exact failWith _

theorem evalCondition (condition : Condition) : Silent (Render.evalCondition c inner condition) := by
  refine bind (tryCatch (bind (eval c inner _) fun left => ?_) fun _ => pure _) fun _ => pure _
  cases condition.right with
  | none => exact pure _
  | some comparison =>
      refine bind (eval c inner _) fun right => ?_
      cases comparison.1.apply left right with
      | ok b => exact pure _
      | error reason => exact failWith _

theorem evalTest (test : Test) : Silent (Render.evalTest c inner test) := by
  have group : ∀ group, Silent (evalGroup c inner group) := by
    intro group
    induction group with
    | nil => exact pure _
    | cons condition rest ih =>
        refine bind (evalCondition c inner condition) fun holds => ?_
        cases holds with
        | true => exact ih
        | false => exact pure _
  unfold Render.evalTest
  induction test.groups with
  | nil => exact pure _
  | cons first rest ih =>
      refine bind (group first) fun holds => ?_
      cases holds with
      | true => exact pure _
      | false => exact ih

theorem evalBody (body : PrintBody) : Silent (Render.evalBody c inner body) := by
  cases body with
  | chain options =>
      have chain : ∀ last, Silent (evalChain c inner last options) := by
        induction options with
        | nil => exact fun last => pure last
        | cons e rest ih =>
            intro last
            refine bind (eval c inner e) fun value => ?_
            cases value.isTruthy with
            | true => exact pure _
            | false => exact ih value
      exact chain .undefined
  | choice test yes no =>
      refine bind (evalTest c inner test) fun holds => ?_
      cases holds with
      | true => exact eval c inner yes
      | false => exact eval c inner no

end

end Silent

end Render

end TextTemplate
