import TextTemplate.Proofs.Render.Depth
import TextTemplate.Proofs.Render.Places

/-!
# Branches

The nodes inside an if tag are one flat list, separated by `elif` and `else`. Sealing the tag turns
them into if tags inside each other. What is rendered is said here without regard to nesting and
depth: the tests are evaluated in order up to the first that holds, each from the state that the one
before left, and then the nodes behind that test are rendered and nothing else
(`branch_renders_first`).
-/

namespace TextTemplate

/-! ## Sealing -/

/-- Whether the node separates the branches of an if tag. -/
def Node.separates : Node → Bool
  | .elifMark _ | .elseMark => true
  | _ => false

/-- A branch of an if tag: a test and the nodes behind it. -/
structure Clause where
  test : Test
  body : List Node

namespace Clause

/-- The branch has no separator inside, though one of its nodes may enclose some. -/
abbrev IsWhole (clause : Clause) : Prop := ∀ node ∈ clause.body, node.separates = false

/-- The nodes of a branch that is not the first. -/
def nodes (clause : Clause) : List Node := .elifMark clause.test :: clause.body

end Clause

namespace Opener

/-- The nodes that an if tag encloses, behind the test of its first branch. -/
def branchNodes (body : List Node) (others : List Clause) (otherwise : Option (List Node)) :
    List Node :=
  body ++ (others.flatMap Clause.nodes ++ otherwise.elim [] fun nodes => .elseMark :: nodes)

theorem splitBranches_append {body : List Node} (h : ∀ node ∈ body, node.separates = false)
    (rest : List Node) :
    splitBranches (body ++ rest) = (body ++ (splitBranches rest).1, (splitBranches rest).2) := by
  induction body with
  | nil => rfl
  | cons node body ih =>
      obtain ⟨hnode, hbody⟩ := List.forall_mem_cons.mp h
      cases node with
      | elifMark _ | elseMark => cases hnode
      | _ => simp only [List.cons_append, splitBranches, ih hbody]

variable {body : List Node} (h : ∀ node ∈ body, node.separates = false) (test : Test)

include h

theorem close_branchNodes_nil (otherwise : Option (List Node)) :
    (branch test).close (branchNodes body [] otherwise) =
      .branch test body (otherwise.getD []) := by
  rw [close, branchNodes, splitBranches_append h]
  cases otherwise <;> simp [splitBranches]

/-- A further branch is an if tag of its own, in the alternative of the one before. -/
theorem close_branchNodes_cons (clause : Clause) (others : List Clause)
    (otherwise : Option (List Node)) :
    (branch test).close (branchNodes body (clause :: others) otherwise) =
      .branch test body
        [(branch clause.test).close (branchNodes clause.body others otherwise)] := by
  rw [close, branchNodes, splitBranches_append h]
  simp [Clause.nodes, branchNodes, close, splitBranches]

end Opener

namespace Render

variable {χ α β : Type}

/-! ## What a computation comes to -/

/-- At some depth the computation comes to this. -/
def ComesTo (act : Family (fun _ : Nat => χ) α) (s : RenderState χ)
    (r : Except Stop (Except Error α × RenderState χ)) : Prop :=
  r ≠ .error .tooDeep ∧ ∃ depth, act depth s = r

namespace ComesTo

variable {act : Family (fun _ : Nat => χ) α} {s : RenderState χ}
  {r r' : Except Stop (Except Error α × RenderState χ)}

/-- From some depth on the result stays. -/
theorem eventually (h : ComesTo act s r) (rising : Rising act) :
    ∃ depth, ∀ deeper, depth ≤ deeper → act deeper s = r := by
  obtain ⟨ends, depth, rfl⟩ := h
  exact ⟨depth, fun deeper hle => (rising depth deeper hle s).resolve_left ends⟩

theorem unique (h : ComesTo act s r) (h' : ComesTo act s r') (rising : Rising act) : r = r' := by
  obtain ⟨depth, here⟩ := h.eventually rising
  obtain ⟨depth', here'⟩ := h'.eventually rising
  exact (here _ (Nat.le_max_left depth depth')).symm.trans (here' _ (Nat.le_max_right depth depth'))

end ComesTo

/-! ## Tests -/

variable {c : RenderContext χ}

/-- The nodes at every depth. -/
abbrev nodesAt (c : RenderContext χ) (nodes : List Node) : Family (fun _ : Nat => χ) Unit :=
  fun depth => render c depth nodes

/-- The test at every depth. -/
abbrev testAt (c : RenderContext χ) (test : Test) : Family (fun _ : Nat => χ) Bool :=
  fun depth => evalTest c (render c depth) test

theorem rising_evalTest (c : RenderContext χ) (test : Test) : Rising (testAt c test) := by
  have surroundings : Surroundings (fun _ => True) (fun _ act => Rising act) (fun _ : Nat => c)
      (fun depth => render c depth) :=
    ⟨⟨_, fun _ => rfl⟩, ⟨_, fun _ => rfl⟩, .captured (.given (rising_renderNext c))⟩
  exact .of_uniform (surroundings.evalTest test)

/-- A test does not fail: a condition that fails counts as false. -/
theorem evalTest_fails (c : RenderContext χ) (inner : Renderer χ) (test : Test) :
    Fails (fun _ => False) (evalTest c inner test) := by
  have group : ∀ group, Fails (fun _ => False) (evalGroup c inner group) := by
    intro group
    induction group with
    | nil => exact .pure _
    | cons condition rest ih =>
        refine .bind (.bind (.tryCatch fun _ => .pure _) fun _ => .pure _) fun holds => ?_
        cases holds with
        | true => exact ih
        | false => exact .pure _
  unfold evalTest
  induction test.groups with
  | nil => exact .pure _
  | cons first rest ih =>
      refine .bind (group first) fun holds => ?_
      cases holds with
      | true => exact .pure _
      | false => exact ih

/-- None of the tests holds; they are evaluated in order and take the first state to the second. -/
inductive NoneHolds (c : RenderContext χ) : List Test → RenderState χ → RenderState χ → Prop
  | nil (s : RenderState χ) : NoneHolds c [] s s
  | cons {test : Test} {tests : List Test} {s t u : RenderState χ}
      (first : ComesTo (testAt c test) s (.ok (.ok false, t))) (rest : NoneHolds c tests t u) :
      NoneHolds c (test :: tests) s u

/-! ## One branch and its alternative -/

section

variable {test : Test} {yes no : List Node} {s t : RenderState χ}
  {r : Except Stop (Except Error Unit × RenderState χ)}

theorem render_single (c : RenderContext χ) (depth : Nat) (node : Node) (s : RenderState χ) :
    render c (depth + 1) [node] s = renderNode c (render c depth) node s := by
  rw [render, renderAll, bind_run]
  rcases renderNode c (render c depth) node s with reason | ⟨e | _, t⟩ <;> rfl

theorem render_branch (c : RenderContext χ) (depth : Nat) (test : Test) (yes no : List Node)
    (s : RenderState χ) :
    render c (depth + 1) [.branch test yes no] s =
      andThen (testAt c test depth s) fun
        | .error e, t => .ok (.error e, t)
        | .ok holds, t => render c depth (if holds then yes else no) t := by
  rw [render_single, renderNode, bind_run]
  congr
  funext result t
  rcases result with e | _ | _ <;> rfl

/-- The test decides. If it breaks off, so does everything. -/
theorem comesTo_branch :
    ComesTo (nodesAt c [.branch test yes no]) s r ↔
      (∃ holds t, ComesTo (testAt c test) s (.ok (.ok holds, t)) ∧
        ComesTo (nodesAt c (if holds then yes else no)) t r) ∨
      (ComesTo (testAt c test) s (.error .aborted) ∧ r = .error .aborted) := by
  constructor
  · rintro ⟨ends, depth, run⟩
    cases depth with
    | zero => exact (ends run.symm).elim
    | succ depth =>
        rw [nodesAt, render_branch] at run
        cases tested : testAt c test depth s with
        | error reason =>
            rw [tested] at run
            cases run
            cases reason with
            | tooDeep => exact (ends rfl).elim
            | aborted => exact .inr ⟨⟨nofun, depth, tested⟩, rfl⟩
        | ok last =>
            obtain ⟨e | holds, t⟩ := last
            · exact (evalTest_fails c _ test s e t tested).elim
            · rw [tested] at run
              exact .inl ⟨holds, t, ⟨nofun, depth, tested⟩, ends, depth, run⟩
  · rintro (⟨holds, t, tested, rendered⟩ | ⟨tested, rfl⟩)
    · obtain ⟨d, hd⟩ := tested.eventually (rising_evalTest c test)
      obtain ⟨d', hd'⟩ := rendered.eventually (rising_render c _)
      -- Test and branch may need different depths; the greater serves both.
      refine ⟨rendered.1, max d d' + 1, ?_⟩
      rw [nodesAt, render_branch, hd _ (Nat.le_max_left ..)]
      exact hd' _ (Nat.le_max_right ..)
    · obtain ⟨-, depth, tested⟩ := tested
      refine ⟨nofun, depth + 1, ?_⟩
      rw [nodesAt, render_branch, tested]
      rfl

/-- Where the test comes to a result, the tag is no more than the nodes that it selects. -/
theorem comesTo_branch_of_test {holds : Bool}
    (tested : ComesTo (testAt c test) s (.ok (.ok holds, t))) :
    ComesTo (nodesAt c [.branch test yes no]) s r ↔
      ComesTo (nodesAt c (if holds then yes else no)) t r := by
  rw [comesTo_branch]
  constructor
  · rintro (⟨_, _, tested', rendered⟩ | ⟨tested', -⟩)
    · cases tested.unique tested' (rising_evalTest c test)
      exact rendered
    · cases tested.unique tested' (rising_evalTest c test)
  · exact fun rendered => .inl ⟨holds, t, tested, rendered⟩

end

/-! ## All branches -/

/-- The nodes that stand for these branches: an if tag, or the alternative if no branch is left. -/
def branchesOf (otherwise : Option (List Node)) : List Clause → List Node
  | [] => otherwise.getD []
  | first :: others =>
    [(Opener.branch first.test).close (Opener.branchNodes first.body others otherwise)]

theorem branchesOf_cons {first : Clause} (whole : first.IsWhole) (others : List Clause)
    (otherwise : Option (List Node)) :
    branchesOf otherwise (first :: others) =
      [.branch first.test first.body (branchesOf otherwise others)] := by
  cases others with
  | nil => exact congrArg (fun node => [node]) (Opener.close_branchNodes_nil whole _ _)
  | cons clause others =>
      exact congrArg (fun node => [node]) (Opener.close_branchNodes_cons whole _ clause others _)

section

variable {before behind rest clauses : List Clause} {clause : Clause}
  {otherwise : Option (List Node)} {s t u : RenderState χ}
  {r : Except Stop (Except Error Unit × RenderState χ)}

/-- Branches whose tests do not hold are passed over. -/
theorem comesTo_passed (whole : ∀ branch ∈ before ++ rest, branch.IsWhole)
    (passed : NoneHolds c (before.map Clause.test) s t) :
    ComesTo (nodesAt c (branchesOf otherwise (before ++ rest))) s r ↔
      ComesTo (nodesAt c (branchesOf otherwise rest)) t r := by
  induction before generalizing s with
  | nil =>
      cases passed
      rfl
  | cons first before ih =>
      obtain ⟨hfirst, hothers⟩ := List.forall_mem_cons.mp whole
      cases passed with
      | cons tested passed =>
          rw [List.cons_append, branchesOf_cons hfirst, comesTo_branch_of_test tested]
          exact ih hothers passed

theorem comesTo_chosen (whole : ∀ branch ∈ before ++ clause :: behind, branch.IsWhole)
    (passed : NoneHolds c (before.map Clause.test) s t)
    (chosen : ComesTo (testAt c clause.test) t (.ok (.ok true, u))) :
    ComesTo (nodesAt c (branchesOf otherwise (before ++ clause :: behind))) s r ↔
      ComesTo (nodesAt c clause.body) u r := by
  have hclause : clause.IsWhole := whole clause (List.mem_append_right _ List.mem_cons_self)
  rw [comesTo_passed whole passed, branchesOf_cons hclause, comesTo_branch_of_test chosen]
  rfl

theorem comesTo_stopped (whole : ∀ branch ∈ before ++ clause :: behind, branch.IsWhole)
    (passed : NoneHolds c (before.map Clause.test) s t)
    (stopped : ComesTo (testAt c clause.test) t (.error .aborted)) :
    ComesTo (nodesAt c (branchesOf otherwise (before ++ clause :: behind))) s r ↔
      r = .error .aborted := by
  have hclause : clause.IsWhole := whole clause (List.mem_append_right _ List.mem_cons_self)
  rw [comesTo_passed whole passed, branchesOf_cons hclause, comesTo_branch]
  constructor
  · rintro (⟨_, _, tested, -⟩ | ⟨-, rfl⟩)
    · cases stopped.unique tested (rising_evalTest c clause.test)
    · rfl
  · exact fun aborted => .inr ⟨stopped, aborted⟩

/-- How the tests can turn out: none of them holds, or some test is the first that does anything
else. -/
inductive TestsEnd (c : RenderContext χ) (clauses : List Clause) (s : RenderState χ) : Prop
  | chosen (before behind : List Clause) {clause : Clause} {t u : RenderState χ}
      (split : clauses = before ++ clause :: behind)
      (passed : NoneHolds c (before.map Clause.test) s t)
      (holds : ComesTo (testAt c clause.test) t (.ok (.ok true, u)))
  | none {t : RenderState χ} (passed : NoneHolds c (clauses.map Clause.test) s t)
  | stopped (before behind : List Clause) {clause : Clause} {t : RenderState χ}
      (split : clauses = before ++ clause :: behind)
      (passed : NoneHolds c (before.map Clause.test) s t)
      (aborted : ComesTo (testAt c clause.test) t (.error .aborted))

theorem TestsEnd.cons (failed : ComesTo (testAt c clause.test) s (.ok (.ok false, t)))
    (h : TestsEnd c clauses t) : TestsEnd c (clause :: clauses) s := by
  cases h with
  | chosen before behind split passed holds =>
      exact .chosen (clause :: before) behind (congrArg _ split) (.cons failed passed) holds
  | none passed => exact .none (.cons failed passed)
  | stopped before behind split passed aborted =>
      exact .stopped (clause :: before) behind (congrArg _ split) (.cons failed passed) aborted

theorem testsEnd_of_comesTo (whole : ∀ branch ∈ clauses, branch.IsWhole)
    (h : ComesTo (nodesAt c (branchesOf otherwise clauses)) s r) : TestsEnd c clauses s := by
  induction clauses generalizing s with
  | nil => exact .none (.nil s)
  | cons first others ih =>
      obtain ⟨hfirst, hothers⟩ := List.forall_mem_cons.mp whole
      rw [branchesOf_cons hfirst, comesTo_branch] at h
      rcases h with ⟨_ | _, t, tested, rendered⟩ | ⟨aborted, -⟩
      · exact (ih hothers rendered).cons tested
      · exact .chosen [] others rfl (.nil s) tested
      · exact .stopped [] others rfl (.nil s) aborted

end

/-- Rendering an if tag is rendering the nodes behind the first test that holds, from the state in
which that test leaves the render, and nothing else: neither the branches behind it nor their tests
matter. If no test holds it is rendering the nodes behind `else`. A test that breaks off breaks off
the render. There is no other way for it to come to a result. -/
theorem branch_renders_first (c : RenderContext χ) {first : Clause} {others : List Clause}
    (whole : ∀ branch ∈ first :: others, branch.IsWhole) (otherwise : Option (List Node))
    (s : RenderState χ) :
    let node :=
      (Opener.branch first.test).close (Opener.branchNodes first.body others otherwise)
    (∀ before clause behind t u, first :: others = before ++ clause :: behind →
      NoneHolds c (before.map Clause.test) s t →
      ComesTo (testAt c clause.test) t (.ok (.ok true, u)) →
      ∀ r, ComesTo (nodesAt c [node]) s r ↔ ComesTo (nodesAt c clause.body) u r) ∧
    (∀ u, NoneHolds c ((first :: others).map Clause.test) s u →
      ∀ r, ComesTo (nodesAt c [node]) s r ↔ ComesTo (nodesAt c (otherwise.getD [])) u r) ∧
    (∀ before clause behind t, first :: others = before ++ clause :: behind →
      NoneHolds c (before.map Clause.test) s t →
      ComesTo (testAt c clause.test) t (.error .aborted) →
      ∀ r, ComesTo (nodesAt c [node]) s r ↔ r = .error .aborted) ∧
    ∀ r, ComesTo (nodesAt c [node]) s r → TestsEnd c (first :: others) s := by
  intro node
  have sealed : [node] = branchesOf otherwise (first :: others) := rfl
  rw [sealed]
  refine ⟨?chosen, ?none, ?stopped, fun r => testsEnd_of_comesTo whole⟩
  case chosen =>
    intro before clause behind t u split passed holds r
    rw [split] at whole ⊢
    exact comesTo_chosen whole passed holds
  case none =>
    intro u passed r
    rw [← List.append_nil (first :: others)] at whole ⊢
    exact comesTo_passed whole passed
  case stopped =>
    intro before clause behind t split passed aborted r
    rw [split] at whole ⊢
    exact comesTo_stopped whole passed aborted

/-- The test of a constant. -/
def constantTest (b : Bool) : Test := ⟨[[⟨false, .literal (.bool b), none⟩]]⟩

/-- The second of three branches is chosen; it encloses a separator that is not its own. -/
theorem branch_renders_first_elif :
    let c := (Program.mk 0 none "" [] []).context (.ofDelimiters .standard)
      ⟨.empty, ⟨1970, 1, 1, 0, 0, 0, 0, 0⟩, []⟩
    let s := Program.startState (.ofDelimiters .standard) .initial []
    let first : Clause := ⟨constantTest false, [.text "a"]⟩
    let second : Clause := ⟨constantTest true, [.spaceless [.elseMark, .text "b"]]⟩
    let third : Clause := ⟨constantTest true, [.text "c"]⟩
    (∀ branch ∈ [first, second, third], branch.IsWhole) ∧
      ∀ r, ComesTo (nodesAt c [(Opener.branch first.test).close
          (Opener.branchNodes first.body [second, third] (some [.text "d"]))]) s r ↔
        ComesTo (nodesAt c second.body) s r := by
  intro c s first second third
  have whole : ∀ branch ∈ [first, second, third], branch.IsWhole := by decide +kernel
  have fails : NoneHolds c [first.test] s s := .cons ⟨nofun, 0, rfl⟩ (.nil s)
  have holds : ComesTo (testAt c second.test) s (.ok (.ok true, s)) := ⟨nofun, 0, rfl⟩
  have ⟨chosen, _⟩ := branch_renders_first c whole (some [.text "d"]) s
  exact ⟨whole, chosen [first] second [third] s s rfl fails holds⟩

end Render

end TextTemplate
