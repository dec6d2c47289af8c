import TextTemplate.Proofs.Filter.Escaping
import TextTemplate.Proofs.Filter.Spaceless
import TextTemplate.Proofs.Render.Branches
import TextTemplate.Proofs.Render.Silent

/-!
# Markup in renders

What the tags for markup do to a render. An escaped print tag differs from a plain one in the text that
it writes and in nothing else (`escaped_print_lossless`): evaluating writes nothing by itself, so the text
of the tag is all that is escaped. A spaceless tag inside another one does all there is to do
(`spaceless_removes_gaps`).
-/

namespace TextTemplate

namespace Render

variable {χ : Type}

/-! ## Print tags -/

/-- What a print tag comes to from the same state, plain and escaped, with what its value comes to there.
Both print the text of the value, the one as it is and the other escaped, or both fail with the error of
the value, or neither has a result; all else in the state is as the value leaves it. -/
inductive PrintedAlike (s : RenderState χ) :
    Except Stop (Except Error Value × RenderState χ) →
    Except Stop (Except Error Unit × RenderState χ) →
    Except Stop (Except Error Unit × RenderState χ) → Prop
  | printed (value : Value) (t : RenderState χ) (out : t.out = s.out) :
      PrintedAlike s (.ok (.ok value, t))
        (.ok (.ok (), { t with out := s.out ++ String.ofList value.displayChars }))
        (.ok (.ok (), { t with out := s.out ++ String.ofList (Markup.escape value.displayChars) }))
  | failed (e : Error) (t : RenderState χ) (out : t.out = s.out) :
      PrintedAlike s (.ok (.error e, t)) (.ok (.error e, t)) (.ok (.error e, t))
  | stopped (reason : Stop) : PrintedAlike s (.error reason) (.error reason) (.error reason)

theorem render_print (c : RenderContext χ) (depth : Nat) (escape : Bool) (body : PrintBody)
    (s : RenderState χ) :
    render c (depth + 1) [.print escape body] s =
      andThen (evalBody c (render c depth) body s) fun
        | .error e, t => .ok (.error e, t)
        | .ok value, t =>
          let text := value.displayChars
          .ok (.ok (), { t with
            out := t.out ++ String.ofList (if escape then Markup.escape text else text) }) := by
  rw [render_single, renderNode, renderPrint, bind_run]
  congr
  funext result t
  cases result <;> rfl

theorem printedAlike (c : RenderContext χ) (depth : Nat) (body : PrintBody) (s : RenderState χ) :
    PrintedAlike s (evalBody c (render c depth) body s) (render c (depth + 1) [.print false body] s)
      (render c (depth + 1) [.print true body] s) := by
  rw [render_print, render_print]
  cases run : evalBody c (render c depth) body s with
  | error reason => exact .stopped reason
  | ok last =>
      obtain ⟨result, t⟩ := last
      have out : t.out = s.out := Silent.evalBody c _ body s result t run
      cases result with
      | error e => exact .failed e t out
      | ok value =>
          simp only [andThen, out]
          exact .printed value t out

/-- Escaped or not, a print tag is read in the same way, with the same errors. From any state it prints the
escaped text of its value where the plain one prints the text, and fails with the same error where that one
fails; without any depth neither has a result. An escaped text has none of the characters `<`, `>`, `"`
and `'`, each `&` in it starts an entity, and decoding the entities in one pass gives the text back. -/
theorem escaped_print_lossless (filters : NameMap Filter) (c : RenderContext χ) :
    (∀ escape content span, (Token.mk (.print escape) content span).reading filters =
      (parsePrint filters content).map fun body => .action (.add (.print escape body))) ∧
    (∀ depth body s, PrintedAlike s (evalBody c (render c depth) body s)
      (render c (depth + 1) [.print false body] s) (render c (depth + 1) [.print true body] s)) ∧
    (∀ escape body s, render c 0 [.print escape body] s = .error .tooDeep) ∧
    ∀ text,
      (∀ d ∈ Markup.escape text, d ∉ ['<', '>', '"', '\'']) ∧
      (∀ front behind, Markup.escape text = front ++ '&' :: behind →
        ∃ d ∈ Markup.special, Markup.entity d <+: '&' :: behind) ∧
      Markup.decode (Markup.escape text) = text := by
  refine ⟨?read, printedAlike c, fun _ _ _ => rfl,
    fun text => ⟨?safe, ?entities, Markup.decode_escape text⟩⟩
  case read =>
    intro escape content span
    unfold Token.reading
    cases parsePrint filters content <;> rfl
  case safe =>
    intro d mem other
    have amp : d = '&' := Markup.eq_amp_of_mem_escape mem (List.mem_cons_of_mem _ other)
    subst amp
    exact absurd other (by decide)
  case entities =>
    intro front behind split
    exact Markup.entity_prefix_of_escape split

/-- The tag prints a text that has an entity and a tag in it already. -/
theorem escaped_print_lossless_literal :
    let c := (Program.mk 0 none "" [] []).context (.ofDelimiters .standard)
      ⟨.empty, ⟨1970, 1, 1, 0, 0, 0, 0, 0⟩, []⟩
    let s := Program.startState (.ofDelimiters .standard) .initial []
    let body : PrintBody := .chain [.literal (.string "<&lt;")]
    PrintedAlike s (evalBody c (render c 0) body s) (render c 1 [.print false body] s)
        (render c 1 [.print true body] s) ∧
      Markup.escape ['<', '&', 'l', 't', ';'] =
        ['&', 'l', 't', ';'] ++ '&' :: ['a', 'm', 'p', ';', 'l', 't', ';'] ∧
      ∃ d ∈ Markup.special, Markup.entity d <+: '&' :: ['a', 'm', 'p', ';', 'l', 't', ';'] := by
  intro c s body
  obtain ⟨-, alike, -, texts⟩ := escaped_print_lossless Filter.standard c
  have split : Markup.escape ['<', '&', 'l', 't', ';'] =
      ['&', 'l', 't', ';'] ++ '&' :: ['a', 'm', 'p', ';', 'l', 't', ';'] := rfl
  exact ⟨alike 0 body s, split, (texts _).2.1 _ _ split⟩

/-! ## Spaceless tags -/

theorem render_spaceless (c : RenderContext χ) (depth : Nat) (body : List Node) (s : RenderState χ) :
    render c (depth + 1) [.spaceless body] s =
      andThen (render c depth body { s with out := "" }) fun
        | .error e, t => .ok (.error e, { t with out := s.out })
        | .ok _, t =>
          .ok (.ok (), { t with
            out := s.out ++ String.ofList (Text.trim (Markup.spaceless t.out.toList)) }) := by
  rw [render_single, renderNode, bind_run, captured_run]
  rcases render c depth body { s with out := "" } with reason | ⟨e | _, t⟩ <;> rfl

/-- The tag outside changes nothing; it only takes one level more. -/
theorem render_nested_spaceless (c : RenderContext χ) (depth : Nat) (body : List Node)
    (s : RenderState χ) :
    render c (depth + 2) [.spaceless [.spaceless body]] s =
      render c (depth + 1) [.spaceless body] s := by
  rw [render_spaceless, render_spaceless, render_spaceless]
  rcases render c depth body { s with out := "" } with reason | ⟨e | _, t⟩
  · rfl
  · rfl
  · simp only [andThen, String.empty_append, String.toList_ofList, Markup.trim_spaceless_idem]

/-- What spaceless removes from a text are its gaps, the runs of blanks directly between `>` and `<`, and
nothing else; this comes to replacing the matches one after the other from left to right. No gap is left,
removing the gaps a second time changes nothing, and a spaceless tag with nothing but a spaceless tag
inside renders what that one renders alone. -/
theorem spaceless_removes_gaps (text : List Char) (c : RenderContext χ) (body : List Node)
    (s : RenderState χ) (r : Except Stop (Except Error Unit × RenderState χ)) :
    Markup.spaceless text = (text.zipIdx.filter fun e => ¬ Markup.InGap text e.2).map Prod.fst ∧
    Markup.Replaced text (Markup.spaceless text) ∧
    (∀ front gap behind, ¬ Markup.IsGap (Markup.spaceless text) front gap behind) ∧
    Markup.spaceless (Markup.spaceless text) = Markup.spaceless text ∧
    (ComesTo (nodesAt c [Opener.spaceless.close [Opener.spaceless.close body]]) s r ↔
      ComesTo (nodesAt c [Opener.spaceless.close body]) s r) := by
  refine ⟨Markup.spaceless_eq_filter text, Markup.replaced_spaceless text,
    Markup.spaceless_no_gap text, Markup.spaceless_spaceless text, ?_, ?_⟩
  · rintro ⟨ends, depth, run⟩
    match depth with
    | 0 | 1 => exact absurd run.symm ends
    | depth + 2 => exact ⟨ends, depth + 1, (render_nested_spaceless c depth body s).symm.trans run⟩
  · rintro ⟨ends, depth, run⟩
    match depth with
    | 0 => exact absurd run.symm ends
    | depth + 1 => exact ⟨ends, depth + 2, (render_nested_spaceless c depth body s).trans run⟩

end Render

end TextTemplate
