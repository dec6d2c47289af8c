import TextTemplate.Proofs.Render.Preserved

/-!
# What a render leaves as it was

Whatever is rendered or evaluated, with success or with an error, the scopes and the include depth
are afterwards what they were, the blocks around the place wait with the definitions they had, and
the text so far is only continued. The innermost block may have used up definitions by `super`, and
cycles may have been met for the first time. A condition that swallows an error therefore leaves
nothing behind.
-/

namespace TextTemplate

namespace Render

/-- `after` is `before` with some definitions of the innermost block taken off the derived end. -/
def Shortened : List (List Block) → List (List Block) → Prop
  | [], after => after = []
  | chain :: chains, after => ∃ left, left <+: chain ∧ after = left :: chains

theorem Shortened.refl : ∀ chains : List (List Block), Shortened chains chains
  | [] => rfl
  | chain :: _ => ⟨chain, List.prefix_rfl, rfl⟩

theorem Shortened.trans : ∀ {before middle after : List (List Block)},
    Shortened before middle → Shortened middle after → Shortened before after
  | [], _, _, rfl, h => h
  | _ :: _, _, _, ⟨_, hleft, rfl⟩, ⟨left, h, rfl⟩ => ⟨left, h.trans hleft, rfl⟩

/-- What is the same in two states of a render or has only grown. -/
structure Frame (before after : RenderState (List Block)) : Prop where
  scopes : after.scopes = before.scopes
  includeDepth : after.includeDepth = before.includeDepth
  chains : Shortened before.chains after.chains
  cycles : ∀ id, (findCycle before.cycles id).isSome → (findCycle after.cycles id).isSome
  out : ∃ text, after.out = before.out ++ text

namespace Frame

variable {s t u : RenderState (List Block)}

theorem refl (s : RenderState (List Block)) : Frame s s :=
  ⟨rfl, rfl, .refl _, fun _ h => h, "", by simp⟩

theorem trans (h : Frame s t) (k : Frame t u) : Frame s u where
  scopes := k.scopes.trans h.scopes
  includeDepth := k.includeDepth.trans h.includeDepth
  chains := h.chains.trans k.chains
  cycles id found := k.cycles id (h.cycles id found)
  out := by
    obtain ⟨first, hfirst⟩ := h.out
    obtain ⟨second, hsecond⟩ := k.out
    exact ⟨first ++ second, by rw [hsecond, hfirst, String.append_assoc]⟩

/-- Every step keeps the frame. What is changed for a while differs inside only in the part that is
put back at the end. -/
theorem invariant {c : RenderContext (List Block)} {registry : NameMap (List Block)}
    (hc : c.blocks = .ofRegistry registry) : Invariant c Frame where
  refl := refl
  trans := trans
  write s text := { refl s with out := ⟨text, rfl⟩ }
  newIdentity s := { refl s with }
  putCycle s id state := by
    refine { refl s with cycles := fun other found => ?_ }
    by_cases same : id = other
    · subst same
      simp [findCycle_setCycle_self]
    · rwa [findCycle_setCycle_of_ne _ _ same]
  load s names := { refl s with }
  next s chain chains hchains := by
    refine { refl s with chains := ?_ }
    rw [hchains, hc]
    exact ⟨chain.dropLast, List.dropLast_prefix _, rfl⟩
  withScope s t scope frame := { frame with scopes := by simp [frame.scopes] }
  withChain s t chain frame := by
    obtain ⟨left, _, hchains⟩ := frame.chains
    exact { frame with chains := by simpa [hchains] using Shortened.refl s.chains }
  withInclude s t frame := { frame with includeDepth := by simp [frame.includeDepth] }
  captured s t frame := { frame with out := ⟨"", by simp⟩ }

end Frame

/-- Wherever the computation ends with a result, the state is framed. -/
abbrev Framed {α : Type} (act : RenderM (List Block) α) : Prop := Preserves Frame act

/-- Every call of the renderer that ends, with success or with an error, leaves the state framed:
rendering nodes, a single node or the next definition of a block, and evaluating an expression or a
test. It does so with every loader and every limit, and in every state. -/
theorem render_leaves_frame (load : List String → MemoryM Program)
    (mayInclude : Nat → Except Cause Unit) (world : World) (registry : NameMap (List Block))
    (depth : Nat) :
    let c : RenderContext (List Block) := { load, mayInclude, world, blocks := .ofRegistry registry }
    (∀ nodes, Framed (render c depth nodes)) ∧
    (∀ node, Framed (renderNode c (render c depth) node)) ∧
    Framed (renderSuper c (render c depth)) ∧
    (∀ e, Framed (eval c (render c depth) e)) ∧
    (∀ test, Framed (evalTest c (render c depth) test)) := by
  intro c
  have hR : Invariant c Frame := Frame.invariant rfl
  have hrender : ∀ nodes, Framed (render c depth nodes) := Preserves.render hR depth
  have steps := Preserves.nodeSteps hR hrender
  exact ⟨hrender, Preserves.renderNode hR hrender,
    Preserves.captured hR (Preserves.renderNext hR hrender),
    fun e => Preserves.of_uniform hR (steps.eval e) (),
    fun test => Preserves.of_uniform hR (steps.evalTest test) ()⟩

end Render

end TextTemplate
