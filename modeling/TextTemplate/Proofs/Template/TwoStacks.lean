import TextTemplate.Proofs.Template.Bracketing

/-!
# Two stacks

The nodes of open tags and the end tags that are expected may be kept on two stacks, where an end tag
takes the top of each. Nothing ties the two together but the order of the tokens: a tag is opened
because of the node it makes, its end tag is expected because of its name. `TwoStacks` reads templates
that way. It goes through the same states as an outline does, so the stacks stay in lockstep.
-/

namespace TextTemplate

/-- A template in the making, with two stacks: the open tags with the nodes they have collected, and
the end tags that are expected with the places of their tags. -/
structure TwoStacks where
  opened : List (Opener × List Node)
  expecting : List (String × Span)
  /-- The nodes outside of the open tags, the last one first. -/
  nodes : List Node

namespace TwoStacks

def start : TwoStacks := ⟨[], [], []⟩

def add (s : TwoStacks) (node : Node) : TwoStacks :=
  match s.opened with
  | [] => { s with nodes := node :: s.nodes }
  | (opener, children) :: opened => { s with opened := (opener, node :: children) :: opened }

/-- Takes the end tag that comes next off those that are expected. -/
def close (expecting : List (String × Span)) (endTag : String) :
    Except Cause (List (String × Span)) :=
  match expecting with
  | [] => .error (.unopened endTag)
  | (expected, _) :: expecting =>
    if expected = endTag then .ok expecting else .error (.mismatched expected endTag)

/-- What a token does to the two stacks. A tag is opened if an end tag is registered for its name,
whatever node it makes; an end tag that is expected while no tag is open is skipped. -/
def act (s : TwoStacks) (t : Token) : Action → Except Cause TwoStacks
  | .add node => .ok (s.add node)
  | .enter opener =>
    match t.role with
    | .opens endTag =>
      .ok { s with
        opened := (opener, []) :: s.opened, expecting := (endTag, t.span) :: s.expecting }
    | _ => .ok (s.add (opener.close []))
  | .leave endTag => do
    let expecting ← close s.expecting endTag
    match s.opened with
    | (opener, children) :: opened =>
      return { s with opened, expecting }.add (opener.close children.reverse)
    | [] => return { s with expecting }

/-- Reads one token after the other. -/
def run (r : TagReader) : TwoStacks → List Token → MemoryM TwoStacks
  | s, [] => pure s
  | s, t :: ts => do
    let action ← r.action t
    let s ← r.locate t (s.act t action)
    run r s ts

/-- The nodes of a template, read with two stacks. -/
def compile (r : TagReader) (ts : List Token) : MemoryM (List Node) := do
  let s ← run r start ts
  match s.expecting with
  | [] => return s.nodes.reverse
  | (endTag, place) :: _ => throw (Error.located (.unclosed endTag) r.source place)

/-- The stacks are equally high, and each expected end tag is that of the open tag at its height. -/
def Lockstep (s : TwoStacks) : Prop :=
  List.Forall₂ (fun tag expected => tag.1.endTag = expected.1) s.opened s.expecting

end TwoStacks

namespace Outline

/-- The two stacks that an outline comes to. -/
def twoStacks (o : Outline) : TwoStacks :=
  ⟨o.frames.map fun frame => (frame.opener, frame.children), o.missing, o.nodes⟩

theorem lockstep_twoStacks (o : Outline) : o.twoStacks.Lockstep := by
  rw [TwoStacks.Lockstep, twoStacks, missing, List.forall₂_map_left_iff, List.forall₂_map_right_iff]
  exact List.forall₂_same.mpr fun frame _ => rfl

theorem add_twoStacks (o : Outline) (node : Node) : o.twoStacks.add node = (o.add node).twoStacks := by
  obtain ⟨frames, nodes⟩ := o
  cases frames <;> rfl

/-- A token does the same to the outline and to its two stacks. -/
theorem act_twoStacks {t : Token} {action : Action} (h : t.role = action.role) (o : Outline) :
    o.twoStacks.act t action = (o.act t.span action).map twoStacks := by
  cases action with
  | add node => exact congrArg Except.ok (o.add_twoStacks node)
  | enter opener =>
      rw [TwoStacks.act, h]
      rfl
  | leave endTag =>
      obtain ⟨frames, nodes⟩ := o
      cases frames with
      | nil => rfl
      | cons frame frames =>
          rw [TwoStacks.act]
          change (if frame.opener.endTag = endTag then _ else _ : Except Cause _) >>= _ =
            (if frame.opener.endTag = endTag then _ else _ : Except Cause Outline).map twoStacks
          by_cases same : frame.opener.endTag = endTag
          · rw [if_pos same, if_pos same]
            exact congrArg Except.ok (add_twoStacks ⟨frames, nodes⟩ _)
          · rw [if_neg same, if_neg same]
            rfl

end Outline

namespace TwoStacks

variable {r : TagReader}

/-- Reading with two stacks goes through the two stacks of the outlines. -/
theorem run_eq (ts : List Token) (o : Outline) (m : Memory) :
    run r o.twoStacks ts m =
      match r.outline o ts m with
      | (.ok o, m) => (.ok o.twoStacks, m)
      | (.error e, m) => (.error e, m) := by
  induction ts generalizing o m with
  | nil => rfl
  | cons t ts ih =>
      rw [run, MemoryM.bind_run, TagReader.outline_cons]
      rcases hfirst : r.action t m with ⟨e | action, m₁⟩
      · rfl
      · simp only [MemoryM.bind_run]
        rw [o.act_twoStacks (TagReader.agrees_of_action hfirst).1]
        cases o.act t.span action with
        | error cause => rfl
        | ok o₁ => exact ih o₁ m₁

theorem exists_outline_of_run {ts : List Token} {s : TwoStacks} {m m' : Memory}
    (h : run r start ts m = (.ok s, m')) : ∃ o : Outline, s = o.twoStacks := by
  rw [show start = Outline.start.twoStacks from rfl, run_eq] at h
  split at h
  · cases h
    exact ⟨_, rfl⟩
  · cases h

/-- Two stacks come to the same nodes, errors and memory. -/
theorem compile_eq (ts : List Token) (m : Memory) : compile r ts m = r.nodes ts m := by
  rw [compile, MemoryM.bind_run, TagReader.nodes_run,
    show start = Outline.start.twoStacks from rfl, run_eq]
  rcases r.outline .start ts m with ⟨e | o, m₁⟩
  · rfl
  · obtain ⟨frames, nodes⟩ := o
    cases frames <;> rfl

end TwoStacks

namespace TagReader

/-- Reading accepts exactly the nested templates, fails with the first offence of any other, and
loses nothing. With two stacks it does the same, and the stacks stay in lockstep: whenever an end tag
is expected, a tag is open. -/
theorem nodes_nesting (r : TagReader) (m : Memory) (ts : List Token) (h : r.Constructs m ts) :
    ((∃ root m', r.nodes ts m = (.ok root, m')) ↔ Nested ts) ∧
      (∀ e, (∃ m', r.nodes ts m = (.error e, m')) ↔
        ∃ cause place, Offends ts cause place ∧ e = Error.located cause r.source place) ∧
      (∀ root m', r.nodes ts m = (.ok root, m') → r.Displays m ts (itemsOf root) m') ∧
      TwoStacks.compile r ts m = r.nodes ts m ∧
      ∀ before s m', TwoStacks.run r .start before m = (.ok s, m') →
        s.Lockstep ∧ (s.opened = [] → s.expecting = []) := by
  obtain ⟨accepts, fails⟩ := nodes_of_brackets h
  refine ⟨accepts, fails, fun root m' => displays_of_nodes, TwoStacks.compile_eq ts m, ?_⟩
  intro before s m' run
  obtain ⟨o, rfl⟩ := TwoStacks.exists_outline_of_run run
  have lockstep := o.lockstep_twoStacks
  refine ⟨lockstep, fun none => ?_⟩
  rw [TwoStacks.Lockstep, none] at lockstep
  exact List.forall₂_nil_left_iff.mp lockstep

end TagReader

example : (Cause.mismatched "endblock" "endtrim").message = "expecting [endblock], found [endtrim]" := rfl

/-! ## A block that is closed too late -/

namespace BlockInTrim

/-- The source of `tokens`. -/
def source : String := "\x7b% trim %\x7d\x7b% block x %\x7dA\x7b% endtrim %\x7d\x7b% endblock %\x7d"

def reader : TagReader := ⟨[], source, fun names m => (.error ⟨.notFound names, none, none⟩, m)⟩

def trim : Token := ⟨.statement, "trim".toList, ⟨0, 10⟩⟩
def block : Token := ⟨.statement, "block x".toList, ⟨10, 23⟩⟩
def text : Token := ⟨.text, "A".toList, ⟨23, 24⟩⟩
def endTrim : Token := ⟨.statement, "endtrim".toList, ⟨24, 37⟩⟩
def endBlock : Token := ⟨.statement, "endblock".toList, ⟨37, 51⟩⟩

def tokens : List Token := [trim, block, text, endTrim, endBlock]

theorem tokens_source : Delimiters.standard.tokens source.toList = tokens := by
  cbv

theorem constructs : reader.Constructs .initial tokens := by
  have reads : ∀ {t : Token} {m : Memory} {action : Action},
      t.reading [] = .ok (.action action) → reader.action t m = (.ok action, m) := by
    intro t m action h
    rw [TagReader.action_run, show reader.filters = [] from rfl, h]
  have readsBlock : reader.action block .initial = (.ok (.enter (.block 0 "x")), ⟨1, []⟩) := by
    rw [TagReader.action_run,
      show block.reading reader.filters = .ok (.block "x") from by cbv]
    rfl
  have trims : trim.reading [] = .ok (.action (.enter .trim)) := by cbv
  have closes : endTrim.reading [] = .ok (.action (.leave "endtrim")) := by cbv
  have closesBlock : endBlock.reading [] = .ok (.action (.leave "endblock")) := by cbv
  exact .made (reads trims) (.made readsBlock (.made (reads rfl) (.made (reads closes)
    (.made (reads closesBlock) (.nil _)))))

theorem unclosed : Unclosed [trim, block, text] [("endblock", ⟨10, 23⟩), ("endtrim", ⟨0, 10⟩)] :=
  .tag (.tag (.none .nil) (by cbv) .nil) (by cbv) (.stands rfl .nil)

end BlockInTrim

theorem TagReader.nodes_nesting_blockInTrim :
    Delimiters.standard.tokens BlockInTrim.source.toList = BlockInTrim.tokens ∧
      BlockInTrim.reader.Constructs .initial BlockInTrim.tokens ∧
      ∃ m', BlockInTrim.reader.nodes BlockInTrim.tokens .initial =
        (.error (Error.located (.mismatched "endblock" "endtrim") BlockInTrim.source ⟨24, 37⟩), m') := by
  have made := BlockInTrim.constructs
  have closes : BlockInTrim.endTrim.role = .closes "endtrim" := by cbv
  have offends : Offends BlockInTrim.tokens (.mismatched "endblock" "endtrim") ⟨24, 37⟩ :=
    .mismatched rfl BlockInTrim.unclosed closes (by decide)
  exact ⟨BlockInTrim.tokens_source, made,
    ((nodes_nesting _ _ _ made).2.1 _).mpr ⟨_, _, offends, rfl⟩⟩

end TextTemplate
