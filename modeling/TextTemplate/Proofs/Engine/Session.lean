import TextTemplate.Proofs.Engine.Numbering
import TextTemplate.Proofs.Render.Preserved
import TextTemplate.Render.Template

/-!
# Sessions

An engine and a memory get into one state after another: the engine is set up, templates are added,
compiled, loaded and rendered, in any order and with success or not, while the files may change. The
states in the middle of compiling a template count as well. In all of them every program that the
engine knows is formed.
-/

namespace TextTemplate

/-- The states that an engine and a memory can get into. -/
inductive Session : Engine → Memory → Prop
  | start (delimiters : Delimiters) (nextId : Nat) : Session (.ofDelimiters delimiters) ⟨nextId, []⟩
  | addFilter {e m} (h : Session e m) (name : String) (filter : Filter) :
      Session (e.addFilter name filter) m
  | addBuiltin {e m} (h : Session e m) (name : String) (value : Value) :
      Session (e.addBuiltin name value) m
  | setLimit {e m} (h : Session e m) (limit : Nat) : Session { e with maxIncludeDepth := limit } m
  | setLoader {e m} (h : Session e m) {loader : Loader} {e' m'}
      (run : e.setLoader loader m = (.ok e', m')) : Session e' m'
  | addTemplate {e m} (h : Session e m) {files : FileSystem} {name source : String} {e' m'}
      (run : e.addTemplate files name source m = (.ok e', m')) : Session e' m'
  | compile {e m} (h : Session e m) (files : FileSystem) (depth : Nat) (source : String)
      (name : Option String) : Session e (e.compileWithin files depth source name m).2
  | load {e m} (h : Session e m) (files : FileSystem) (depth : Nat) (names : List String) :
      Session e (e.loadWith files (e.compileWithin files depth) names m).2
  | draw {e m} (h : Session e m) : Session e m.drawn
  | render {e m} (h : Session e m) (p : Program) (world : World) (depth : Nat) (data : Value) :
      Session e (p.renderWithin e world depth m data).2

/-- A render changes the memory only by loading. -/
theorem Render.memory_invariant {χ : Type} {c : RenderContext χ} {I : Memory → Prop}
    (loads : ∀ {m} names, I m → I (c.load names m).2) :
    Invariant c fun s t => I s.memory → I t.memory where
  refl _ := id
  trans h k hs := k (h hs)
  write _ _ := id
  newIdentity _ := id
  putCycle _ _ _ := id
  load _ names hs := loads names hs
  next _ _ _ _ := id
  withScope _ _ _ h := h
  withChain _ _ _ h := h
  withInclude _ _ h := h
  captured _ _ h := h

/-- What holds of the memory while templates are loaded holds after rendering, also if that fails. -/
theorem Program.renderWithin_keeps {e : Engine} {world : World} {I : Memory → Prop}
    (loads : ∀ {m} names, I m → I (e.load world.files names m).2) {m : Memory} (hm : I m) (p : Program)
    (depth : Nat) (data : Value) : I (p.renderWithin e world depth m data).2 := by
  unfold renderWithin renderIn
  cases dataScope data with
  | error error => exact hm
  | ok data =>
      simp only
      have preserved := Render.Preserves.render
        (Render.memory_invariant (c := p.context e world) (I := I) loads) depth p.root
      rcases hrun : Render.render (p.context e world) depth p.root (startState e m data) with
        reason | ⟨result, s⟩
      · exact hm
      · have kept : I s.memory := preserved _ _ _ hrun hm
        cases result <;> exact kept

theorem Program.renderWithin_grown {e : Engine} {held : Program → Prop} {pending : Nat → Prop}
    {m : Memory} (hs : Sound e held pending m) (p : Program) (world : World) (depth : Nat)
    (data : Value) : Grown e held pending m (p.renderWithin e world depth m data).2 := by
  refine renderWithin_keeps (I := Grown e held pending m) (fun names h => ?_) (.refl hs) p depth data
  exact h.trans (Engine.load_delivers world.files held pending names _ h.sound).toGrown

/-- What adding a template does that succeeds. -/
theorem Engine.addTemplate_ok {e e' : Engine} {files : FileSystem} {name source : String}
    {m m' : Memory} (run : e.addTemplate files name source m = (.ok e', m')) :
    ∃ p, e.compileWithin files e.maxIncludeDepth source (some name) m = (.ok p, m') ∧
      e' = { e with templates := e.templates.insert name p } := by
  unfold addTemplate at run
  rw [MemoryM.bind_run, compile] at run
  rcases hp : e.compileWithin files e.maxIncludeDepth source (some name) m with ⟨error | p, n⟩
  · rw [hp] at run
    cases run
  · rw [hp] at run
    cases run
    exact ⟨p, rfl, rfl⟩

/-- The only program that becomes known is the one that is added. -/
theorem Known.of_added {e : Engine} {held : Program → Prop} {m : Memory} {name : String}
    {p q : Program} (h : Known { e with templates := e.templates.insert name p } held m q) :
    q = p ∨ Known e held m q := by
  rcases h with h | ⟨other, h⟩ | h
  · exact .inr (.inl h)
  · rcases NameMap.of_find?_insert h with ⟨-, same⟩ | h
    · exact .inl same.symm
    · exact .inr (.inr (.inl ⟨other, h⟩))
  · exact .inr (.inr (.inr h))

/-- An engine that knows no other programs is sound where the first one is. -/
theorem Sound.of_known {e e' : Engine} {held held' : Program → Prop} {pending : Nat → Prop}
    {m m' : Memory} (h : Sound e held pending m) (hnext : m.nextId = m'.nextId)
    (hknown : ∀ p, Known e' held' m' p → Known e held m p) : Sound e' held' pending m' where
  below := hnext ▸ h.below
  formed hp := hnext ▸ h.formed (hknown _ hp)
  same hp hq := h.same (hknown _ hp) (hknown _ hq)

namespace Session

theorem sound {e : Engine} {m : Memory} (h : Session e m) :
    Sound e (fun _ => False) (fun _ => False) m := by
  induction h with
  | start delimiters nextId =>
      have unknown : ∀ p, ¬ Known (.ofDelimiters delimiters) (fun _ => False) ⟨nextId, []⟩ p := by
        rintro p (h | ⟨name, h⟩ | ⟨name, entry, h, -⟩)
        · exact h
        · cases h
        · cases h
      exact ⟨nofun, fun hp => absurd hp (unknown _), fun hp => absurd hp (unknown _)⟩
  | addFilter _ name filter ih => exact ih.of_known rfl fun _ => id
  | addBuiltin _ name value ih => exact ih.of_known rfl fun _ => id
  | setLimit _ limit ih => exact ih.of_known rfl fun _ => id
  | setLoader _ run ih =>
      cases run
      refine ih.of_known rfl ?_
      -- Setting a loader empties the cache: less is known than before.
      rintro p (h | h | ⟨name, entry, h, -⟩)
      · exact .inl h
      · exact .inr (.inl h)
      · cases h
  | @addTemplate e m h files name source e' m' run ih =>
      obtain ⟨p, hp, rfl⟩ := Engine.addTemplate_ok run
      have delivered := Engine.compileWithin_delivers files e.maxIncludeDepth _ _ source (some name) m ih
      rw [hp] at delivered
      refine (delivered.holding rfl).of_known rfl fun q hq => ?_
      rcases hq.of_added with same | known
      · exact .inl (.inr same)
      · exact known.mono fun _ => .inl
  | compile _ files depth source name ih =>
      exact (Engine.compileWithin_delivers files depth _ _ source name _ ih).sound
  | load _ files depth names ih =>
      exact (Engine.loadWith_delivers (Engine.compileWithin_delivers files depth) files _ _ names _
        ih).sound
  | draw _ ih => exact (Grown.drawn ih).sound
  | render _ p world depth data ih => exact (p.renderWithin_grown ih world depth data).sound

/-- What is compiled in a session is sound together with all that the engine knows. -/
theorem holding {e : Engine} {m : Memory} (h : Session e m) {files : FileSystem} {depth : Nat}
    {source : String} {name : Option String} {p : Program} {m' : Memory}
    (run : e.compileWithin files depth source name m = (.ok p, m')) :
    Sound e (fun q => q = p) (fun _ => False) m' := by
  have delivered := Engine.compileWithin_delivers files depth _ _ source name m h.sound
  rw [run] at delivered
  exact (delivered.holding rfl).mono (fun _ => .inr) fun _ => id

theorem formed {e : Engine} {m : Memory} (h : Session e m) {files : FileSystem} {depth : Nat}
    {source : String} {name : Option String} {p : Program} {m' : Memory}
    (run : e.compileWithin files depth source name m = (.ok p, m')) :
    Formed (fun _ => False) m'.nextId p :=
  (h.holding run).formed (.inl rfl)

/-- What is loaded in a session is formed. -/
theorem loaded_formed {e : Engine} {m : Memory} (h : Session e m) {files : FileSystem} {depth : Nat}
    {names : List String} {p : Program} {m' : Memory}
    (run : e.loadWith files (e.compileWithin files depth) names m = (.ok p, m')) :
    Formed (fun _ => False) m'.nextId p := by
  have delivered := Engine.loadWith_delivers (Engine.compileWithin_delivers files depth) files _ _ names m
    h.sound
  rw [run] at delivered
  exact (delivered.holding rfl).formed (.inl (.inr rfl))

end Session

end TextTemplate
