import TextTemplate.Proofs.Template.Alike
import TextTemplate.Proofs.Template.Reading

/-!
# Reading side by side

Two readers that load templates in different ways, but such that what they load is alike, read
templates that are alike. What they have in common is a `Twins`: how memories correspond, in a world
that grows while they read, and with which failures one of them may give up where the other goes on.
-/

namespace TextTemplate

/-- What two readers have in common. -/
structure Twins where
  World : Type
  Later : World → World → Prop
  like : World → Likeness
  memories : World → Memory → Memory → Prop
  /-- Failures of the left reader that say nothing about the right one. -/
  left : Cause → Prop
  /-- Failures of the right reader that say nothing about the left one. -/
  right : Cause → Prop
  /-- Whether errors have to be the same, with their places. -/
  exact : Prop

namespace Twins

variable {T : Twins} {α β γ δ : Type}

/-- Two outcomes that correspond. -/
def Corresponds (T : Twins) (w : T.World) (good : T.World → α → β → Prop) :
    Except Error α × Memory → Except Error β × Memory → Prop
  | (.ok a, m), (.ok b, m') => ∃ v, T.Later w v ∧ T.memories v m m' ∧ good v a b
  | (.error e, m), (.error e', m') =>
      T.left e.cause ∨ T.right e'.cause ∨ (T.exact → e = e') ∧ ∃ v, T.Later w v ∧ T.memories v m m'
  | (.error e, _), (.ok _, _) => T.left e.cause
  | (.ok _, _), (.error e', _) => T.right e'.cause

/-- Where the left reader gives up the right one may do what it likes. -/
theorem corresponds_of_left {w : T.World} {good : T.World → α → β → Prop} {e : Error} {m : Memory}
    (h : T.left e.cause) (r : Except Error β × Memory) : T.Corresponds w good (.error e, m) r := by
  rcases r with ⟨e' | b, m'⟩
  · exact .inl h
  · exact h

/-- What two readers need in order to stay together. -/
structure Lawful (T : Twins) (r r' : TagReader) : Prop where
  refl : ∀ w, T.Later w w
  trans : ∀ {u v w}, T.Later u v → T.Later v w → T.Later u w
  within : ∀ {v w}, T.Later v w → (T.like v).Within (T.like w)
  targets : ∀ w target, (T.like w).targets target target
  source : T.exact → r.source = r'.source
  draw : ∀ {w m m'}, T.memories w m m' → ∃ v, T.Later w v ∧ T.memories v m.drawn m'.drawn ∧
    (T.like v).ids m.nextId m'.nextId
  load : ∀ {w m m'}, T.memories w m m' → ∀ names,
    T.Corresponds w (fun v p p' => Alike (T.like v) p.root p'.root) (r.load names m)
      (r'.load names m')

/-- Two tokens that say the same. -/
structure SameSaying (T : Twins) (r r' : TagReader) (t t' : Token) : Prop where
  reading : t.reading r.filters = t'.reading r'.filters
  span : T.exact → t.span = t'.span

variable {r r' : TagReader} {w : T.World} {m m' : Memory}

theorem sameSaying_refl (hfilters : r.filters = r'.filters) (ts : List Token) :
    List.Forall₂ (T.SameSaying r r') ts ts :=
  List.forall₂_same.mpr fun _ _ => ⟨by rw [hfilters], fun _ => rfl⟩

theorem Corresponds.earlier (hT : T.Lawful r r') {v : T.World} (hv : T.Later w v)
    {good : T.World → α → β → Prop} : ∀ {x : Except Error α × Memory} {y : Except Error β × Memory},
    T.Corresponds v good x y → T.Corresponds w good x y
  | (.ok _, _), (.ok _, _), ⟨u, hu, hm, hgood⟩ => ⟨u, hT.trans hv hu, hm, hgood⟩
  | (.error _, _), (.error _, _), h =>
      h.imp_right fun h => h.imp_right fun ⟨same, u, hu, hm⟩ => ⟨same, u, hT.trans hv hu, hm⟩
  | (.error _, _), (.ok _, _), h => h
  | (.ok _, _), (.error _, _), h => h

/-- Goes on with corresponding outcomes in the same way. -/
theorem Corresponds.bind (hT : T.Lawful r r') {good : T.World → α → β → Prop}
    {good' : T.World → γ → δ → Prop} {act : MemoryM α} {act' : MemoryM β} {next : α → MemoryM γ}
    {next' : β → MemoryM δ} (first : T.Corresponds w good (act m) (act' m'))
    (rest : ∀ v, T.Later w v → ∀ a b n n', T.memories v n n' → good v a b →
      T.Corresponds v good' (next a n) (next' b n')) :
    T.Corresponds w good' ((act >>= next) m) ((act' >>= next') m') := by
  simp only [MemoryM.bind_run]
  revert first
  rcases act m with ⟨e | a, n⟩ <;> rcases act' m' with ⟨e' | b, n'⟩
  · exact id
  · intro first
    dsimp only
    rcases next' b n' with ⟨e' | d, _⟩
    · exact .inl first
    · exact first
  · intro first
    dsimp only
    rcases next a n with ⟨e | c, _⟩
    · exact .inr (.inl first)
    · exact first
  · rintro ⟨v, hv, hm, hgood⟩
    exact (rest v hv a b n n' hm hgood).earlier hT hv

variable (hT : T.Lawful r r') (hm : T.memories w m m')

include hT hm

/-- The sides fail for the same reason at the same place. -/
theorem corresponds_located {good : T.World → α → β → Prop} {cause cause' : Cause}
    (hcause : cause = cause') {span span' : Span} (hspan : T.exact → span = span') :
    T.Corresponds w good (.error (Error.located cause r.source span), m)
      (.error (Error.located cause' r'.source span'), m') := by
  refine .inr (.inr ⟨fun exact => ?_, w, hT.refl w, hm⟩)
  rw [hcause, hT.source exact, hspan exact]

theorem corresponds_action {t t' : Token} (ht : T.SameSaying r r' t t') :
    T.Corresponds w (fun v => ActionAlike (T.like v)) (r.action t m) (r'.action t' m') := by
  rw [TagReader.action_run, TagReader.action_run, ← ht.reading]
  cases hreading : t.reading r.filters with
  | error cause => exact corresponds_located hT hm rfl ht.span
  | ok reading =>
      cases reading with
      | action action =>
          exact ⟨w, hT.refl w, hm, .refl (hT.targets w) (Token.pieces_of_reading hreading)⟩
      | cycle items =>
          obtain ⟨v, hv, hdrawn, hids⟩ := hT.draw hm
          exact ⟨v, hv, hdrawn, .add (.cycle items hids)⟩
      | block title =>
          obtain ⟨v, hv, hdrawn, hids⟩ := hT.draw hm
          exact ⟨v, hv, hdrawn, .enter (.block title hids)⟩
      | splice names =>
          have loaded := hT.load hm names
          revert loaded
          dsimp only
          rcases r.load names m with ⟨e | p, n⟩ <;> rcases r'.load names m' with ⟨e' | p', n'⟩
          · rintro (h | h | ⟨same, hmemories⟩)
            · exact .inl h
            · exact .inr (.inl h)
            · refine .inr (.inr ⟨fun exact => ?_, hmemories⟩)
              rw [same exact, hT.source exact, ht.span exact]
          · exact id
          · exact id
          · rintro ⟨v, hv, hmemories, halike⟩
            exact ⟨v, hv, hmemories, .add (.splice halike)⟩

theorem corresponds_outline {ts ts' : List Token} (hts : List.Forall₂ (T.SameSaying r r') ts ts')
    {o o' : Outline} (ho : OutlineAlike (T.like w) T.exact o o') :
    T.Corresponds w (fun v => OutlineAlike (T.like v) T.exact) (r.outline o ts m)
      (r'.outline o' ts' m') := by
  induction hts generalizing o o' m m' w with
  | nil => exact ⟨w, hT.refl w, hm, ho⟩
  | @cons t t' ts ts' ht _ ih =>
      rw [TagReader.outline, TagReader.outline]
      refine (corresponds_action hT hm ht).bind hT fun v hv action action' n n' hn haction => ?_
      have acted := (ho.mono (hT.within hv)).act haction ht.span
      have performed : T.Corresponds v (fun v => OutlineAlike (T.like v) T.exact)
          (r.locate t (o.act t.span action) n) (r'.locate t' (o'.act t'.span action') n') := ?_
      · exact performed.bind hT fun u hu o o' n n' hn ho => ih hn ho
      revert acted
      rcases o.act t.span action with cause | o₁ <;> rcases o'.act t'.span action' with cause' | o₁'
      · exact fun same => corresponds_located hT hn same ht.span
      · exact False.elim
      · exact False.elim
      · exact fun ho₁ => ⟨v, hT.refl v, hn, ho₁⟩

theorem corresponds_close {o o' : Outline} (ho : OutlineAlike (T.like w) T.exact o o') :
    T.Corresponds w (fun v => Alike (T.like v)) (r.close o m) (r'.close o' m') := by
  unfold TagReader.close
  have finished := ho.finish
  revert finished
  rcases o.finish with frame | nodes <;> rcases o'.finish with frame' | nodes'
  · intro hframe
    refine corresponds_located hT hm ?_ hframe.span
    rw [hframe.opener.endTag]
  · exact False.elim
  · exact False.elim
  · exact fun hnodes => ⟨w, hT.refl w, hm, hnodes⟩

theorem corresponds_nodes {ts ts' : List Token} (hts : List.Forall₂ (T.SameSaying r r') ts ts') :
    T.Corresponds w (fun v => Alike (T.like v)) (r.nodes ts m) (r'.nodes ts' m') := by
  rw [TagReader.nodes_eq, TagReader.nodes_eq]
  exact (corresponds_outline hT hm hts .start).bind hT fun v _ o o' n n' hn ho =>
    corresponds_close hT hn ho

/-- Templates stay alike when nodes that are alike are put between their tokens. -/
theorem corresponds_nodesAround {before before' behind behind' : List Token} {node node' : Node}
    (hbefore : List.Forall₂ (T.SameSaying r r') before before')
    (hnode : ∀ v, NodeAlike (T.like v) node node')
    (hbehind : List.Forall₂ (T.SameSaying r r') behind behind') :
    T.Corresponds w (fun v => Alike (T.like v)) (r.nodesAround before node behind m)
      (r'.nodesAround before' node' behind' m') := by
  refine (corresponds_outline hT hm hbefore .start).bind hT fun v _ o o' n n' hn ho => ?_
  exact (corresponds_outline hT hn hbehind (ho.add (hnode v))).bind hT fun u _ o o' k k' hk ho =>
    corresponds_close hT hk ho

omit hT hm

/-! ## The same loads -/

/-- Readers that load the same, of sources that may differ. -/
def same (L : Likeness) : Twins where
  World := Unit
  Later _ _ := True
  like _ := L
  memories _ m m' := m = m'
  left _ := False
  right _ := False
  exact := False

theorem same_lawful {L : Likeness} (hids : ∀ id, L.ids id id)
    (htargets : ∀ target, L.targets target target) (hload : r.load = r'.load) :
    (same L).Lawful r r' where
  refl _ := trivial
  trans _ _ := trivial
  within _ := ⟨id, id, id⟩
  targets _ := htargets
  source := False.elim
  draw := by
    rintro _ m _ rfl
    exact ⟨(), trivial, rfl, hids _⟩
  load := by
    rintro _ m _ rfl names
    rw [hload]
    rcases r'.load names m with ⟨error | p, n⟩
    · exact .inr (.inr ⟨fun _ => rfl, (), trivial, rfl⟩)
    · exact ⟨(), trivial, rfl, .refl htargets fun id _ => hids id⟩

/-- What the same readers come to. -/
theorem same_ok {L : Likeness} {root : List Node} {n : Memory} {y : Except Error (List Node) × Memory}
    (h : (same L).Corresponds () (fun _ => Alike L) (.ok root, n) y) :
    ∃ root', y = (.ok root', n) ∧ Alike L root root' := by
  rcases y with ⟨error | root', n'⟩
  · exact h.elim
  · obtain ⟨_, _, rfl, halike⟩ := h
    exact ⟨root', rfl, halike⟩

end Twins

end TextTemplate
