import TextTemplate.Proofs.Engine.Growth
import TextTemplate.Proofs.Engine.Settled

/-!
# What loaders keep

Whatever an engine has compiled and kept so far, what it loads is what the name comes to, but for the
numbers: each number that was drawn has a partner among the settled numbers. The partners of the
numbers in a source appear when the source is compiled; until then nothing else uses them.
-/

namespace TextTemplate

/-- Templates alike but for their numbers. -/
def numbered (rel : Nat → Nat → Prop) : Likeness := ⟨rel, (· = ·), fun _ _ => False⟩

theorem numbered_within {rel rel' : Nat → Nat → Prop} (h : ∀ {i j}, rel i j → rel' i j) :
    (numbered rel).Within (numbered rel') :=
  ⟨h, id, id⟩

/-- No number has two partners. -/
def Unique (rel : Nat → Nat → Prop) : Prop :=
  ∀ {i j i' j'}, rel i j → rel i' j' → (i = i' ↔ j = j')

namespace Engine

/-- The numbers chosen for the source under a name. -/
def InRange (e : Engine) (files : FileSystem) (base : String → Nat) (name : String) (j : Nat) : Prop :=
  ∃ source, e.source? files name = some (.ok source) ∧ base name ≤ j ∧
    j < base name + (e.delimiters.tokens source.toList).length

/-- The numbers are chosen apart from each other, from those that are in use and from reserved ones.
-/
structure Apart (e : Engine) (files : FileSystem) (m₀ : Memory) (base : String → Nat)
    (reserved : Nat → Prop) : Prop where
  names : ∀ {name other j}, e.InRange files base name j → e.InRange files base other j → name = other
  used : ∀ {name j}, e.InRange files base name j → m₀.nextId ≤ j
  reserved : ∀ {name j}, e.InRange files base name j → ¬ reserved j

/-- The memory keeps what the names come to. The pending numbers have no partners yet. -/
structure Keeps (e : Engine) (files : FileSystem) (m₀ : Memory) (base : String → Nat)
    (reserved : Nat → Prop) (rel : Nat → Nat → Prop) (pending : Nat → Prop) (m : Memory) : Prop where
  unique : Unique rel
  drawn : ∀ {i j}, rel i j → i < m.nextId ∧ ¬ pending i
  below : ∀ {i}, pending i → i < m.nextId
  kept : ∀ {name p}, e.kept files m name = some p →
    ∃ settled, e.settled files m₀ base name = .ok settled ∧ Alike (numbered rel) p.root settled.root
  early : ∀ {name}, (e.kept files m₀ name).isSome → (e.kept files m name).isSome
  fresh : ∀ {name i j}, e.kept files m name = none → e.InRange files base name j → ¬ rel i j
  free : ∀ {i j}, reserved j → ¬ rel i j

section

variable {e : Engine} {files : FileSystem} {m₀ m : Memory} {base : String → Nat}
  {reserved : Nat → Prop}
  {rel : Nat → Nat → Prop} {pending : Nat → Prop}

theorem Keeps.mono (h : e.Keeps files m₀ base reserved rel pending m) {pending' : Nat → Prop}
    (hpending : ∀ {i}, pending' i → pending i) : e.Keeps files m₀ base reserved rel pending' m :=
  { h with
    drawn := fun hrel => ⟨(h.drawn hrel).1, fun hp => (h.drawn hrel).2 (hpending hp)⟩
    below := fun hp => h.below (hpending hp) }

theorem Keeps.absent (h : e.Keeps files m₀ base reserved rel pending m) {name : String}
    (hnone : e.kept files m name = none) : e.kept files m₀ name = none := by
  rw [← Option.not_isSome_iff_eq_none]
  intro there
  have hearly := h.early there
  rw [hnone] at hearly
  cases hearly

/-- The number that is drawn next may become pending. -/
theorem Keeps.draw (h : e.Keeps files m₀ base reserved rel pending m) :
    e.Keeps files m₀ base reserved rel (fun i => pending i ∨ i = m.nextId) m.drawn :=
  { h with
    drawn := fun hrel => by
      obtain ⟨hlt, hpending⟩ := h.drawn hrel
      exact ⟨Nat.lt_succ_of_lt hlt, fun hor => hor.elim hpending (Nat.ne_of_lt hlt)⟩
    below := by
      rintro i (hp | rfl)
      · exact Nat.lt_succ_of_lt (h.below hp)
      · exact Nat.lt_succ_self _ }

/-- Numbers drawn by one template, with their partners. -/
structure Own (pending : Nat → Prop) (low high : Nat) (own : Nat → Nat → Prop) : Prop where
  unique : Unique own
  new : ∀ {i j}, own i j → ¬ pending i
  range : ∀ {i j}, own i j → low ≤ j ∧ j < high

/-- The numbers of a template that has been read get their partners. -/
theorem Keeps.join {own : Nat → Nat → Prop} {low high : Nat}
    (h : e.Keeps files m₀ base reserved rel (fun i => pending i ∨ ∃ j, own i j) m)
    (hown : Own pending low high own) (hnew : ∀ {i j}, low ≤ j → j < high → ¬ rel i j)
    {m' : Memory} (hle : m.nextId ≤ m'.nextId)
    (hkept : ∀ {name p}, e.kept files m' name = some p → e.kept files m name = some p ∨
      ∃ settled, e.settled files m₀ base name = .ok settled ∧
        Alike (numbered fun i j => rel i j ∨ own i j) p.root settled.root)
    (hearly : ∀ {name}, (e.kept files m name).isSome → (e.kept files m' name).isSome)
    (hfresh : ∀ {name j}, e.kept files m' name = none → e.InRange files base name j → low ≤ j →
      ¬ j < high)
    {reserved' : Nat → Prop} (hfree : ∀ {j}, reserved' j → reserved j ∧ (low ≤ j → ¬ j < high)) :
    e.Keeps files m₀ base reserved' (fun i j => rel i j ∨ own i j) pending m' where
  unique := by
    -- A number of the template was pending, so it had no partner; its partner lies in the template's
    -- own stretch of numbers, where no known partner lies.
    rintro i j i' j' (hij | hij) (hij' | hij')
    · exact h.unique hij hij'
    · refine ⟨?_, ?_⟩
      · rintro rfl
        exact absurd (.inr ⟨_, hij'⟩) (h.drawn hij).2
      · rintro rfl
        exact absurd hij (hnew (hown.range hij').1 (hown.range hij').2)
    · refine ⟨?_, ?_⟩
      · rintro rfl
        exact absurd (.inr ⟨_, hij⟩) (h.drawn hij').2
      · rintro rfl
        exact absurd hij' (hnew (hown.range hij).1 (hown.range hij).2)
    · exact hown.unique hij hij'
  drawn := by
    rintro i j (hij | hij)
    · exact ⟨Nat.lt_of_lt_of_le (h.drawn hij).1 hle, fun hp => (h.drawn hij).2 (.inl hp)⟩
    · exact ⟨Nat.lt_of_lt_of_le (h.below (.inr ⟨_, hij⟩)) hle, hown.new hij⟩
  below hp := Nat.lt_of_lt_of_le (h.below (.inl hp)) hle
  kept hp := by
    rcases hkept hp with hp | hp
    · obtain ⟨settled, hsettled, halike⟩ := h.kept hp
      exact ⟨settled, hsettled, halike.mono (numbered_within .inl)⟩
    · exact hp
  early hp := hearly (h.early hp)
  fresh := by
    rintro name i j hnone hrange (hij | hij)
    · have : e.kept files m name = none := by
        cases hkept : e.kept files m name with
        | none => rfl
        | some p =>
            have there : (e.kept files m' name).isSome := hearly (by simp [hkept])
            simp [hnone] at there
      exact h.fresh this hrange hij
    · exact hfresh hnone hrange (hown.range hij).1 (hown.range hij).2
  free := by
    rintro i j hreserved (hij | hij)
    · exact h.free (hfree hreserved).1 hij
    · exact (hfree hreserved).2 (hown.range hij).1 (hown.range hij).2

end

/-! ## Reading and compiling -/

/-- A loader that keeps what names come to, beside one that keeps nothing. -/
def keptTwins (e : Engine) (files : FileSystem) (m₀ : Memory) (base : String → Nat)
    (reserved pending : Nat → Prop) : Twins where
  World := Nat → Nat → Prop
  Later rel rel' := ∀ {i j}, rel i j → rel' i j
  like := numbered
  memories rel m _ := e.Keeps files m₀ base reserved rel pending m
  left := Cause.Limited
  right _ := False
  exact := True

/-- What is loaded is settled. -/
def LoadsSettled (e : Engine) (files : FileSystem) (m₀ : Memory) (base : String → Nat)
    (reserved : Nat → Prop) (load : List String → MemoryM Program) : Prop :=
  ∀ {pending rel m}, e.Keeps files m₀ base reserved rel pending m → ∀ names m',
    (e.keptTwins files m₀ base reserved pending).Corresponds rel
      (fun v p p' => Alike (numbered v) p.root p'.root) (load names m)
      (e.still files m₀ (e.settled files m₀ base) names m')

/-- What is compiled for the first time and kept is settled. -/
def CompilesSettled (e : Engine) (files : FileSystem) (m₀ : Memory) (base : String → Nat)
    (reserved : Nat → Prop) (compile : Compile) : Prop :=
  ∀ {pending rel m}, e.Keeps files m₀ base reserved rel pending m → ∀ {name source},
    e.source? files name = some (.ok source) → e.kept files m name = none → ∀ m',
    (e.keptTwins files m₀ base reserved pending).Corresponds rel
      (fun v p p' => Alike (numbered v) p.root p'.root)
      ((compile source (some name) >>= e.keep files name) m) (e.settled files m₀ base name, m')

/-- How far a template has been read: the partners of the numbers that are known, and those of its
own numbers. -/
structure Progress where
  rel : Nat → Nat → Prop
  own : Nat → Nat → Prop

/-- A template that is being read, beside a settled one in which nodes may be put in place. -/
def readingTwins (e : Engine) (files : FileSystem) (m₀ : Memory) (base : String → Nat)
    (reserved pending : Nat → Prop) (inserts : Expr → List Node → Prop) (low : Nat) : Twins where
  World := Progress
  Later v w := (∀ {i j}, v.rel i j → w.rel i j) ∧ ∀ {i j}, v.own i j → w.own i j
  like w := ⟨fun i j => w.rel i j ∨ w.own i j, (· = ·), inserts⟩
  memories w m m' := e.Keeps files m₀ base reserved w.rel (fun i => pending i ∨ ∃ j, w.own i j) m ∧
    Own pending low m'.nextId w.own ∧ low ≤ m'.nextId
  left := Cause.Limited
  right _ := False
  exact := True

section

variable {e : Engine} {files : FileSystem} {m₀ m : Memory} {base : String → Nat}
  {reserved pending : Nat → Prop}
  {rel : Nat → Nat → Prop} {load : List String → MemoryM Program}

theorem readingTwins_lawful (hload : e.LoadsSettled files m₀ base reserved load) (source : String)
    (inserts : Expr → List Node → Prop) (low : Nat) :
    (e.readingTwins files m₀ base reserved pending inserts low).Lawful ⟨e.filters, source, load⟩
      ⟨e.filters, source, e.still files m₀ (e.settled files m₀ base)⟩ where
  refl _ := ⟨id, id⟩
  trans h h' := ⟨fun hrel => h'.1 (h.1 hrel), fun hown => h'.2 (h.2 hown)⟩
  within h := ⟨fun hor => hor.imp h.1 h.2, id, id⟩
  targets _ _ := rfl
  source _ := rfl
  draw := by
    rintro w m m' ⟨hkeeps, hown, hlow⟩
    refine ⟨⟨w.rel, fun i j => w.own i j ∨ i = m.nextId ∧ j = m'.nextId⟩, ⟨id, .inl⟩, ⟨?_, ?_, ?_⟩,
      .inr (.inr ⟨rfl, rfl⟩)⟩
    · refine hkeeps.draw.mono ?_
      rintro i (hp | ⟨j, hown | ⟨rfl, -⟩⟩)
      · exact .inl (.inl hp)
      · exact .inl (.inr ⟨j, hown⟩)
      · exact .inr rfl
    -- The new pair lies beyond both memories, so it clashes with none of the template's own pairs.
    · have old : ∀ {i j}, w.own i j → i < m.nextId ∧ j < m'.nextId := fun hij =>
        ⟨hkeeps.below (.inr ⟨_, hij⟩), (hown.range hij).2⟩
      refine ⟨?_, ?_, ?_⟩
      · rintro i j i' j' (hij | ⟨rfl, rfl⟩) (hij' | ⟨rfl, rfl⟩)
        · exact hown.unique hij hij'
        · have := old hij
          omega
        · have := old hij'
          omega
        · exact ⟨fun _ => rfl, fun _ => rfl⟩
      · rintro i j (hij | ⟨rfl, -⟩) hp
        · exact hown.new hij hp
        · exact Nat.lt_irrefl _ (hkeeps.below (.inl hp))
      · rintro i j (hij | ⟨-, rfl⟩)
        · exact ⟨(hown.range hij).1, Nat.lt_succ_of_lt (hown.range hij).2⟩
        · exact ⟨hlow, Nat.lt_succ_self _⟩
    · exact Nat.le_succ_of_le hlow
  load := by
    -- Loading may find partners for the numbers of other templates. Those of the template that is
    -- being read are pending meanwhile and stay as they are.
    rintro w m m' ⟨hkeeps, hown⟩ names
    have loaded := hload hkeeps names m'
    revert loaded
    dsimp only [still]
    rcases load names m with ⟨error | p, n⟩ <;>
      rcases e.resolve files m₀ (e.settled files m₀ base) names names with error' | p'
    · rintro (h | h | ⟨same, v, hv, hm⟩)
      · exact .inl h
      · exact h.elim
      · exact .inr (.inr ⟨same, ⟨v, w.own⟩, ⟨hv, id⟩, hm, hown⟩)
    · exact id
    · exact id
    · rintro ⟨v, hv, hm, halike⟩
      have within : (numbered v).Within ⟨fun i j => v i j ∨ w.own i j, (· = ·), inserts⟩ :=
        ⟨.inl, id, False.elim⟩
      exact ⟨⟨v, w.own⟩, ⟨hv, id⟩, ⟨hm, hown⟩, halike.mono within⟩

/-- When reading starts no number has been drawn. -/
theorem reading_start (h : e.Keeps files m₀ base reserved rel pending m)
    (inserts : Expr → List Node → Prop) (low : Nat) :
    (e.readingTwins files m₀ base reserved pending inserts low).memories ⟨rel, fun _ _ => False⟩ m
      ⟨low, []⟩ := by
  refine ⟨h.mono ?_, ⟨nofun, nofun, nofun⟩, Nat.le_refl _⟩
  rintro i (hp | ⟨_, hfalse⟩)
  · exact hp
  · exact hfalse.elim

/-- Reading with settled templates draws at most one number for each token. -/
theorem outline_still_le (r : TagReader) (hr : ∀ names m, (r.load names m).2 = m) (ts : List Token)
    (o : Outline) (m : Memory) : (r.outline o ts m).2.nextId ≤ m.nextId + ts.length := by
  have first : ∀ t m, (r.action t m).2.nextId ≤ m.nextId + 1 := by
    intro t m
    rw [TagReader.action_run]
    cases t.reading r.filters with
    | error cause => exact Nat.le_succ _
    | ok reading =>
        cases reading with
        | action action => exact Nat.le_succ _
        | cycle items => exact Nat.le_refl _
        | block title => exact Nat.le_refl _
        | splice names =>
            have same := hr names m
            revert same
            dsimp only
            rcases r.load names m with ⟨error | p, n⟩ <;> rintro rfl <;> exact Nat.le_succ _
  induction ts generalizing o m with
  | nil => exact Nat.le_refl _
  | cons t ts ih =>
      have hfirst := first t m
      rw [TagReader.outline_cons]
      revert hfirst
      rcases r.action t m with ⟨error | action, n⟩
      · intro hfirst
        simp only [List.length_cons] at *
        omega
      · intro hfirst
        dsimp only at *
        cases o.act t.span action with
        | error cause =>
            simp only [List.length_cons]
            omega
        | ok o' =>
            have := ih o' n
            simp only [List.length_cons]
            omega

theorem nodes_still_le (r : TagReader) (hr : ∀ names m, (r.load names m).2 = m) (ts : List Token)
    (m : Memory) : (r.nodes ts m).2.nextId ≤ m.nextId + ts.length := by
  rw [TagReader.nodes_memory]
  exact outline_still_le r hr ts .start m

theorem nodesAround_still_le (r : TagReader) (hr : ∀ names m, (r.load names m).2 = m)
    (before : List Token) (node : Node) (behind : List Token) (m : Memory) :
    (r.nodesAround before node behind m).2.nextId ≤ m.nextId + before.length + behind.length := by
  have first := outline_still_le r hr before .start m
  rw [TagReader.nodesAround, MemoryM.bind_run]
  revert first
  rcases r.outline .start before m with ⟨error | o, m₁⟩
  · exact fun first => Nat.le_trans first (Nat.le_add_right ..)
  · intro first
    have second := outline_still_le r hr behind (o.add node) m₁
    simp only [MemoryM.bind_run]
    revert second
    rcases r.outline (o.add node) behind m₁ with ⟨error | o', m₂⟩
    · intro second
      dsimp only at *
      omega
    · intro second
      have unchanged : (r.close o' m₂).2 = m₂ := by
        unfold TagReader.close
        cases o'.finish <;> rfl
      dsimp only at *
      rw [unchanged]
      omega

/-- A program is kept under a name that has none. -/
theorem keep_new {name source : String} (h : e.source? files name = some (.ok source)) (p : Program)
    (hnone : e.kept files m name = none) :
    ∃ m', e.keep files name p m = (.ok p, m') ∧ m'.nextId = m.nextId ∧
      ∀ other, e.kept files m' other = if name = other then some p else e.kept files m other := by
  have first : ∀ other : String, ((m.cache.insert name ⟨none, p⟩).find? other).map (·.program) =
      if name = other then some p else (m.cache.find? other).map (·.program) := by
    intro other
    rw [NameMap.find?_insert]
    split <;> rfl
  cases hloader : e.loader with
  | added | custom =>
      simp only [source?, hloader] at h
      cases h
  | freshFiles root =>
      rw [source?_freshFiles files hloader] at h
      obtain ⟨file, hfile, -⟩ := Option.map_eq_some_iff.mp h
      exact ⟨_, keep_latest hloader hfile p m, rfl, kept_latest hloader hfile p m⟩
  | sources sources =>
      simp only [kept, hloader, Option.map_eq_none_iff] at hnone
      refine ⟨{ m with cache := m.cache.insert name ⟨none, p⟩ }, ?_, rfl, ?_⟩
      · simp only [keep, hloader, keepFirst, hnone]
      · simp only [kept, hloader]
        exact first
  | files root =>
      simp only [kept, hloader, Option.map_eq_none_iff] at hnone
      refine ⟨{ m with cache := m.cache.insert name ⟨none, p⟩ }, ?_, rfl, ?_⟩
      · simp only [keep, hloader, keepFirst, hnone]
      · simp only [kept, hloader]
        exact first

/-- A program that is there already stays, unless the loader keeps the latest one. -/
theorem keep_old {name source : String} (h : e.source? files name = some (.ok source)) (p : Program)
    {q : Program} (hq : e.kept files m name = some q) (hfirst : ∀ root, e.loader ≠ .freshFiles root) :
    e.keep files name p m = (.ok q, m) := by
  have cached : (m.cache.find? name).map (·.program) = some q := by
    cases hloader : e.loader with
    | added | custom =>
        simp only [source?, hloader] at h
        cases h
    | freshFiles root => exact absurd hloader (hfirst root)
    | sources | files => simpa only [kept, hloader] using hq
  rw [keep_first files hfirst, keepFirst]
  obtain ⟨entry, hentry, rfl⟩ := Option.map_eq_some_iff.mp cached
  rw [hentry]

/-- No template is kept while it is being read: it would be inside of itself. -/
theorem absent_while_read (hgrow : e.LoadsGrow files load) {name source : String} {root : List Node}
    {n : Memory} (run : (TagReader.mk e.filters source load).nodes
      (e.delimiters.tokens source.toList) m = (.ok root, n))
    (hnone : e.kept files m name = none) {settled : Program}
    (hsettled : e.settled files m₀ base name = .ok settled) {own : Nat → Nat → Prop}
    (halike : Alike (numbered own) root settled.root)
    (hkeeps : e.Keeps files m₀ base reserved rel pending n) : e.kept files n name = none := by
  by_contra hkept
  obtain ⟨q, hq⟩ := Option.ne_none_iff_exists'.mp hkept
  have compiled : e.compileSource load source (some name) m =
      (.ok ⟨n.nextId, some name, source, root, registryOf root⟩, n.drawn) := by
    rw [compileSource_run, run]
  -- What a compilation keeps is smaller than the template, but what a name comes to has one size.
  rcases compileSource_grow hgrow compiled hq with hbefore | smaller
  · rw [hnone] at hbefore
    cases hbefore
  · obtain ⟨q', hq', halike'⟩ := hkeeps.kept hq
    rw [hsettled] at hq'
    cases hq'
    have inside : placed q.root = placed settled.root := halike'.placed fun _ _ => id
    have outside : placed root = placed settled.root := halike.placed fun _ _ => id
    dsimp only at smaller
    omega

variable (hapart : e.Apart files m₀ base reserved)

include hapart

/-- A program that has just been compiled is kept with its own numbers. One that was kept in the
meantime stays; where the loader keeps the latest one there is none. -/
theorem keep_settled {rel₀ : Nat → Nat → Prop} (hrel : ∀ {i j}, rel₀ i j → rel i j)
    {own : Nat → Nat → Prop} {high : Nat} {name source : String} {p settled : Program}
    (hsource : e.source? files name = some (.ok source))
    (hkeeps : e.Keeps files m₀ base reserved rel (fun i => pending i ∨ ∃ j, own i j) m)
    (hown : Own pending (base name) high own)
    (bound : high ≤ base name + (e.delimiters.tokens source.toList).length)
    (hsettled : e.settled files m₀ base name = .ok settled)
    (halike : Alike (numbered fun i j => rel i j ∨ own i j) p.root settled.root)
    (hlatest : ∀ root, e.loader = .freshFiles root → e.kept files m name = none) (m' : Memory) :
    (e.keptTwins files m₀ base reserved pending).Corresponds rel₀
      (fun v p p' => Alike (numbered v) p.root p'.root) (e.keep files name p m.drawn)
      (.ok settled, m') := by
  cases hkept : e.kept files m.drawn name with
  | some q =>
      have hfirst : ∀ root, e.loader ≠ .freshFiles root := by
        intro root hloader
        have none := hlatest root hloader
        rw [← kept_drawn, hkept] at none
        cases none
      rw [keep_old hsource p hkept hfirst]
      obtain ⟨q', hq', halike'⟩ := hkeeps.kept hkept
      rw [hsettled] at hq'
      cases hq'
      have drawn : e.Keeps files m₀ base reserved rel pending m.drawn :=
        hkeeps.draw.mono fun hp => .inl (.inl hp)
      exact ⟨rel, hrel, drawn, halike'⟩
  | none =>
      obtain ⟨n, hrun, hnext, hn⟩ := keep_new hsource p hkept
      rw [hrun]
      have inRange : ∀ {j}, base name ≤ j → j < high → e.InRange files base name j :=
        fun hlow hhigh => ⟨source, hsource, hlow, Nat.lt_of_lt_of_le hhigh bound⟩
      refine ⟨fun i j => rel i j ∨ own i j, fun hij => .inl (hrel hij), ?_, halike⟩
      refine hkeeps.join hown (fun hlow hhigh => hkeeps.fresh hkept (inRange hlow hhigh))
        (hnext ▸ Nat.le_succ _) ?_ ?_ ?_ ?_
      · intro other q hq
        rw [hn] at hq
        split at hq
        · next same =>
            subst same
            cases hq
            exact .inr ⟨_, hsettled, halike⟩
        · exact .inl hq
      · intro other hother
        rw [hn]
        split
        · rfl
        · exact hother
      · intro other j hother hrange hlow hhigh
        rw [hn] at hother
        split at hother
        · cases hother
        · next different => exact different (hapart.names (inRange hlow hhigh) hrange)
      · exact fun hreserved => ⟨hreserved, fun hlow hhigh =>
          hapart.reserved (inRange hlow hhigh) hreserved⟩

theorem compileSource_settled (hload : e.LoadsSettled files m₀ base reserved load)
    (hgrow : ∀ root, e.loader = .freshFiles root → e.LoadsGrow files load) :
    e.CompilesSettled files m₀ base reserved (e.compileSource load) := by
  intro pending rel m h name source hsource hnone m'
  have absent := h.absent hnone
  -- What the name comes to was read from numbers that start at `base name`, with settled templates in
  -- place of loaded ones: both readings go through the same tokens.
  have settles := fun result => @settled_of_source e files m₀ base name source absent hsource result
  rw [compileSource_run] at settles
  let T := e.readingTwins files m₀ base reserved pending (fun _ _ => False) (base name)
  let tokens := e.delimiters.tokens source.toList
  have start : T.memories ⟨rel, fun _ _ => False⟩ m ⟨base name, []⟩ := reading_start h _ _
  have same : List.Forall₂ (T.SameSaying ⟨e.filters, source, load⟩
      ⟨e.filters, source, e.still files m₀ (e.settled files m₀ base)⟩) tokens tokens :=
    List.forall₂_same.mpr fun _ _ => ⟨rfl, fun _ => rfl⟩
  have nodes := Twins.corresponds_nodes (readingTwins_lawful hload source _ (base name)) start same
  have bound := nodes_still_le ⟨e.filters, source, e.still files m₀ (e.settled files m₀ base)⟩
    (fun _ _ => rfl) tokens ⟨base name, []⟩
  rw [MemoryM.bind_run, compileSource_run]
  revert settles nodes bound
  rcases hrun : (TagReader.mk e.filters source load).nodes tokens m with ⟨error | root, n⟩ <;>
    rcases (TagReader.mk e.filters source (e.still files m₀ (e.settled files m₀ base))).nodes tokens
      ⟨base name, []⟩ with ⟨error' | root', n'⟩
  · rintro settles nodes -
    by_cases limited : error.cause.Limited
    · exact Twins.corresponds_of_left limited _
    · obtain ⟨same, v, hv, hkeeps, -⟩ := (nodes.resolve_left limited).resolve_left id
      obtain rfl := same trivial
      rw [settles _ rfl (limited_error.not.mpr limited)]
      exact .inr (.inr ⟨fun _ => rfl, v.rel, hv.1, hkeeps.mono .inl⟩)
  · intro _ nodes _
    have limited : error.cause.Limited := nodes
    exact Twins.corresponds_of_left limited _
  · exact fun _ nodes => nodes.elim
  · rintro settles ⟨v, hv, ⟨hkeeps, hown, -⟩, halike⟩ bound
    have settled := settles _ rfl (not_limited_ok _)
    rw [settled]
    let p : Program := ⟨n.nextId, some name, source, root, registryOf root⟩
    have like : Alike (numbered fun i j => v.rel i j ∨ v.own i j) p.root root' := halike
    exact keep_settled hapart hv.1 hsource hkeeps hown bound settled like
      (fun path hloader => absent_while_read (hgrow path hloader) hrun hnone settled halike hkeeps) m'

omit hapart

theorem loadFirst_settled {compile : Compile}
    (hcompile : e.CompilesSettled files m₀ base reserved compile)
    (h : e.Keeps files m₀ base reserved rel pending m) (all names : List String) (m' : Memory) :
    (e.keptTwins files m₀ base reserved pending).Corresponds rel
      (fun v p p' => Alike (numbered v) p.root p'.root) (e.loadFirst files compile all names m)
      (e.resolve files m₀ (e.settled files m₀ base) all names, m') := by
  induction names with
  | nil => exact .inr (.inr ⟨fun _ => rfl, rel, id, h⟩)
  | cons name names ih =>
      simp only [loadFirst_cons, resolve]
      cases hkept : e.kept files m name with
      | some p =>
          obtain ⟨p', hp', halike⟩ := h.kept hkept
          rw [if_pos (knows_of_settled hp'), hp']
          exact ⟨rel, id, h, halike⟩
      | none =>
          have absent := h.absent hkept
          rcases hsource : e.source? files name with _ | error | source
          · rw [if_neg (by simp [knows, hsource, absent])]
            exact ih
          · rw [if_pos (by simp [knows, hsource]), settled_of_unreadable absent hsource]
            exact .inr (.inr ⟨fun _ => rfl, rel, id, h⟩)
          · rw [if_pos (by simp [knows, hsource])]
            exact hcompile h hsource hkept m'

include hapart

variable {files' : FileSystem} (hserves : e.Serves files files')

include hserves

theorem compileWithin_settled (depth : Nat) :
    e.CompilesSettled files m₀ base reserved (e.compileWithin files' depth) := by
  induction depth with
  | zero =>
      intro pending rel m h name source hsource hnone m'
      rw [MemoryM.bind_run, compileWithin]
      have limited : Cause.Limited (.compileDepth e.maxIncludeDepth) := ⟨_, rfl⟩
      exact Twins.corresponds_of_left limited _
  | succ depth ih =>
      refine compileSource_settled hapart (fun h names m' => ?_) fun root hloader => ?_
      · rw [hserves]
        exact loadFirst_settled ih h names names m'
      · intro names m p n run name q hq
        rw [hserves] at run
        exact loadFirst_grow hloader (compileWithin_grow hserves hloader depth) names run hq

/-- Whatever an engine loads from these files is settled. -/
theorem loadWith_settled (depth : Nat) :
    e.LoadsSettled files m₀ base reserved (e.loadWith files' (e.compileWithin files' depth)) := by
  intro pending rel m h names m'
  rw [hserves]
  exact loadFirst_settled (compileWithin_settled hapart hserves depth) h names names m'

end

/-! ## Loading and the memory afterwards -/

section

variable {e : Engine} {files files' : FileSystem} {m₀ m m' : Memory} {base : String → Nat}
  {rel : Nat → Nat → Prop}

/-- What the memory keeps is settled, with some partners for its numbers. -/
def KeepsSettled (e : Engine) (files : FileSystem) (m₀ : Memory) (base : String → Nat) (m : Memory) :
    Prop :=
  ∃ rel, e.Keeps files m₀ base (fun _ => False) rel (fun _ => False) m

/-- The program has the settled nodes but for the numbers, in a memory that keeps what the names come to.
-/
def SettledAs (e : Engine) (files : FileSystem) (m₀ : Memory) (base : String → Nat)
    (q p : Program) (m : Memory) : Prop :=
  ∃ rel, Alike (numbered rel) p.root q.root ∧
    e.Keeps files m₀ base (fun _ => False) rel (fun _ => False) m

theorem KeepsSettled.drawn (h : e.KeepsSettled files m₀ base m) :
    e.KeepsSettled files m₀ base m.drawn := by
  obtain ⟨rel, hkeeps⟩ := h
  exact ⟨rel, hkeeps.draw.mono .inl⟩

/-- What a load keeps is settled, also if the load fails or goes too deep. -/
theorem loadFirst_keepsSettled {compile : Compile}
    (hcompile : e.CompilesSettled files m₀ base (fun _ => False) compile)
    (compiles : ∀ source name, e.KeepsSettled files m₀ base (compile source name m).2)
    (h : e.KeepsSettled files m₀ base m) (all names : List String) :
    e.KeepsSettled files m₀ base (e.loadFirst files compile all names m).2 := by
  have load := e.loadFirst_cases files compile all names m
  generalize e.loadFirst files compile all names m = r at load
  cases load with
  | kept _ => exact h
  | failed _ => exact h
  | @broken name source error n run =>
      have after := compiles source (some name)
      rwa [run] at after
  | @compiled name source p n absent found run =>
      obtain ⟨rel, hkeeps⟩ := h
      have settled := hcompile hkeeps found absent m
      rw [MemoryM.bind_run, run] at settled
      obtain ⟨q, k, hkeep, -, -⟩ := @keep_run e files (fun _ => False) name p n
      dsimp only at settled
      rw [hkeep] at settled ⊢
      cases hsettled : e.settled files m₀ base name with
      | error error =>
          rw [hsettled] at settled
          exact settled.elim
      | ok q' =>
          rw [hsettled] at settled
          obtain ⟨rel', -, hk, -⟩ := settled
          exact ⟨rel', hk⟩

variable (hapart : e.Apart files m₀ base fun _ => False) (hserves : e.Serves files files')

include hapart hserves

theorem compileWithin_keepsSettled (depth : Nat) (source : String) (name : Option String)
    (h : e.KeepsSettled files m₀ base m) :
    e.KeepsSettled files m₀ base (e.compileWithin files' depth source name m).2 := by
  induction depth generalizing source name m with
  | zero => exact h
  | succ depth ih =>
      refine compileSource_keeps (I := e.KeepsSettled files m₀ base) KeepsSettled.drawn
        (fun names hm => ?_) source name h
      rw [hserves]
      exact loadFirst_keepsSettled (compileWithin_settled hapart hserves depth)
        (fun source name => ih source name hm) hm names names

theorem loadWith_keepsSettled (depth : Nat) (names : List String)
    (h : e.KeepsSettled files m₀ base m) :
    e.KeepsSettled files m₀ base (e.loadWith files' (e.compileWithin files' depth) names m).2 := by
  rw [hserves]
  exact loadFirst_keepsSettled (compileWithin_settled hapart hserves depth)
    (fun source name => compileWithin_keepsSettled hapart hserves depth source name h) h names names

/-- A load comes to what the names come to, unless it goes too deep. -/
theorem KeepsSettled.load_settled (h : e.KeepsSettled files m₀ base m) (depth : Nat)
    (names : List String)
    (within : ¬ Limited (e.loadWith files' (e.compileWithin files' depth) names m).1) :
    (∃ error n, e.loadWith files' (e.compileWithin files' depth) names m = (.error error, n) ∧
      e.resolve files m₀ (e.settled files m₀ base) names names = .error error) ∨
    ∃ p q n, e.loadWith files' (e.compileWithin files' depth) names m = (.ok p, n) ∧
      e.resolve files m₀ (e.settled files m₀ base) names names = .ok q ∧
      e.SettledAs files m₀ base q p n := by
  obtain ⟨rel, hkeeps⟩ := h
  have settled := loadWith_settled hapart hserves depth hkeeps names m
  revert settled within
  dsimp only [still]
  rcases e.loadWith files' (e.compileWithin files' depth) names m with ⟨error | p, n⟩ <;>
    rcases e.resolve files m₀ (e.settled files m₀ base) names names with error' | q
  · intro within settled
    obtain ⟨same, -⟩ := (settled.resolve_left (limited_error.not.mp within)).resolve_left id
    obtain rfl := same trivial
    exact .inl ⟨error, n, rfl, rfl⟩
  · intro within settled
    exact absurd (limited_error.mpr settled) within
  · intro _ settled
    exact settled.elim
  · rintro - ⟨rel', -, hn, halike⟩
    exact .inr ⟨p, q, n, rfl, rfl, rel', halike, hn⟩

/-- Two loads come to the same error or to programs with the same settled nodes, unless one of them goes
too deep. -/
theorem KeepsSettled.loads_agree {files'' : FileSystem} (hserves' : e.Serves files files'')
    (h : e.KeepsSettled files m₀ base m) (h' : e.KeepsSettled files m₀ base m') (depth : Nat)
    (names : List String)
    (within : ¬ Limited (e.loadWith files' (e.compileWithin files' depth) names m).1)
    (within' : ¬ Limited (e.loadWith files'' (e.compileWithin files'' depth) names m').1) :
    (∃ error n n', e.loadWith files' (e.compileWithin files' depth) names m = (.error error, n) ∧
      e.loadWith files'' (e.compileWithin files'' depth) names m' = (.error error, n')) ∨
    ∃ q p p' n n', e.loadWith files' (e.compileWithin files' depth) names m = (.ok p, n) ∧
      e.loadWith files'' (e.compileWithin files'' depth) names m' = (.ok p', n') ∧
      e.SettledAs files m₀ base q p n ∧ e.SettledAs files m₀ base q p' n' := by
  rcases h.load_settled hapart hserves depth names within with
    ⟨error, n, run, result⟩ | ⟨p, q, n, run, result, settled⟩ <;>
  rcases h'.load_settled hapart hserves' depth names within' with
    ⟨error', n', run', result'⟩ | ⟨p', q', n', run', result', settled'⟩ <;>
  rw [result] at result' <;>
  cases result'
  · exact .inl ⟨error, n, n', run, run'⟩
  · exact .inr ⟨q, p, p', n, n', run, run', settled, settled'⟩

end

/-! ## The numbers at the start -/

/-- The names can be numbered. -/
theorem exists_index : ∃ index : String → Nat, Function.Injective index := by
  have codes : Function.Injective fun s : String => s.toList.map Char.toNat := by
    intro s t same
    have chars : Function.Injective Char.toNat := fun _ _ => Char.toNat_inj.mp
    exact String.toList_injective (chars.list_map same)
  have : Countable String := codes.countable
  exact Countable.exists_injective_nat String

/-- Numbers can be chosen apart from those in use and from so many reserved ones. -/
theorem exists_apart (e : Engine) (files : FileSystem) (m₀ : Memory) (count : Nat) :
    ∃ base, e.Apart files m₀ base fun j => m₀.nextId ≤ j ∧ j < m₀.nextId + count := by
  obtain ⟨index, hindex⟩ := exists_index
  let low := m₀.nextId + count
  let room : String → Nat := fun name => ((e.source? files name).bind Except.toOption).elim 0
    fun source => (e.delimiters.tokens source.toList).length
  -- The numbers of a name begin behind those of all names with a smaller index.
  let behind : Nat → Nat := fun i => ∑ k ∈ Finset.range i, Function.extend index room 0 k
  have behind_succ : ∀ name, behind (index name + 1) = behind (index name) + room name := by
    intro name
    rw [show behind (index name + 1) = _ from Finset.sum_range_succ _ _, hindex.extend_apply]
  have behind_mono : ∀ {i k}, i ≤ k → behind i ≤ behind k := fun h =>
    Finset.sum_le_sum_of_subset (Finset.range_subset_range.mpr h)
  have within : ∀ {name j}, e.InRange files (fun name => low + behind (index name)) name j →
      low + behind (index name) ≤ j ∧ j < low + behind (index name + 1) := by
    rintro name j ⟨source, hsource, hlow, hhigh⟩
    have hroom : room name = (e.delimiters.tokens source.toList).length := by
      simp only [room, hsource]
      rfl
    rw [behind_succ, hroom, ← Nat.add_assoc]
    exact ⟨hlow, hhigh⟩
  refine ⟨fun name => low + behind (index name), ?_, ?_, ?_⟩
  · intro name other j h h'
    have here := within h
    have there := within h'
    rcases Nat.lt_trichotomy (index name) (index other) with hlt | heq | hgt
    · have := behind_mono (show index name + 1 ≤ index other from hlt)
      omega
    · exact hindex heq
    · have := behind_mono (show index other + 1 ≤ index name from hgt)
      omega
  · intro name j h
    have := (within h).1
    omega
  · rintro name j h ⟨-, hhigh⟩
    have := (within h).1
    omega

section

variable {e : Engine} {files : FileSystem} {m₀ : Memory} {base : String → Nat} {reserved : Nat → Prop}

theorem Apart.mono (h : e.Apart files m₀ base reserved) {reserved' : Nat → Prop}
    (hreserved : ∀ j, reserved' j → reserved j) : e.Apart files m₀ base reserved' :=
  { h with reserved := fun hrange hj => h.reserved hrange (hreserved _ hj) }

/-- At the start the numbers in use are their own partners. -/
theorem keeps_start (hs : Sound e (fun _ => False) (fun _ => False) m₀)
    (hapart : e.Apart files m₀ base reserved) (hreserved : ∀ j, reserved j → m₀.nextId ≤ j) :
    e.Keeps files m₀ base reserved (fun i j => i = j ∧ i < m₀.nextId) (fun _ => False) m₀ where
  unique := by
    rintro i j i' j' ⟨rfl, -⟩ ⟨rfl, -⟩
    rfl
  drawn h := ⟨h.2, id⟩
  below h := h.elim
  kept {name p} h := by
    have formed := hs.formed (known_of_kept h _)
    exact ⟨p, settled_of_kept h, .refl (fun _ => rfl) fun id hid => ⟨rfl, (formed.ids id hid).1⟩⟩
  early h := h
  fresh := by
    rintro name i j - hrange ⟨rfl, hlt⟩
    exact Nat.lt_irrefl _ (Nat.lt_of_lt_of_le hlt (hapart.used hrange))
  free := by
    rintro i j hj ⟨rfl, hlt⟩
    exact Nat.lt_irrefl _ (Nat.lt_of_lt_of_le hlt (hreserved i hj))

/-- A memory that keeps nothing keeps what the names come to. -/
theorem keeps_nothing (h₀ : ∀ name, e.kept files m₀ name = none) {m : Memory}
    (h : ∀ name, e.kept files m name = none) :
    e.Keeps files m₀ base reserved (fun _ _ => False) (fun _ => False) m where
  unique impossible := impossible.elim
  drawn impossible := impossible.elim
  below impossible := impossible.elim
  kept hp := by
    rw [h] at hp
    cases hp
  early hp := by
    rw [h₀] at hp
    cases hp
  fresh _ _ := id
  free _ := id

/-- A template that has been read and is not kept uses up the reserved numbers. -/
theorem settled_of_corresponds {low high : Nat}
    (hapart : e.Apart files m₀ base fun j => low ≤ j ∧ j < high) {inserts : Expr → List Node → Prop}
    {w : Progress} {root : List Node} {m : Memory} {y : Except Error (List Node) × Memory}
    (h : (e.readingTwins files m₀ base (fun j => low ≤ j ∧ j < high) (fun _ => False) inserts
      low).Corresponds w (fun v => Alike ⟨fun i j => v.rel i j ∨ v.own i j, (· = ·), inserts⟩)
      (.ok root, m) y)
    (hhigh : y.2.nextId ≤ high) :
    ∃ root' rel, y.1 = .ok root' ∧ Alike ⟨rel, (· = ·), inserts⟩ root root' ∧
      e.Keeps files m₀ base (fun _ => False) rel (fun _ => False) m := by
  rcases y with ⟨error | root', m'⟩
  · exact h.elim
  obtain ⟨v, -, ⟨hkeeps, hown, -⟩, halike⟩ := h
  refine ⟨root', _, rfl, halike, ?_⟩
  refine hkeeps.join hown ?_ (Nat.le_refl _) (fun h => .inl h) id ?_ False.elim
  · exact fun hlow hlt => hkeeps.free ⟨hlow, Nat.lt_of_lt_of_le hlt hhigh⟩
  · exact fun _ hrange hlow hlt => hapart.reserved hrange ⟨hlow, Nat.lt_of_lt_of_le hlt hhigh⟩

end

end Engine

end TextTemplate
