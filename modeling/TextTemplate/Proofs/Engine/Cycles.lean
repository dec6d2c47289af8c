import TextTemplate.Proofs.Engine.Numbering

/-!
# Cycles of templates

A template that names another one by a literal is compiled together with it. So what is compiled with
success leads to no cycle, and the loader keeps no template that does: `Grounded` holds of the memory
through every compilation, also one that fails.
-/

namespace TextTemplate

namespace Engine

/-- The first of the names with a source. -/
def firstSource (sources : NameMap String) (names : List String) : Option String :=
  names.find? sources.contains

/-- Some tag in the source of `name` names templates of which `other` is the first with a source. -/
def Draws (e : Engine) (sources : NameMap String) (name other : String) : Prop :=
  ∃ source t names, sources.find? name = some source ∧ t ∈ e.delimiters.tokens source.toList ∧
    t.reading e.filters = .ok (.splice names) ∧ firstSource sources names = some other

/-- No chain of templates that draw one another goes on from this one without end. -/
def Acyclic (e : Engine) (sources : NameMap String) (name : String) : Prop :=
  Acc (fun other name => e.Draws sources name other) name

/-- The template lies on a cycle or leads to one. -/
def Circular (e : Engine) (sources : NameMap String) (name : String) : Prop :=
  ∃ other, Relation.ReflTransGen (e.Draws sources) name other ∧
    Relation.TransGen (e.Draws sources) other other

/-- Only templates with a source that lead to no cycle are kept. -/
def Grounded (e : Engine) (sources : NameMap String) (m : Memory) : Prop :=
  ∀ name entry, m.cache.find? name = some entry →
    sources.contains name = true ∧ e.Acyclic sources name

variable {e : Engine} {sources : NameMap String}

theorem Acyclic.not_cycle {name : String} (h : e.Acyclic sources name) :
    ¬ Relation.TransGen (e.Draws sources) name name := by
  induction h with
  | intro name _ ih =>
      intro cycle
      obtain ⟨other, step, back⟩ := Relation.TransGen.head'_iff.mp cycle
      exact ih other step (.tail' back step)

theorem Acyclic.not_circular {name : String} (h : e.Acyclic sources name) :
    ¬ e.Circular sources name := by
  rintro ⟨other, path, cycle⟩
  induction path using Relation.ReflTransGen.head_induction_on with
  | refl => exact h.not_cycle cycle
  | head step _ ih => exact ih (h.inv step)

/-! ## What one computation keeps -/

/-- Loading keeps the memory grounded, and what it gives leads to no cycle. -/
def LoadsGrounded (e : Engine) (sources : NameMap String) (load : List String → MemoryM Program) :
    Prop :=
  ∀ names {m}, e.Grounded sources m → e.Grounded sources (load names m).2 ∧
    ∀ p, (load names m).1 = .ok p →
      ∃ name, firstSource sources names = some name ∧ e.Acyclic sources name

/-- All templates that the tags of a source name lead to no cycle. -/
def DrawsAcyclic (e : Engine) (sources : NameMap String) (tokens : List Token) : Prop :=
  ∀ t ∈ tokens, ∀ names, t.reading e.filters = .ok (.splice names) →
    ∃ name, firstSource sources names = some name ∧ e.Acyclic sources name

/-- Compiling keeps the memory grounded, and what is compiled names templates that lead to no cycle. -/
def CompilesGrounded (e : Engine) (sources : NameMap String) (compile : Compile) : Prop :=
  ∀ source name {m}, e.Grounded sources m → e.Grounded sources (compile source name m).2 ∧
    ∀ p, (compile source name m).1 = .ok p →
      e.DrawsAcyclic sources (e.delimiters.tokens source.toList)

theorem outline_grounded {load : List String → MemoryM Program} (loads : e.LoadsGrounded sources load)
    {source : String} {ts : List Token} {o o' : Outline} {m m' : Memory} (h : e.Grounded sources m)
    (run : (TagReader.mk e.filters source load).outline o ts m = (.ok o', m')) :
    e.DrawsAcyclic sources ts := by
  induction ts generalizing o m with
  | nil => exact nofun
  | cons t ts ih =>
      have kept : e.Grounded sources ((TagReader.mk e.filters source load).action t m).2 :=
        TagReader.action_keeps (I := e.Grounded sources) (fun hm => hm)
          (fun names hm => (loads names hm).1) t h
      obtain ⟨action, m₁, o₁, first, -, rest⟩ := TagReader.outline_ok run
      rw [first] at kept
      refine List.forall_mem_cons.mpr ⟨fun names hreading => ?_, ih kept rest⟩
      rw [TagReader.action_run, hreading] at first
      dsimp only at first
      rcases hload : load names m with ⟨error | p, m₂⟩
      · rw [hload] at first
        cases first
      · exact (loads names h).2 p (by rw [hload])

theorem compileSource_grounded {load : List String → MemoryM Program}
    (loads : e.LoadsGrounded sources load) : e.CompilesGrounded sources (e.compileSource load) := by
  intro source name m h
  refine ⟨compileSource_keeps (I := e.Grounded sources) (fun hm => hm)
    (fun names hm => (loads names hm).1) source name h, ?_⟩
  rcases run : e.compileSource load source name m with ⟨error | p, n⟩
  · exact nofun
  · intro _ _
    obtain ⟨m₁, nodes, -⟩ := compileSource_ok run
    obtain ⟨o, outline, -⟩ := TagReader.nodes_ok nodes
    exact outline_grounded loads h outline

theorem acyclic_of_draws {name source : String} (found : sources.find? name = some source)
    (h : e.DrawsAcyclic sources (e.delimiters.tokens source.toList)) : e.Acyclic sources name := by
  refine .intro name fun other => ?_
  rintro ⟨source', t, names, found', ht, hreading, hfirst⟩
  rw [found] at found'
  cases found'
  obtain ⟨first, same, acyclic⟩ := h t ht names hreading
  rw [hfirst] at same
  cases same
  exact acyclic

theorem Grounded.insert {m : Memory} (h : e.Grounded sources m) {name : String} {entry : CacheEntry}
    (known : sources.contains name = true) (acyclic : e.Acyclic sources name) :
    e.Grounded sources { m with cache := m.cache.insert name entry } := by
  intro other found hfound
  rcases NameMap.of_find?_insert hfound with ⟨rfl, -⟩ | hold
  · exact ⟨known, acyclic⟩
  · exact h other found hold

theorem loadFromSources_cons (compile : Compile) (all : List String) (name : String)
    (names : List String) (m : Memory) :
    loadFromSources sources compile all (name :: names) m =
      match m.cache.find? name with
      | some entry => (.ok entry.program, m)
      | none =>
        match sources.find? name with
        | some source => (compile source (some name) >>= keepFirst name) m
        | none => loadFromSources sources compile all names m := by
  rw [loadFromSources, MemoryM.bind_run]
  simp only [cached]
  cases m.cache.find? name with
  | some entry => rfl
  | none => cases sources.find? name <;> rfl

theorem loadFromSources_grounded {compile : Compile} (compiles : e.CompilesGrounded sources compile)
    (all : List String) : e.LoadsGrounded sources (loadFromSources sources compile all) := by
  intro names m h
  induction names with
  | nil => exact ⟨h, nofun⟩
  | cons name names ih =>
      have first : sources.contains name = true → firstSource sources (name :: names) = some name :=
        fun known => List.find?_cons_of_pos known
      rw [loadFromSources_cons]
      cases hcached : m.cache.find? name with
      | some entry =>
          obtain ⟨known, acyclic⟩ := h name entry hcached
          exact ⟨h, fun _ _ => ⟨name, first known, acyclic⟩⟩
      | none =>
          cases hsource : sources.find? name with
          | none =>
              have next : firstSource sources (name :: names) = firstSource sources names :=
                List.find?_cons_of_neg (by rw [NameMap.contains, hsource]; exact Bool.false_ne_true)
              rw [next]
              exact ih
          | some source =>
              have known : sources.contains name = true := by rw [NameMap.contains, hsource]; rfl
              obtain ⟨kept, drawn⟩ := compiles source (some name) h
              dsimp only
              rw [MemoryM.bind_run]
              rcases hrun : compile source (some name) m with ⟨error | p, n⟩
              · rw [hrun] at kept
                exact ⟨kept, nofun⟩
              · rw [hrun] at kept drawn
                have acyclic := acyclic_of_draws hsource (drawn p rfl)
                refine ⟨?_, fun _ _ => ⟨name, first known, acyclic⟩⟩
                dsimp only
                rw [keepFirst]
                cases n.cache.find? name with
                | some entry => exact kept
                | none => exact kept.insert known acyclic

section

variable (hloader : e.loader = .sources sources) (files : FileSystem)
include hloader

theorem compileWithin_grounded (depth : Nat) :
    e.CompilesGrounded sources (e.compileWithin files depth) := by
  induction depth with
  | zero => exact fun source name m h => ⟨h, nofun⟩
  | succ depth ih =>
      have loads : e.LoadsGrounded sources (e.loadWith files (e.compileWithin files depth)) := by
        intro names m h
        rw [loadWith, hloader]
        exact loadFromSources_grounded ih names names h
      exact compileSource_grounded loads

/-- Every load keeps the memory grounded, and gives no template that leads to a cycle. -/
theorem loadWith_grounded (depth : Nat) :
    e.LoadsGrounded sources (e.loadWith files (e.compileWithin files depth)) := by
  intro names m h
  rw [loadWith, hloader]
  exact loadFromSources_grounded (compileWithin_grounded hloader files depth) names names h

end

end Engine

end TextTemplate
