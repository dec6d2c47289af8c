import TextTemplate.Proofs.Engine.Lookup
import TextTemplate.Proofs.Template.Twins

/-!
# Settled templates

An engine resolves names among the templates that were added to it, or compiles their sources and
keeps the programs. While the sources stay the same, what a name comes to does not depend on when it
is asked for: `settled` says what it is, but for the numbers of the blocks and cycles, which are those
of a memory at the start for programs that were there already, and for all others chosen by name. Only
a compilation that goes too deep may come to something at one time and not at another, so that is left
out.
-/

namespace TextTemplate

/-! ## What a name comes to -/

/-- The compilation went too deep. -/
def Cause.Limited (cause : Cause) : Prop := ∃ limit, cause = .compileDepth limit

def Limited {α : Type} (r : Except Error α) : Prop := ∃ error, r = .error error ∧ error.cause.Limited

theorem limited_error {α : Type} {error : Error} :
    Limited (.error error : Except Error α) ↔ error.cause.Limited := by
  simp [Limited]

theorem not_limited_ok {α : Type} (a : α) : ¬ Limited (.ok a : Except Error α) := by
  simp [Limited]

namespace Engine

section

variable (e : Engine) (files : FileSystem) (m₀ : Memory)

/-- Whether a name is known. -/
def knows (name : String) : Bool := (e.kept files m₀ name).isSome || (e.source? files name).isSome

/-- What the first of the names that is known comes to. -/
def resolve (load : String → Except Error Program) (all : List String) :
    List String → Except Error Program
  | [] => .error (notFound all)
  | name :: names => if e.knows files m₀ name then load name else resolve load all names

/-- Loads without touching the memory. -/
def still (load : String → Except Error Program) (names : List String) : MemoryM Program := fun m =>
  (e.resolve files m₀ load names names, m)

/-- What a name comes to when the sources are compiled with numbers chosen by `base`. -/
inductive Settles (base : String → Nat) : String → Except Error Program → Prop
  | kept {name : String} {p : Program} (h : e.kept files m₀ name = some p) : Settles base name (.ok p)
  | unreadable {name : String} {error : Error} (absent : e.kept files m₀ name = none)
      (h : e.source? files name = some (.error error)) : Settles base name (.error error)
  | compiled {name source : String} {load : String → Except Error Program}
      {result : Except Error Program} (absent : e.kept files m₀ name = none)
      (h : e.source? files name = some (.ok source))
      (nested : ∀ other, ¬ Limited (load other) → Settles base other (load other))
      (run : (e.compileSource (e.still files m₀ load) source (some name) ⟨base name, []⟩).1 = result)
      (within : ¬ Limited result) : Settles base name result

end

variable {e : Engine} {files : FileSystem} {m₀ : Memory}

theorem resolve_eq {load load' : String → Except Error Program} {all names : List String}
    (h : ∀ name, ¬ Limited (load name) → ¬ Limited (load' name) → load name = load' name)
    (hload : ¬ Limited (e.resolve files m₀ load all names))
    (hload' : ¬ Limited (e.resolve files m₀ load' all names)) :
    e.resolve files m₀ load all names = e.resolve files m₀ load' all names := by
  induction names with
  | nil => rfl
  | cons name names ih =>
      by_cases known : e.knows files m₀ name
      · simp only [resolve, known, if_true] at *
        exact h name hload hload'
      · simp only [resolve, known] at *
        exact ih hload hload'

/-- Readers that load the same unless one of them goes too deep. -/
def settledTwins : Twins where
  World := Unit
  Later _ _ := True
  like _ := .strict
  memories _ m m' := m = m'
  left := Cause.Limited
  right := Cause.Limited
  exact := True

theorem settledTwins_lawful {load load' : String → Except Error Program} {source : String}
    (h : ∀ name, ¬ Limited (load name) → ¬ Limited (load' name) → load name = load' name) :
    settledTwins.Lawful ⟨e.filters, source, e.still files m₀ load⟩
      ⟨e.filters, source, e.still files m₀ load'⟩ where
  refl _ := trivial
  trans _ _ := trivial
  within _ := ⟨id, id, id⟩
  targets _ _ := rfl
  source _ := rfl
  draw := by
    rintro _ m _ rfl
    exact ⟨(), trivial, rfl, rfl⟩
  load := by
    rintro _ m _ rfl names
    have same : ¬ Limited (e.resolve files m₀ load names names) →
        ¬ Limited (e.resolve files m₀ load' names names) →
        e.resolve files m₀ load names names = e.resolve files m₀ load' names names := resolve_eq h
    simp only [still]
    revert same
    rcases e.resolve files m₀ load names names with error | p <;>
      rcases e.resolve files m₀ load' names names with error' | p' <;>
      simp only [limited_error, not_limited_ok, not_false_eq_true, forall_const]
    · intro same
      by_cases left : error.cause.Limited
      · exact .inl left
      by_cases right : error'.cause.Limited
      · exact .inr (.inl right)
      exact .inr (.inr ⟨fun _ => Except.error.inj (same left right), (), trivial, rfl⟩)
    · exact fun same => by_contra fun left => nomatch same left
    · exact fun same => by_contra fun right => nomatch same right
    · rintro ⟨⟩
      exact ⟨(), trivial, rfl, .refl (fun _ => rfl) fun _ _ => rfl⟩

theorem compileSource_eq {load load' : String → Except Error Program}
    (h : ∀ name, ¬ Limited (load name) → ¬ Limited (load' name) → load name = load' name)
    (source : String) (name : Option String) (m : Memory)
    (hload : ¬ Limited (e.compileSource (e.still files m₀ load) source name m).1)
    (hload' : ¬ Limited (e.compileSource (e.still files m₀ load') source name m).1) :
    (e.compileSource (e.still files m₀ load) source name m).1 =
      (e.compileSource (e.still files m₀ load') source name m).1 := by
  have same : List.Forall₂ (settledTwins.SameSaying ⟨e.filters, source, e.still files m₀ load⟩
      ⟨e.filters, source, e.still files m₀ load'⟩) (e.delimiters.tokens source.toList)
      (e.delimiters.tokens source.toList) := List.forall₂_same.mpr fun _ _ => ⟨rfl, fun _ => rfl⟩
  have nodes := Twins.corresponds_nodes (settledTwins_lawful h)
    (show settledTwins.memories () m m from rfl) same
  simp only [compileSource_run] at *
  revert nodes hload hload'
  rcases (TagReader.mk e.filters source (e.still files m₀ load)).nodes _ m with ⟨error | root, n⟩ <;>
    rcases (TagReader.mk e.filters source (e.still files m₀ load')).nodes _ m with ⟨error' | root', n'⟩ <;>
    simp only [limited_error, Error.named_cause, not_limited_ok, not_false_eq_true, forall_const]
  · intro nodes left right
    obtain ⟨same, -⟩ := (nodes.resolve_left left).resolve_left right
    rw [same trivial]
  · exact fun nodes left => absurd nodes left
  · exact fun nodes right => absurd nodes right
  · rintro ⟨_, _, rfl, alike⟩
    rw [alike.eq]

/-- A name comes to one thing only. -/
theorem Settles.unique {base : String → Nat} {name : String} {r : Except Error Program}
    (h : e.Settles files m₀ base name r) : ∀ {r'}, e.Settles files m₀ base name r' → r = r' := by
  induction h with
  | kept h =>
      intro r' h'
      cases h' with
      | kept h' =>
          rw [h] at h'
          cases h'
          rfl
      | unreadable absent =>
          rw [h] at absent
          cases absent
      | compiled absent =>
          rw [h] at absent
          cases absent
  | unreadable absent h =>
      intro r' h'
      cases h' with
      | kept h' =>
          rw [absent] at h'
          cases h'
      | unreadable _ h' =>
          rw [h] at h'
          cases h'
          rfl
      | compiled _ h' =>
          rw [h] at h'
          cases h'
  | @compiled name source load result absent h nested run within ih =>
      intro r' h'
      cases h' with
      | kept h' =>
          rw [absent] at h'
          cases h'
      | unreadable _ h' =>
          rw [h] at h'
          cases h'
      | @compiled _ source' load' _ _ hsource' nested' run' within' =>
          obtain rfl : source = source' := by
            rw [h] at hsource'
            exact Except.ok.inj (Option.some.inj hsource')
          -- Both compilations read one source, and the names in it come to the same by induction.
          rw [← run, ← run']
          rw [← run] at within
          rw [← run'] at within'
          exact compileSource_eq (fun other left right => ih other left (nested' other right)) source
            _ _ within within'

section

open Classical in
/-- What a name comes to; an error where the compilation goes too deep. -/
noncomputable def settled (e : Engine) (files : FileSystem) (m₀ : Memory) (base : String → Nat)
    (name : String) : Except Error Program :=
  if h : ∃ result, e.Settles files m₀ base name result then h.choose
  else .error ⟨.compileDepth e.maxIncludeDepth, none, none⟩

variable {base : String → Nat} {name : String}

theorem Settles.settled_eq {result : Except Error Program} (h : e.Settles files m₀ base name result) :
    e.settled files m₀ base name = result := by
  have settles : ∃ result, e.Settles files m₀ base name result := ⟨result, h⟩
  rw [settled, dif_pos settles]
  exact settles.choose_spec.unique h

theorem settles_settled (h : ¬ Limited (e.settled files m₀ base name)) :
    e.Settles files m₀ base name (e.settled files m₀ base name) := by
  by_cases settles : ∃ result, e.Settles files m₀ base name result
  · rw [settled, dif_pos settles]
    exact settles.choose_spec
  · rw [settled, dif_neg settles] at h
    exact absurd ⟨_, rfl⟩ (limited_error.not.mp h)

theorem settled_of_kept {p : Program} (h : e.kept files m₀ name = some p) :
    e.settled files m₀ base name = .ok p :=
  (Settles.kept h).settled_eq

theorem settled_of_unreadable {error : Error} (absent : e.kept files m₀ name = none)
    (h : e.source? files name = some (.error error)) : e.settled files m₀ base name = .error error :=
  (Settles.unreadable absent h).settled_eq

/-- A source comes to what it compiles to, with the settled templates put in place. -/
theorem settled_of_source {source : String} (absent : e.kept files m₀ name = none)
    (h : e.source? files name = some (.ok source)) {result : Except Error Program}
    (run : (e.compileSource (e.still files m₀ (e.settled files m₀ base)) source (some name)
      ⟨base name, []⟩).1 = result) (within : ¬ Limited result) : e.settled files m₀ base name = result :=
  (Settles.compiled absent h (fun _ => settles_settled) run within).settled_eq

theorem knows_of_settled {p : Program} (h : e.settled files m₀ base name = .ok p) :
    e.knows files m₀ name = true := by
  have settles : e.Settles files m₀ base name (.ok p) := by
    rw [← h]
    exact settles_settled (h ▸ not_limited_ok p)
  cases settles with
  | kept h => simp [knows, h]
  | compiled absent h => simp [knows, h]

end

end Engine

end TextTemplate
