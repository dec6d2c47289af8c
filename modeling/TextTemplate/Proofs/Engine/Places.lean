import TextTemplate.Proofs.Engine.Lookup
import TextTemplate.Proofs.Token.Layout

/-!
# Where errors point

An error gets its place from the innermost template that fails, and on its way out it gets the name of
that template and no other. Errors without a place have no name either until a template that is being
compiled puts them at the tag that asked for the template. So an error of a compilation points at a
tag of the source that its name stands for (`Engine.Sites`).
-/

namespace TextTemplate

open TextTemplate.Text

/-- The place is a tag of the source: a part of it that is not empty, between two characters. -/
structure Location.AtTag (d : Delimiters) (place : Location) : Prop where
  tag : ∃ t ∈ d.tokens place.source.toList, d.IsTag place.source.toList t ∧ t.span = place.span
  nonempty : place.span.start < place.span.stop
  between : ∃ front text behind, place.source.toList = front ++ text ++ behind ∧
    place.span = ⟨byteLength front, byteLength (front ++ text)⟩

theorem atTag_of_token {d : Delimiters} {source : String} {t : Token}
    (mem : t ∈ d.tokens source.toList) (kind : t.kind ≠ .text) : Location.AtTag d ⟨source, t.span⟩ := by
  have covers := (d.tokens_layout source.toList).2
  have tag : d.IsTag source.toList t := covers.tags t mem kind
  obtain ⟨front, tagKind, inside, rest, same, span, -⟩ := tag.placed
  exact ⟨⟨t, mem, tag, rfl⟩, (covers.spans t mem).2.1,
    ⟨front, (d.pair tagKind).raw inside, rest, by rw [same, List.append_assoc], span⟩⟩

namespace Error

/-- If the error has a place, it is a tag of the source of a template, and the name of the error is the
name of that template. -/
def PointsInto (d : Delimiters) (template : Option String → String → Prop) (error : Error) : Prop :=
  ∀ place, error.location = some place → place.AtTag d ∧ template error.templateName place.source

/-- The error points into a template. -/
inductive Placed (d : Delimiters) (template : Option String → String → Prop) : Error → Prop
  | mk {cause : Cause} {place : Location} {name : Option String} (tag : place.AtTag d)
      (here : template name place.source) : Placed d template ⟨cause, some place, name⟩

/-- Nothing has been attached to the error. -/
def Bare (error : Error) : Prop := error.location = none ∧ error.templateName = none

variable {d : Delimiters} {template template' : Option String → String → Prop} {error : Error}

theorem Placed.mono (h : error.Placed d template)
    (more : ∀ name source, template name source → template' name source) : error.Placed d template' := by
  obtain ⟨tag, here⟩ := h
  exact .mk tag (more _ _ here)

theorem Placed.pointsInto (h : error.Placed d template) : error.PointsInto d template := by
  obtain ⟨tag, here⟩ := h
  rintro _ ⟨⟩
  exact ⟨tag, here⟩

theorem Bare.named_pointsInto (h : error.Bare) (name : Option String) :
    (error.named name).PointsInto d template := by
  rintro place hplace
  rw [named, h.1] at hplace
  cases hplace

theorem Bare.pointsInto (h : error.Bare) : error.PointsInto d template := by
  rintro place hplace
  rw [h.1] at hplace
  cases hplace

end Error

/-! ## Reading a template -/

namespace Outline

variable {Here : Span → Prop} {o o' : Outline}

/-- All open tags stand at places of this kind. -/
def OpenAt (Here : Span → Prop) (o : Outline) : Prop := ∀ frame ∈ o.frames, Here frame.span

theorem OpenAt.add (h : o.OpenAt Here) (node : Node) : (o.add node).OpenAt Here := by
  obtain ⟨frames, nodes⟩ := o
  cases frames with
  | nil => exact h
  | cons frame frames =>
      obtain ⟨here, above⟩ := List.forall_mem_cons.1 h
      exact List.forall_mem_cons.2 ⟨here, above⟩

theorem OpenAt.act (h : o.OpenAt Here) {span : Span} (here : Here span) {action : Action}
    (hact : o.act span action = .ok o') : o'.OpenAt Here := by
  cases action with
  | add node =>
      cases hact
      exact h.add node
  | enter opener =>
      cases hact
      exact List.forall_mem_cons.2 ⟨here, h⟩
  | leave endTag =>
      obtain ⟨frames, nodes⟩ := o
      cases frames with
      | nil => cases hact
      | cons frame frames =>
          simp only [Outline.act, leave] at hact
          split at hact
          · cases hact
            exact OpenAt.add (o := ⟨frames, nodes⟩) (List.forall_mem_cons.1 h).2 _
          · cases hact

end Outline

namespace TagReader

variable {r : TagReader} {d : Delimiters} {found : Option String → String → Prop}

/-- The source that is being read, which has no name yet, or another template. -/
def Reads (source : String) (found : Option String → String → Prop) (name : Option String)
    (text : String) : Prop :=
  name = none ∧ text = source ∨ found name text

theorem placed_here {t : Token} (here : Location.AtTag d ⟨r.source, t.span⟩) (cause : Cause) :
    (Error.located cause r.source t.span).Placed d (Reads r.source found) :=
  .mk here (.inl ⟨rfl, rfl⟩)

section

variable (loads : ∀ {names m error n}, r.load names m = (.error error, n) →
  error.Bare ∨ error.Placed d found)

include loads

theorem action_fails {t : Token} (here : Location.AtTag d ⟨r.source, t.span⟩) {m n : Memory}
    {error : Error} (run : r.action t m = (.error error, n)) : error.Placed d (Reads r.source found) := by
  rw [action_run] at run
  cases hreading : t.reading r.filters with
  | error cause =>
      rw [hreading] at run
      cases run
      exact placed_here here cause
  | ok reading =>
      rw [hreading] at run
      cases reading with
      | splice names =>
          dsimp only at run
          rcases hload : r.load names m with ⟨inner | p, k⟩
          · rw [hload] at run
            cases run
            rcases loads hload with bare | placed
            · -- The tag that asked for the template is the place.
              obtain ⟨cause, location, name⟩ := inner
              obtain ⟨rfl, rfl⟩ : location = none ∧ name = none := bare
              exact placed_here here cause
            · obtain ⟨tag, template⟩ := placed
              exact .mk tag (.inr template)
          · rw [hload] at run
            cases run
      | _ => cases run

/-- The induction is on the tokens; each open tag was opened by a tag that stands in front. -/
theorem outline_fails {ts : List Token}
    (tags : ∀ t ∈ ts, t.kind ≠ .text → Location.AtTag d ⟨r.source, t.span⟩) {o : Outline}
    {m n : Memory} {error : Error} (run : r.outline o ts m = (.error error, n)) :
    error.Placed d (Reads r.source found) := by
  induction ts generalizing o m with
  | nil => cases run
  | cons t ts ih =>
      obtain ⟨here, behind⟩ := List.forall_mem_cons.1 tags
      rw [outline_cons] at run
      by_cases kind : t.kind = .text
      · rw [action_text kind] at run
        exact ih behind run
      · rcases haction : r.action t m with ⟨inner | action, m₁⟩
        · rw [haction] at run
          cases run
          exact action_fails loads (here kind) haction
        · rw [haction] at run
          dsimp only at run
          cases hact : o.act t.span action with
          | error cause =>
              rw [hact] at run
              cases run
              exact placed_here (here kind) cause
          | ok o₁ =>
              rw [hact] at run
              exact ih behind run

omit loads in
theorem outline_openAt {ts : List Token} {Here : Span → Prop}
    (tags : ∀ t ∈ ts, t.kind ≠ .text → Here t.span) {o o' : Outline} (opened : o.OpenAt Here)
    {m n : Memory} (run : r.outline o ts m = (.ok o', n)) : o'.OpenAt Here := by
  induction ts generalizing o m with
  | nil =>
      cases run
      exact opened
  | cons t ts ih =>
      obtain ⟨here, behind⟩ := List.forall_mem_cons.1 tags
      obtain ⟨action, m₁, o₁, first, hact, run⟩ := outline_ok run
      refine ih behind ?_ run
      by_cases kind : t.kind = .text
      · rw [action_text kind] at first
        cases first
        cases hact
        exact opened.add _
      · exact opened.act (here kind) hact

/-- What goes wrong in a template goes wrong at one of its tags, or in a template that it loads. -/
theorem nodes_fails {ts : List Token}
    (tags : ∀ t ∈ ts, t.kind ≠ .text → Location.AtTag d ⟨r.source, t.span⟩) {m n : Memory}
    {error : Error} (run : r.nodes ts m = (.error error, n)) :
    error.Placed d (Reads r.source found) := by
  rw [nodes_run] at run
  rcases houtline : r.outline .start ts m with ⟨inner | o, m₁⟩
  · rw [houtline] at run
    cases run
    exact outline_fails loads tags houtline
  · rw [houtline] at run
    have opened : o.OpenAt fun span => Location.AtTag d ⟨r.source, span⟩ :=
      outline_openAt tags (o := .start) nofun houtline
    obtain ⟨frames, nodes⟩ := o
    cases frames with
    | nil => cases run
    | cons frame frames =>
        cases run
        exact .mk (opened frame List.mem_cons_self) (.inl ⟨rfl, rfl⟩)

end

end TagReader

/-! ## Compiling and loading -/

namespace Engine

variable {e : Engine} {files : FileSystem}

/-- The templates that the loader finds, with their sources. -/
def Finds (e : Engine) (files : FileSystem) (name : Option String) (source : String) : Prop :=
  ∃ n, name = some n ∧ e.source? files n = some (.ok source)

/-- The template that is being compiled, or one that the loader finds. -/
def Sites (e : Engine) (files : FileSystem) (own : Option String) (text : String)
    (name : Option String) (source : String) : Prop :=
  name = own ∧ source = text ∨ e.Finds files name source

theorem compileSource_fails {load : List String → MemoryM Program}
    (loads : ∀ {names m error n}, load names m = (.error error, n) →
      error.Bare ∨ error.Placed e.delimiters (e.Finds files))
    {source : String} {name : Option String} {m n : Memory} {error : Error}
    (run : e.compileSource load source name m = (.error error, n)) :
    error.Placed e.delimiters (e.Sites files name source) := by
  rw [compileSource_run] at run
  rcases hnodes : (TagReader.mk e.filters source load).nodes (e.delimiters.tokens source.toList) m
    with ⟨inner | root, m₁⟩
  · rw [hnodes] at run
    cases run
    obtain ⟨tag, here⟩ := TagReader.nodes_fails loads (fun t => atTag_of_token) hnodes
    rcases here with ⟨rfl, same⟩ | ⟨other, rfl, found⟩
    · exact .mk tag (.inl ⟨rfl, same⟩)
    · exact .mk tag (.inr ⟨other, rfl, found⟩)
  · rw [hnodes] at run
    cases run

/-- What keeps a program does not fail. -/
theorem keep_ne_error {name : String} {p : Program} {m n : Memory} {error : Error} :
    e.keep files name p m ≠ (.error error, n) := by
  obtain ⟨q, k, kept, -⟩ := @keep_run e files (fun _ => False) name p m
  rw [kept]
  rintro ⟨⟩

theorem source?_bare {name : String} {error : Error}
    (h : e.source? files name = some (.error error)) : error.Bare := by
  have unreadable : ∀ root, (files.lookUp? root name).map (readFile root name) = some (.error error) →
      error.Bare := by
    intro root hread
    obtain ⟨file, -, hread⟩ := Option.map_eq_some_iff.1 hread
    unfold readFile at hread
    split at hread
    · cases hread
    · cases hread
      exact ⟨rfl, rfl⟩
  unfold source? at h
  split at h
  · obtain ⟨source, -, h⟩ := Option.map_eq_some_iff.1 h
    cases h
  · exact unreadable _ h
  · exact unreadable _ h
  · cases h

/-- An error of a load has no place, or it points into a template that the loader finds. -/
theorem loadFirst_fails {compile : Compile}
    (compiles : ∀ {source name m error n}, compile source name m = (.error error, n) →
      error.Bare ∨ error.Placed e.delimiters (e.Sites files name source))
    {all names : List String} {m n : Memory} {error : Error}
    (run : e.loadFirst files compile all names m = (.error error, n)) :
    error.Bare ∨ error.Placed e.delimiters (e.Finds files) := by
  induction names with
  | nil =>
      cases run
      exact .inl ⟨rfl, rfl⟩
  | cons name names ih =>
      rw [loadFirst_cons] at run
      cases hkept : e.kept files m name with
      | some p =>
          rw [hkept] at run
          cases run
      | none =>
          rw [hkept] at run
          rcases hsource : e.source? files name with _ | inner | source
          · rw [hsource] at run
            exact ih run
          · rw [hsource] at run
            cases run
            exact .inl (source?_bare hsource)
          · rw [hsource] at run
            dsimp only at run
            rw [MemoryM.bind_run] at run
            rcases hcompile : compile source (some name) m with ⟨inner | p, k⟩
            · rw [hcompile] at run
              cases run
              refine (compiles hcompile).imp_right fun placed => placed.mono ?_
              rintro own text (⟨rfl, rfl⟩ | found)
              · exact ⟨name, rfl, hsource⟩
              · exact found
            · rw [hcompile] at run
              exact absurd run keep_ne_error

/-- An error of a compilation points into the template itself or one that the loader finds. Only where no
template may be compiled at all it has no place. -/
theorem compileWithin_fails (h : e.loader.ByName) {depth : Nat} {source : String}
    {name : Option String} {m n : Memory} {error : Error}
    (run : e.compileWithin files depth source name m = (.error error, n)) :
    depth = 0 ∧ error.Bare ∨ error.Placed e.delimiters (e.Sites files name source) := by
  induction depth generalizing source name m n error with
  | zero =>
      cases run
      exact .inl ⟨rfl, rfl, rfl⟩
  | succ depth ih =>
      refine .inr (compileSource_fails (fun run => ?_) run)
      rw [serves_self h] at run
      exact loadFirst_fails (fun run => (ih run).imp_left And.right) run

theorem load_fails (h : e.loader.ByName) {names : List String} {m n : Memory} {error : Error}
    (run : e.load files names m = (.error error, n)) :
    error.Bare ∨ error.Placed e.delimiters (e.Finds files) := by
  rw [load, serves_self h] at run
  exact loadFirst_fails (fun run => (compileWithin_fails h run).imp_left And.right) run

theorem addTemplate_fails (h : e.loader.ByName) {name source : String} {m n : Memory} {error : Error}
    (run : e.addTemplate files name source m = (.error error, n)) :
    e.maxIncludeDepth = 0 ∧ error.Bare ∨
      error.Placed e.delimiters (e.Sites files (some name) source) := by
  rw [addTemplate, MemoryM.bind_run] at run
  rcases hcompile : e.compile files source (some name) m with ⟨inner | p, k⟩
  · rw [hcompile] at run
    cases run
    exact compileWithin_fails h hcompile
  · rw [hcompile] at run
    cases run

end Engine

end TextTemplate
