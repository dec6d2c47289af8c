import TextTemplate.Proofs.Engine.Numbering
import TextTemplate.Render.Scopes

/-!
# Chains of templates

In a chain each template names the next one in a single tag, by a literal or by a variable, and
consists of texts otherwise. A template that is named by a literal is compiled inside of the one that
names it, so the literals at the start of a chain decide whether its first template compiles
(`Engine.load_linked`).
-/

namespace TextTemplate

/-- How a template of a chain names the next one. -/
inductive Link where
  /-- By a literal, in an include tag or an extends tag. -/
  | literal
  /-- By a variable, in an include tag. -/
  | lookUp
deriving DecidableEq, Repr

namespace Link

/-- How many literals stand at the start. -/
def run (links : List Link) : Nat := (links.takeWhile (· = .literal)).length

/-- All runs of literals are shorter than the limit. -/
def Short (limit : Nat) (links : List Link) : Prop :=
  ∀ n, List.replicate n .literal <:+: links → n < limit

@[simp] theorem run_nil : run [] = 0 := rfl

@[simp] theorem run_literal (links : List Link) : run (.literal :: links) = run links + 1 := rfl

@[simp] theorem run_lookUp (links : List Link) : run (.lookUp :: links) = 0 := rfl

theorem replicate_prefix_iff {links : List Link} {n : Nat} :
    List.replicate n .literal <+: links ↔ n ≤ run links := by
  induction links generalizing n with
  | nil => simp
  | cons link links ih =>
      cases n with
      | zero => simp
      | succ n =>
          cases link with
          | literal => simp [List.replicate_succ, ih]
          | lookUp => simp [List.replicate_succ]

theorem short_nil {limit : Nat} : Short limit [] ↔ 0 < limit := by
  simp [Short]

theorem short_cons {limit : Nat} {link : Link} {links : List Link} :
    Short limit (link :: links) ↔ run (link :: links) < limit ∧ Short limit links := by
  simp only [Short, List.infix_cons_iff, replicate_prefix_iff]
  constructor
  · exact fun h => ⟨h _ (.inl le_rfl), fun n inside => h n (.inr inside)⟩
  · rintro ⟨front, behind⟩ n (inside | inside)
    · exact Nat.lt_of_le_of_lt inside front
    · exact behind n inside

end Link

/-- The links from a template on, each with the name of the template that it leads to. -/
abbrev Links := List (Link × String)

namespace Links

/-- The links by a literal at the start. -/
def leading (links : Links) : Links := links.takeWhile (·.1 = .literal)

/-- The links from the first variable on. -/
def behind (links : Links) : Links := links.dropWhile (·.1 = .literal)

def names (links : Links) : List String := links.map Prod.snd

def kinds (links : Links) : List Link := links.map Prod.fst

theorem names_leading_append (links : Links) : links.leading.names ++ links.behind.names = links.names := by
  rw [names, names, names, ← List.map_append, leading, behind, List.takeWhile_append_dropWhile]

theorem not_mem_leading {links : Links} {name : String} (h : name ∉ links.names) :
    name ∉ links.leading.names := fun mem =>
  h (links.names_leading_append ▸ List.mem_append_left _ mem)

/-- The templates behind the first variable are not among those in front of it. -/
theorem apart_of_mem_behind {name later : String} {links : Links}
    (distinct : (name :: links.names).Nodup) (mem : later ∈ links.behind.names) :
    later ∈ links.names ∧ later ∉ name :: links.leading.names := by
  obtain ⟨apart, distinct⟩ := List.nodup_cons.1 distinct
  have known : later ∈ links.names := links.names_leading_append ▸ List.mem_append_right _ mem
  refine ⟨known, ?_⟩
  rintro (_ | ⟨_, early⟩)
  · exact apart known
  · rw [← links.names_leading_append] at distinct
    exact (List.nodup_append.1 distinct).2.2 _ early _ mem rfl

end Links

/-- The value of the path, with its filters, is the name. -/
structure Reference.Names (r : Reference) (scopes : Scopes) (name : String) : Prop where
  plain : ∀ id f, scopes.resolve r.path ≠ .callable id f
  value : applyFilters r.raw r.filters (scopes.resolve r.path) = .ok (.string name)

/-- The tag names a template in this way. -/
inductive Token.LinksTo (filters : NameMap Filter) (scopes : Scopes) (t : Token) :
    Link → String → Prop
  | literal {name : String} (reading : t.reading filters = .ok (.splice [name])) :
      LinksTo filters scopes t .literal name
  | lookUp {r : Reference} {name : String}
      (reading : t.reading filters = .ok (.action (.add (.includeBy (.reference r)))))
      (names : r.Names scopes name) : LinksTo filters scopes t .lookUp name

/-- A chain of templates from the one with the given name on. -/
inductive Engine.Linked (e : Engine) (sources : NameMap String) (scopes : Scopes) :
    String → Links → Prop
  | last {name source : String} (found : sources.find? name = some source)
      (texts : ∀ t ∈ e.delimiters.tokens source.toList, t.kind = .text) :
      Linked e sources scopes name []
  | link {name source next : String} {front back : List Token} {t : Token} {kind : Link}
      {links : Links} (found : sources.find? name = some source)
      (tokens : e.delimiters.tokens source.toList = front ++ t :: back)
      (hfront : ∀ t ∈ front, t.kind = .text) (hback : ∀ t ∈ back, t.kind = .text)
      (tag : t.LinksTo e.filters scopes kind next) (rest : Linked e sources scopes next links) :
      Linked e sources scopes name ((kind, next) :: links)

/-- The nodes of the first template of a chain: those of the templates that it names by literals are in
their places already. -/
inductive Carries (scopes : Scopes) : List Node → Links → Prop
  | last (texts : List Token) : Carries scopes (textNodes texts) []
  | literal (front back : List Token) {inner : List Node} (next : String) {links : Links}
      (rest : Carries scopes inner links) :
      Carries scopes (textNodes front ++ .splice inner :: textNodes back) ((.literal, next) :: links)
  | lookUp (front back : List Token) {r : Reference} {next : String} (links : Links)
      (names : r.Names scopes next) :
      Carries scopes (textNodes front ++ .includeBy (.reference r) :: textNodes back)
        ((.lookUp, next) :: links)

/-- What becomes of the first template of a chain where so many templates may be compiled inside one
another. Nothing but what is kept under the given names changes. -/
inductive Arrives (limit : Nat) (scopes : Scopes) (links : Links) (depth : Nat) (touched : List String)
    (m : Memory) : Except Error Program × Memory → Prop
  | compiled {p : Program} {n : Memory} (enough : Link.run links.kinds < depth)
      (carries : Carries scopes p.root links)
      (others : ∀ name, name ∉ touched → n.cache.find? name = m.cache.find? name) :
      Arrives limit scopes links depth touched m (.ok p, n)
  | limited {error : Error} {n : Memory} (deep : depth ≤ Link.run links.kinds)
      (cause : error.cause = .compileDepth limit) :
      Arrives limit scopes links depth touched m (.error error, n)

namespace Engine

variable {e : Engine} {sources : NameMap String} {files : FileSystem} {scopes : Scopes} {m : Memory}

theorem Linked.exists_source {name : String} {links : Links}
    (chain : e.Linked sources scopes name links) : ∃ source, sources.find? name = some source := by
  cases chain with
  | last found => exact ⟨_, found⟩
  | link found => exact ⟨_, found⟩

/-- A name under which nothing is kept is compiled and then kept. -/
theorem loadWith_absent (hloader : e.loader = .sources sources) (compile : Compile)
    {name source : String} (absent : m.cache.find? name = none)
    (found : sources.find? name = some source) :
    e.loadWith files compile [name] m = (compile source (some name) >>= keepFirst name) m := by
  simp only [loadWith, hloader]
  rw [loadFromSources, MemoryM.bind_run, cached, absent]
  dsimp only
  rw [found]

theorem load_of_compile (hloader : e.loader = .sources sources) {compile : Compile}
    {name source : String} {links : Links} {depth : Nat} (absent : m.cache.find? name = none)
    (found : sources.find? name = some source) (apart : name ∉ links.names)
    (compiled : Arrives e.maxIncludeDepth scopes links depth links.leading.names m
      (compile source (some name) m)) :
    Arrives e.maxIncludeDepth scopes links depth (name :: links.leading.names) m
      (e.loadWith files compile [name] m) := by
  rw [loadWith_absent hloader compile absent found, MemoryM.bind_run]
  generalize compile source (some name) m = r at compiled
  cases compiled with
  | limited deep cause => exact .limited deep cause
  | @compiled p n enough carries others =>
      dsimp only
      rw [keepFirst, others name (Links.not_mem_leading apart), absent]
      refine .compiled enough carries fun other untouched => ?_
      obtain ⟨different, untouched⟩ := not_or.1 (List.mem_cons.not.1 untouched)
      dsimp only
      rw [NameMap.find?_insert_of_ne _ _ (Ne.symm different), others other untouched]

/-- The first template of a chain compiles if fewer literals follow it than templates may be compiled
inside one another. The induction is on the chain; each literal takes up one level. -/
theorem compile_linked (hloader : e.loader = .sources sources) {name source : String} {links : Links}
    (chain : e.Linked sources scopes name links) (found : sources.find? name = some source)
    (distinct : links.names.Nodup) (absent : ∀ n ∈ links.names, m.cache.find? n = none)
    (depth : Nat) :
    Arrives e.maxIncludeDepth scopes links depth links.leading.names m
      (e.compileWithin files depth source (some name) m) := by
  induction chain generalizing source depth m with
  | last found' texts =>
      cases found.symm.trans found'
      cases depth with
      | zero => exact .limited (Nat.zero_le _) rfl
      | succ depth =>
          rw [compileWithin, compileSource_run, TagReader.nodes_texts texts]
          exact .compiled (Nat.succ_pos _) (.last _) fun _ _ => rfl
  | @link name text next front back t kind links found' tokens hfront hback tag rest ih =>
      obtain rfl : source = text := Option.some.inj (found.symm.trans found')
      cases depth with
      | zero => exact .limited (Nat.zero_le _) rfl
      | succ depth =>
          rw [compileWithin, compileSource_run, tokens]
          cases tag with
          | lookUp reading names =>
              rw [TagReader.nodes_between hfront hback (by rw [TagReader.action_run, reading])]
              exact .compiled (Nat.succ_pos _) (.lookUp _ _ _ names) fun _ _ => rfl
          | literal reading =>
              obtain ⟨apart, distinct⟩ := List.nodup_cons.1 distinct
              obtain ⟨absentNext, absent⟩ := List.forall_mem_cons.1 absent
              obtain ⟨nextSource, foundNext⟩ := rest.exists_source
              have load : Arrives e.maxIncludeDepth scopes links depth (next :: links.leading.names) m
                  (e.loadWith files (e.compileWithin files depth) [next] m) :=
                load_of_compile hloader absentNext foundNext apart (ih foundNext distinct absent depth)
              generalize hload : e.loadWith files (e.compileWithin files depth) [next] m = r at load
              cases load with
              | @limited error n deep cause =>
                  have failed : TagReader.action ⟨e.filters, source,
                      e.loadWith files (e.compileWithin files depth)⟩ t m =
                        (.error (error.enrich source t.span), n) := by
                    rw [TagReader.action_run, reading]
                    dsimp only
                    rw [hload]
                  rw [TagReader.nodes_between_error hfront failed]
                  exact .limited (Nat.succ_le_succ deep) cause
              | @compiled p n enough carries others =>
                  have added : TagReader.action ⟨e.filters, source,
                      e.loadWith files (e.compileWithin files depth)⟩ t m =
                        (.ok (.add (.splice p.root)), n) := by
                    rw [TagReader.action_run, reading]
                    dsimp only
                    rw [hload]
                  rw [TagReader.nodes_between hfront hback added]
                  exact .compiled (Nat.succ_lt_succ enough) (.literal _ _ next carries) others

/-- Loading the first template of a chain: the literals that follow it have to be fewer than the limit.
-/
theorem load_linked (files : FileSystem) (m : Memory) (hloader : e.loader = .sources sources)
    {name : String} {links : Links} (chain : e.Linked sources scopes name links)
    (distinct : (name :: links.names).Nodup)
    (absent : ∀ n ∈ name :: links.names, m.cache.find? n = none) :
    Arrives e.maxIncludeDepth scopes links e.maxIncludeDepth (name :: links.leading.names) m
      (e.load files [name] m) := by
  obtain ⟨apart, distinct⟩ := List.nodup_cons.1 distinct
  obtain ⟨absentHere, absent⟩ := List.forall_mem_cons.1 absent
  obtain ⟨source, found⟩ := chain.exists_source
  exact load_of_compile hloader absentHere found apart
    (compile_linked hloader chain found distinct absent e.maxIncludeDepth)

end Engine

end TextTemplate
