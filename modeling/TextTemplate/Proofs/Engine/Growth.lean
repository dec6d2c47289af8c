import TextTemplate.Proofs.Engine.Lookup

/-!
# What compiling keeps

While a template is compiled from a file, the loader keeps the programs of the templates inside of it.
Each of them is put in place, so it has fewer templates in place than the one around it. Hence no
template is kept while it is being compiled itself.
-/

namespace TextTemplate

namespace Engine

/-- What is loaded has at least as many templates in place as what is kept from then on. -/
def LoadsGrow (e : Engine) (files : FileSystem) (load : List String → MemoryM Program) : Prop :=
  ∀ {names m p n}, load names m = (.ok p, n) → ∀ {name q}, e.kept files n name = some q →
    e.kept files m name = some q ∨ placed q.root ≤ placed p.root

/-- What is compiled has more templates in place than what is kept from then on. -/
def CompilesGrow (e : Engine) (files : FileSystem) (compile : Compile) : Prop :=
  ∀ {source name m p n}, compile source name m = (.ok p, n) → ∀ {other q},
    e.kept files n other = some q → e.kept files m other = some q ∨ placed q.root < placed p.root

variable {e : Engine} {files : FileSystem}

theorem kept_drawn (m : Memory) (name : String) : e.kept files m.drawn name = e.kept files m name :=
  rfl

/-- What is kept while tokens are read is inside of a template that one of them puts in place. -/
theorem performs_grow {r : TagReader} (hload : e.LoadsGrow files r.load) {m n : Memory}
    {ts : List Token} {actions : List Action} (h : r.Performs m ts actions n) {name : String}
    {q : Program} (hq : e.kept files n name = some q) :
    e.kept files m name = some q ∨
      ∃ body, Piece.splice body ∈ actions.flatMap Action.pieces ∧ placed q.root ≤ placed body := by
  induction h with
  | nil m => exact .inl hq
  | @cons t ts action actions m m₁ m₂ first rest ih =>
      rcases ih hq with hq | ⟨body, hbody, hle⟩
      · rcases TagReader.action_ok first with ⟨_, -, rfl, -⟩ | ⟨_, -, rfl, -⟩ | ⟨_, -, rfl, -⟩ |
          ⟨names, p, -, load, pieces⟩
        · exact .inl hq
        · exact .inl hq
        · exact .inl hq
        · refine (hload load hq).imp_right fun hle => ⟨p.root, ?_, hle⟩
          rw [List.flatMap_cons, pieces]
          exact List.mem_cons_self
      · exact .inr ⟨body, List.mem_append_right _ hbody, hle⟩

theorem compileSource_grow {load : List String → MemoryM Program} (hload : e.LoadsGrow files load) :
    e.CompilesGrow files (e.compileSource load) := by
  intro source name m p n run other q hq
  obtain ⟨m₁, hnodes, hmemory, -⟩ := compileSource_ok run
  obtain ⟨actions, hperforms, hpieces⟩ := TagReader.performs_of_nodes hnodes
  rw [hmemory, kept_drawn] at hq
  refine (performs_grow hload hperforms hq).imp_right ?_
  rintro ⟨body, hbody, hle⟩
  rw [← hpieces] at hbody
  exact Nat.lt_of_le_of_lt hle (placed_lt_of_splice hbody)

theorem loadFirst_grow {root : Path} (hloader : e.loader = .freshFiles root) {compile : Compile}
    (hcompile : e.CompilesGrow files compile) (all : List String) :
    e.LoadsGrow files (e.loadFirst files compile all) := by
  intro names m p n run name q hq
  obtain ⟨candidate, file, -, hfile, ⟨-, rfl⟩ | ⟨-, source, m₁, -, hrun, rfl⟩⟩ :=
    loadFirst_ok hloader run
  · exact .inl hq
  · rw [kept_latest hloader hfile] at hq
    by_cases same : candidate = name
    · rw [if_pos same] at hq
      cases hq
      exact .inr (Nat.le_refl _)
    · rw [if_neg same] at hq
      exact (hcompile hrun hq).imp_right Nat.le_of_lt

theorem compileWithin_grow {files' : FileSystem} (hserves : e.Serves files files') {root : Path}
    (hloader : e.loader = .freshFiles root) (depth : Nat) :
    e.CompilesGrow files (e.compileWithin files' depth) := by
  induction depth with
  | zero =>
      intro source name m p n run
      cases run
  | succ depth ih =>
      have loads : e.LoadsGrow files (e.loadWith files' (e.compileWithin files' depth)) := by
        intro names m p n run name q hq
        rw [hserves] at run
        exact loadFirst_grow hloader ih names run hq
      intro source name m p n run other q hq
      exact compileSource_grow loads run hq

end Engine

end TextTemplate
