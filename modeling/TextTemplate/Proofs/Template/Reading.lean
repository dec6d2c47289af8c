import TextTemplate.Proofs.Result
import TextTemplate.Proofs.Template.Pieces
import TextTemplate.Template.Tag

/-!
# Reading templates

What reading a token does to the memory, in one equation, and what a whole template is made of: its
pieces are those of its tokens.
-/

namespace TextTemplate

namespace MemoryM

variable {α β : Type}

theorem bind_run (act : MemoryM α) (next : α → MemoryM β) (m : Memory) :
    (act >>= next) m =
      match act m with
      | (.ok a, m) => next a m
      | (.error e, m) => (.error e, m) := by
  change (act m >>= fun p => ExceptT.bindCont next p.1 p.2 : Id _) = _
  rcases act m with ⟨e | a, m⟩ <;> rfl

theorem bind_ok {act : MemoryM α} {next : α → MemoryM β} {b : β} {m n : Memory}
    (h : (act >>= next) m = (.ok b, n)) : ∃ a k, act m = (.ok a, k) ∧ next a k = (.ok b, n) := by
  rw [bind_run] at h
  rcases first : act m with ⟨e | a, k⟩
  · rw [first] at h
    cases h
  · rw [first] at h
    exact ⟨a, k, rfl, h⟩

end MemoryM

/-- A number has been drawn. -/
def Memory.drawn (m : Memory) : Memory := { m with nextId := m.nextId + 1 }

namespace TagReader

variable (r : TagReader)

/-- Reading a token draws a number, loads a template or leaves the memory alone. -/
theorem action_run (t : Token) (m : Memory) :
    r.action t m =
      match t.reading r.filters with
      | .error cause => (.error (Error.located cause r.source t.span), m)
      | .ok (.action action) => (.ok action, m)
      | .ok (.cycle items) => (.ok (.add (.cycle m.nextId items)), m.drawn)
      | .ok (.block title) => (.ok (.enter (.block m.nextId title)), m.drawn)
      | .ok (.splice names) =>
        match r.load names m with
        | (.ok program, m) => (.ok (.add (.splice program.root)), m)
        | (.error e, m) => (.error (e.enrich r.source t.span), m) := by
  unfold action
  rw [MemoryM.bind_run]
  cases t.reading r.filters with
  | error cause => rfl
  | ok reading =>
      cases reading with
      | action a => rfl
      | cycle items => rfl
      | block title => rfl
      | splice names =>
          change (r.loadFor t names >>= fun p => pure (Action.add (.splice p.root))) m = _
          rw [MemoryM.bind_run]
          unfold loadFor
          dsimp only
          rcases r.load names m with ⟨e | p, m⟩ <;> rfl

theorem outline_cons (o : Outline) (t : Token) (ts : List Token) (m : Memory) :
    r.outline o (t :: ts) m =
      match r.action t m with
      | (.error e, m) => (.error e, m)
      | (.ok action, m) =>
        match o.act t.span action with
        | .error cause => (.error (Error.located cause r.source t.span), m)
        | .ok o => r.outline o ts m := by
  rw [outline, MemoryM.bind_run]
  rcases r.action t m with ⟨e | action, m⟩
  · rfl
  · simp only [MemoryM.bind_run]
    cases o.act t.span action <;> rfl

theorem nodes_run (ts : List Token) (m : Memory) :
    r.nodes ts m =
      match r.outline .start ts m with
      | (.error e, m) => (.error e, m)
      | (.ok o, m) =>
        match o.finish with
        | .ok nodes => (.ok nodes, m)
        | .error frame =>
          (.error (Error.located (.unclosed frame.opener.endTag) r.source frame.span), m) := by
  rw [nodes, MemoryM.bind_run]
  rcases r.outline .start ts m with ⟨e | o, m⟩
  · rfl
  · simp only
    cases o.finish <;> rfl

variable {r} in
theorem outline_ok {o o' : Outline} {t : Token} {ts : List Token} {m m' : Memory}
    (h : r.outline o (t :: ts) m = (.ok o', m')) :
    ∃ action m₁ o₁, r.action t m = (.ok action, m₁) ∧ o.act t.span action = .ok o₁ ∧
      r.outline o₁ ts m₁ = (.ok o', m') := by
  obtain ⟨action, m₁, first, h⟩ := MemoryM.bind_ok h
  cases hact : o.act t.span action with
  | error cause =>
      rw [hact] at h
      cases h
  | ok o₁ =>
      rw [hact] at h
      exact ⟨action, m₁, o₁, first, hact, h⟩

variable {r} in
theorem nodes_ok {ts : List Token} {root : List Node} {m m' : Memory}
    (h : r.nodes ts m = (.ok root, m')) :
    ∃ o, r.outline .start ts m = (.ok o, m') ∧ o.finish = .ok root := by
  obtain ⟨o, m₁, outline, h⟩ := MemoryM.bind_ok h
  cases finish : o.finish with
  | error frame =>
      rw [finish] at h
      cases h
  | ok nodes =>
      rw [finish] at h
      cases h
      exact ⟨o, outline, finish⟩

theorem nodes_memory (ts : List Token) (m : Memory) :
    (r.nodes ts m).2 = (r.outline .start ts m).2 := by
  rw [nodes_run]
  rcases r.outline .start ts m with ⟨error | o, m'⟩
  · rfl
  · dsimp only
    cases o.finish <;> rfl

/-! What holds of the memory while numbers are drawn and templates are loaded holds after reading, also
if that fails. -/

section

variable {r} {I : Memory → Prop} (draws : ∀ {m}, I m → I m.drawn)
  (loads : ∀ {m} names, I m → I (r.load names m).2)

include draws loads

theorem action_keeps (t : Token) {m : Memory} (hm : I m) : I (r.action t m).2 := by
  rw [action_run]
  cases t.reading r.filters with
  | error cause => exact hm
  | ok reading =>
      cases reading with
      | action a => exact hm
      | cycle items => exact draws hm
      | block title => exact draws hm
      | splice names =>
          have loaded := loads names hm
          revert loaded
          dsimp only
          rcases r.load names m with ⟨error | p, m'⟩ <;> exact id

theorem outline_keeps (ts : List Token) (o : Outline) {m : Memory} (hm : I m) :
    I (r.outline o ts m).2 := by
  induction ts generalizing o m with
  | nil => exact hm
  | cons t ts ih =>
      have first := action_keeps (I := I) draws loads t hm
      rw [outline_cons]
      revert first
      rcases r.action t m with ⟨error | action, m₁⟩
      · exact id
      · intro first
        dsimp only
        cases o.act t.span action with
        | error cause => exact first
        | ok o' => exact ih o' first

end

/-! ## Whole templates -/

/-- Reading the tokens one after the other comes to these actions. -/
inductive Performs (r : TagReader) : Memory → List Token → List Action → Memory → Prop
  | nil (m : Memory) : Performs r m [] [] m
  | cons {t : Token} {ts : List Token} {action : Action} {actions : List Action} {m m₁ m₂ : Memory}
      (first : r.action t m = (.ok action, m₁)) (rest : Performs r m₁ ts actions m₂) :
      Performs r m (t :: ts) (action :: actions) m₂

theorem performs_of_outline {r : TagReader} {ts : List Token} {o o' : Outline} {m m' : Memory}
    (h : r.outline o ts m = (.ok o', m')) :
    ∃ actions, r.Performs m ts actions m' ∧ o'.items = o.items ++ actions.flatMap Action.items := by
  induction ts generalizing o m with
  | nil =>
      cases h
      exact ⟨[], .nil _, by simp⟩
  | cons t ts ih =>
      obtain ⟨action, m₁, o₁, first, hact, h⟩ := outline_ok h
      obtain ⟨actions, rest, hitems⟩ := ih h
      refine ⟨action :: actions, .cons first rest, ?_⟩
      rw [hitems, Outline.items_act hact, List.flatMap_cons, List.append_assoc]

/-- The items of a template are those of its tokens. -/
theorem items_of_nodes {r : TagReader} {ts : List Token} {root : List Node} {m m' : Memory}
    (h : r.nodes ts m = (.ok root, m')) :
    ∃ actions, r.Performs m ts actions m' ∧ itemsOf root = actions.flatMap Action.items := by
  obtain ⟨o, outline, finish⟩ := nodes_ok h
  obtain ⟨actions, performs, hitems⟩ := performs_of_outline outline
  exact ⟨actions, performs, by simp [Outline.items_finish finish, hitems]⟩

/-- The pieces of a template are those of its tokens. -/
theorem performs_of_nodes {r : TagReader} {ts : List Token} {root : List Node} {m m' : Memory}
    (h : r.nodes ts m = (.ok root, m')) :
    ∃ actions, r.Performs m ts actions m' ∧ piecesOf root = actions.flatMap Action.pieces := by
  obtain ⟨actions, hperforms, hitems⟩ := items_of_nodes h
  exact ⟨actions, hperforms, by rw [piecesOf_eq_items, hitems, ← Action.flatMap_pieces]⟩

end TagReader

/-! ## Loading what the tokens name -/

namespace TagReader

variable {filters : NameMap Filter} {source : String} {load load' : List String → MemoryM Program}

/-- Reading depends on nothing but what the names of the tokens load. -/
theorem outline_congr {ts : List Token}
    (h : ∀ t ∈ ts, ∀ names, t.reading filters = .ok (.splice names) → load names = load' names)
    (o : Outline) (m : Memory) :
    outline ⟨filters, source, load⟩ o ts m = outline ⟨filters, source, load'⟩ o ts m := by
  induction ts generalizing o m with
  | nil => rfl
  | cons t ts ih =>
      have first : action ⟨filters, source, load⟩ t m = action ⟨filters, source, load'⟩ t m := by
        rw [action_run, action_run]
        dsimp only
        cases hreading : t.reading filters with
        | error cause => rfl
        | ok reading =>
            cases reading with
            | splice names => simp only [h t List.mem_cons_self names hreading]
            | _ => rfl
      rw [outline_cons, outline_cons, first]
      rcases action ⟨filters, source, load'⟩ t m with ⟨e | action, m₁⟩
      · rfl
      · dsimp only
        cases o.act t.span action with
        | error cause => rfl
        | ok o₁ => exact ih (fun t ht => h t (List.mem_cons_of_mem _ ht)) o₁ m₁

theorem nodes_congr {ts : List Token}
    (h : ∀ t ∈ ts, ∀ names, t.reading filters = .ok (.splice names) → load names = load' names)
    (m : Memory) : nodes ⟨filters, source, load⟩ ts m = nodes ⟨filters, source, load'⟩ ts m := by
  rw [nodes_run, nodes_run, outline_congr h]

end TagReader

/-! ## A node in place of a token -/

namespace TagReader

variable (r : TagReader)

/-- The nodes of a template all of whose tokens were read. -/
def close (o : Outline) : MemoryM (List Node) :=
  match o.finish with
  | .ok nodes => return nodes
  | .error frame => throw (Error.located (.unclosed frame.opener.endTag) r.source frame.span)

theorem nodes_eq (ts : List Token) : r.nodes ts = r.outline .start ts >>= r.close := rfl

/-- The nodes of a template that has the given node between the tokens. -/
def nodesAround (before : List Token) (node : Node) (behind : List Token) : MemoryM (List Node) := do
  let o ← r.outline .start before
  let o ← r.outline (o.add node) behind
  r.close o

theorem outline_append (o : Outline) (ts us : List Token) :
    r.outline o (ts ++ us) = r.outline o ts >>= fun o => r.outline o us := by
  induction ts generalizing o with
  | nil => simp [outline]
  | cons t ts ih => simp only [List.cons_append, outline, ih, bind_assoc]

variable {r}

/-- A token that does nothing but add a node. -/
theorem nodes_eq_nodesAround {before behind : List Token} {t : Token} {node : Node}
    (h : r.action t = pure (.add node)) :
    r.nodes (before ++ t :: behind) = r.nodesAround before node behind := by
  have added : ∀ o : Outline, r.outline o (t :: behind) = r.outline (o.add node) behind := by
    intro o
    rw [outline, h, pure_bind]
    exact pure_bind (o.add node) _
  simp only [nodes_eq, nodesAround, outline_append, added, bind_assoc]

theorem Performs.unique {m m₁ m₂ : Memory} {ts : List Token} {actions actions' : List Action}
    (h : r.Performs m ts actions m₁) (h' : r.Performs m ts actions' m₂) :
    actions = actions' ∧ m₁ = m₂ := by
  induction h generalizing actions' with
  | nil m =>
      cases h'
      exact ⟨rfl, rfl⟩
  | cons first rest ih =>
      cases h' with
      | cons first' rest' =>
          rw [first] at first'
          cases first'
          obtain ⟨rfl, rfl⟩ := ih rest'
          exact ⟨rfl, rfl⟩

theorem performs_of_nodesAround {before behind : List Token} {node : Node} {root : List Node}
    {m m' : Memory} (h : r.nodesAround before node behind m = (.ok root, m')) :
    ∃ front back m₁, r.Performs m before front m₁ ∧ r.Performs m₁ behind back m' ∧
      piecesOf root = front.flatMap Action.pieces ++ node.pieces ++ back.flatMap Action.pieces := by
  obtain ⟨o, m₁, hbefore, h⟩ := MemoryM.bind_ok h
  obtain ⟨o', m₂, hbehind, h⟩ := MemoryM.bind_ok h
  simp only [close] at h
  cases hfinish : o'.finish with
  | error frame =>
      rw [hfinish] at h
      cases h
  | ok nodes =>
      rw [hfinish] at h
      cases h
      obtain ⟨front, hfront, hitems⟩ := performs_of_outline hbefore
      obtain ⟨back, hback, hitems'⟩ := performs_of_outline hbehind
      refine ⟨front, back, m₁, hfront, hback, ?_⟩
      rw [piecesOf_eq_items, Outline.items_finish hfinish, hitems', Outline.items_add, hitems,
        Outline.items_start, List.nil_append, List.flatMap_append, List.flatMap_append,
        ← Action.flatMap_pieces, ← Action.flatMap_pieces, ← node.pieces_eq_items]

/-- Two nodes at the same place stand between the same pieces. -/
theorem pieces_nodesAround {before behind : List Token} {node node' : Node} {root root' : List Node}
    {m m₁ m₂ : Memory} (h : r.nodesAround before node behind m = (.ok root, m₁))
    (h' : r.nodesAround before node' behind m = (.ok root', m₂)) :
    ∃ front back, piecesOf root = front ++ node.pieces ++ back ∧
      piecesOf root' = front ++ node'.pieces ++ back := by
  obtain ⟨front, back, n, hfront, hback, hpieces⟩ := performs_of_nodesAround h
  obtain ⟨front', back', n', hfront', hback', hpieces'⟩ := performs_of_nodesAround h'
  obtain ⟨rfl, rfl⟩ := hfront.unique hfront'
  obtain ⟨rfl, rfl⟩ := hback.unique hback'
  exact ⟨_, _, hpieces, hpieces'⟩

end TagReader

/-! ## Texts -/

/-- The nodes of texts. -/
def textNodes (ts : List Token) : List Node := ts.map fun t => .text (String.ofList t.content)

namespace TagReader

variable {r : TagReader}

/-- A text adds a node, whatever it says. -/
theorem action_text {t : Token} (kind : t.kind = .text) (m : Memory) :
    r.action t m = (.ok (.add (.text (String.ofList t.content))), m) := by
  rw [action_run, Token.reading, kind]
  rfl

theorem outline_texts {ts : List Token} (texts : ∀ t ∈ ts, t.kind = .text) (behind : List Token)
    (nodes : List Node) (m : Memory) :
    r.outline ⟨[], nodes⟩ (ts ++ behind) m =
      r.outline ⟨[], (textNodes ts).reverse ++ nodes⟩ behind m := by
  induction ts generalizing nodes with
  | nil => rfl
  | cons t ts ih =>
      obtain ⟨kind, others⟩ := List.forall_mem_cons.1 texts
      rw [List.cons_append, outline_cons, action_text kind]
      refine (ih others _).trans ?_
      rw [textNodes, textNodes, List.map_cons, List.reverse_cons, List.append_assoc]
      rfl

theorem nodes_of_outline {ts : List Token} {nodes : List Node} {m n : Memory}
    (h : r.outline .start ts m = (.ok ⟨[], nodes⟩, n)) : r.nodes ts m = (.ok nodes.reverse, n) := by
  rw [nodes_run, h]
  rfl

theorem nodes_texts {ts : List Token} (texts : ∀ t ∈ ts, t.kind = .text) (m : Memory) :
    r.nodes ts m = (.ok (textNodes ts), m) := by
  have read := outline_texts (r := r) texts [] [] m
  rw [List.append_nil, List.append_nil, outline] at read
  rw [nodes_of_outline read, List.reverse_reverse]

/-! One tag between texts decides what becomes of them. -/

section

variable {front back : List Token} (hfront : ∀ t ∈ front, t.kind = .text)
  {t : Token} {m n : Memory}

include hfront

theorem nodes_between (hback : ∀ t ∈ back, t.kind = .text) {node : Node}
    (h : r.action t m = (.ok (.add node), n)) :
    r.nodes (front ++ t :: back) m = (.ok (textNodes front ++ node :: textNodes back), n) := by
  have behind := outline_texts (r := r) hback [] (node :: (textNodes front).reverse) n
  rw [List.append_nil, outline] at behind
  have read : r.outline .start (front ++ t :: back) m =
      (.ok ⟨[], (textNodes back).reverse ++ node :: (textNodes front).reverse⟩, n) := by
    rw [Outline.start, outline_texts hfront, outline_cons, h, List.append_nil]
    exact behind
  rw [nodes_of_outline read, List.reverse_append, List.reverse_cons, List.reverse_reverse,
    List.reverse_reverse, List.append_assoc, List.singleton_append]

theorem nodes_between_error {error : Error} (h : r.action t m = (.error error, n)) :
    r.nodes (front ++ t :: back) m = (.error error, n) := by
  rw [nodes_run, Outline.start, outline_texts hfront, outline_cons, h]

end

end TagReader

/-! ## Tags that name templates -/

/-- The token is an include tag or an extends tag. -/
def Token.Inclusion (t : Token) : Prop :=
  t.kind = .statement ∧ (TagName.ofWord? (String.ofList t.word) = some .inclusion ∨
    TagName.ofWord? (String.ofList t.word) = some .extension)

/-- Other tags bring along nothing from other templates. -/
inductive Reading.Local : Reading → Prop
  | action {action : Action} (h : action.pieces = []) : Local (.action action)
  | cycle (items : Expr) : Local (.cycle items)
  | block (title : String) : Local (.block title)

/-- What a tag of this name may read as. -/
inductive TagName.Makes : TagName → Reading → Prop
  | loop (names : List String) (items : Expr) (tag : String) :
      Makes .loop (.action (.enter (.loop names items tag)))
  | fallback : Makes .fallback (.action (.add .emptyMark))
  | branch (test : Test) : Makes .branch (.action (.enter (.branch test)))
  | otherBranch (test : Test) : Makes .otherBranch (.action (.add (.elifMark test)))
  | lastBranch : Makes .lastBranch (.action (.add .elseMark))
  | cycle (items : Expr) : Makes .cycle (.cycle items)
  | inclusion (names : List String) : Makes .inclusion (.splice names)
  | lookUp (name : Expr) : Makes .inclusion (.action (.add (.includeBy name)))
  | extension (names : List String) : Makes .extension (.splice names)
  | block (title : String) : Makes .block (.block title)
  | spaceless : Makes .spaceless (.action (.enter .spaceless))
  | trim : Makes .trim (.action (.enter .trim))
  | binding (name : String) (value : Expr) : Makes .binding (.action (.enter (.bind name value)))

theorem Token.cases_namedTemplate {t : Token} {filters : NameMap Filter} {allowVariable : Bool}
    {reading : Reading} (h : t.namedTemplate filters allowVariable = .ok reading) :
    (∃ names, reading = .splice names) ∨
      allowVariable = true ∧ ∃ name, reading = .action (.add (.includeBy name)) := by
  obtain ⟨text, _, h⟩ := exists_of_bind_eq_ok h
  obtain ⟨e, _, h⟩ := exists_of_bind_eq_ok h
  cases e with
  | literal value =>
      simp only at h
      split at h
      · cases h
        exact .inl ⟨_, rfl⟩
      · cases h
  | reference target =>
      simp only at h
      split at h
      · cases h
        exact .inr ⟨by assumption, _, rfl⟩
      · cases h

theorem Token.makes_of_opening {t : Token} {filters : NameMap Filter} {name : TagName}
    {reading : Reading} (h : t.opening filters name = .ok reading) : name.Makes reading := by
  cases name with
  | inclusion =>
      rcases cases_namedTemplate h with ⟨names, rfl⟩ | ⟨_, name, rfl⟩
      · exact .inclusion names
      · exact .lookUp name
  | extension =>
      rcases cases_namedTemplate h with ⟨names, rfl⟩ | ⟨hallowed, _⟩
      · exact .extension names
      -- Only an include may look up the name of its template.
      · cases hallowed
  | loop =>
      simp only [opening, loopTag] at h
      split at h
      · cases h
      · obtain ⟨items, _, h⟩ := exists_of_bind_eq_ok h
        cases h
        exact .loop ..
  | branch =>
      obtain ⟨text, _, h⟩ := exists_of_bind_eq_ok h
      obtain ⟨test, _, h⟩ := exists_of_bind_eq_ok h
      cases h
      exact .branch test
  | otherBranch =>
      obtain ⟨text, _, h⟩ := exists_of_bind_eq_ok h
      obtain ⟨test, _, h⟩ := exists_of_bind_eq_ok h
      cases h
      exact .otherBranch test
  | cycle =>
      obtain ⟨text, _, h⟩ := exists_of_bind_eq_ok h
      obtain ⟨items, _, h⟩ := exists_of_bind_eq_ok h
      cases h
      exact .cycle items
  | block =>
      obtain ⟨title, _, h⟩ := exists_of_bind_eq_ok h
      cases h
      exact .block _
  | binding =>
      obtain ⟨text, _, h⟩ := exists_of_bind_eq_ok h
      split at h
      · cases h
      · obtain ⟨value, _, h⟩ := exists_of_bind_eq_ok h
        cases h
        exact .binding ..
  | fallback =>
      cases h
      exact .fallback
  | lastBranch =>
      cases h
      exact .lastBranch
  | spaceless =>
      cases h
      exact .spaceless
  | trim =>
      cases h
      exact .trim

theorem TagName.Makes.local {name : TagName} {reading : Reading} (h : name.Makes reading)
    (hinclusion : name ≠ .inclusion) (hextension : name ≠ .extension) : reading.Local := by
  cases h with
  | inclusion | lookUp => exact absurd rfl hinclusion
  | extension => exact absurd rfl hextension
  | cycle items => exact .cycle items
  | block title => exact .block title
  | loop | fallback | branch | otherBranch | lastBranch | spaceless | trim | binding =>
      exact .action rfl

theorem Token.local_of_not_inclusion {t : Token} (h : ¬ t.Inclusion) {filters : NameMap Filter}
    {reading : Reading} (hreading : t.reading filters = .ok reading) : reading.Local := by
  unfold Token.reading at hreading
  cases hkind : t.kind with
  | text =>
      rw [hkind] at hreading
      cases hreading
      exact .action rfl
  | print escape =>
      rw [hkind] at hreading
      obtain ⟨body, _, hreading⟩ := exists_of_bind_eq_ok hreading
      cases hreading
      exact .action rfl
  | statement =>
      rw [hkind] at hreading
      simp only at hreading
      cases hname : TagName.ofWord? (String.ofList t.word) with
      | none =>
          rw [hname] at hreading
          simp only at hreading
          split at hreading
          · cases hreading
            exact .action rfl
          · cases hreading
      | some name =>
          rw [hname] at hreading
          refine (makes_of_opening hreading).local (fun same => h ⟨hkind, .inl ?_⟩)
            fun same => h ⟨hkind, .inr ?_⟩
          · rw [hname, same]
          · rw [hname, same]

/-- A token that neither draws nor loads brings along at most a template to be looked up. -/
theorem Token.pieces_of_reading {t : Token} {filters : NameMap Filter} {action : Action}
    (h : t.reading filters = .ok (.action action)) :
    action.pieces = [] ∨ action.pieces = [.lookUp] := by
  by_cases hinclusion : t.Inclusion
  · obtain ⟨hkind, hname⟩ := hinclusion
    simp only [Token.reading, hkind] at h
    rcases hname with hname | hname
    · rw [hname] at h
      cases makes_of_opening h
      exact .inr rfl
    · rw [hname] at h
      cases makes_of_opening h
  · cases t.local_of_not_inclusion hinclusion h with
    | action h => exact .inl h

end TextTemplate
