import TextTemplate.Proofs.Template.Reading

/-!
# Bracketed templates

Tags that enclose others and their end tags are the brackets of a template. `Nested` says by a grammar
which sequences of tokens are properly nested, `Unclosed` which are the fronts of such sequences, and
`Offends` what is wrong with any other. The tags that reading keeps open are those that the grammar
leaves unclosed, so exactly the nested templates are accepted, and any other ends with its first
offence (`TagReader.nodes_of_brackets`).
-/

namespace TextTemplate

/-! ## Roles -/

/-- The end tag that is registered for a tag, if the tag encloses others. -/
def TagName.endTag? : TagName → Option String
  | .loop => some "endfor"
  | .branch => some "endif"
  | .block => some "endblock"
  | .spaceless => some "endspaceless"
  | .trim => some "endtrim"
  | .binding => some "endwith"
  | .fallback | .otherBranch | .lastBranch | .cycle | .inclusion | .extension => none

/-- What a token is to the brackets of a template. -/
inductive Role where
  /-- A text, a print, or a tag that encloses nothing. -/
  | stands
  | opens (endTag : String)
  | closes (endTag : String)
  | unknown (word : String)
deriving DecidableEq, Repr

namespace Token

/-- The role of a token, read off its first word alone. -/
def role (t : Token) : Role :=
  match t.kind with
  | .text | .print _ => .stands
  | .statement =>
    let word := String.ofList t.word
    match TagName.ofWord? word with
    | some name =>
      match name.endTag? with
      | some endTag => .opens endTag
      | none => .stands
    | none => if word ∈ endTags then .closes word else .unknown word

/-- All tokens but end tags and the separators `empty` and `else` show something in the template. -/
def shows (t : Token) : Bool :=
  match t.kind with
  | .text | .print _ => true
  | .statement =>
    match TagName.ofWord? (String.ofList t.word) with
    | some .fallback | some .lastBranch | none => false
    | some _ => true

end Token

/-- What a tag of this name shows: an item of its kind. -/
inductive TagName.Shows : TagName → Item → Prop
  | loop (names : List String) (items : Expr) (tag : String) : Shows .loop (.loop names items tag)
  | branch (test : Test) : Shows .branch (.condition test)
  | otherBranch (test : Test) : Shows .otherBranch (.condition test)
  | cycle (id : Nat) (items : Expr) : Shows .cycle (.cycle id items)
  | inclusion (body : List Node) : Shows .inclusion (.splice body)
  | lookUp (name : Expr) : Shows .inclusion (.includeBy name)
  | extension (body : List Node) : Shows .extension (.splice body)
  | block (id : Nat) (title : String) : Shows .block (.block id title)
  | spaceless : Shows .spaceless .spaceless
  | trim : Shows .trim .trim
  | binding (name : String) (value : Expr) : Shows .binding (.bind name value)

/-- What a token shows: a text shows itself, a print tag what it says, and any other tag an item of the
kind that its name stands for. -/
inductive Token.Shows (filters : NameMap Filter) (t : Token) : Item → Prop
  | text (kind : t.kind = .text) : Shows filters t (.text (String.ofList t.content))
  | print {escape : Bool} {body : PrintBody} (kind : t.kind = .print escape)
      (parsed : parsePrint filters t.content = .ok body) : Shows filters t (.print escape body)
  | tag {name : TagName} {item : Item} (kind : t.kind = .statement)
      (named : TagName.ofWord? (String.ofList t.word) = some name) (shows : name.Shows item) :
      Shows filters t item

/-- The role of a token that does this to the outline. -/
def Action.role : Action → Role
  | .add _ => .stands
  | .enter opener => .opens opener.endTag
  | .leave endTag => .closes endTag

namespace TagReader

variable {r : TagReader}

/-- What a token does to the outline agrees with its role and with what it shows. -/
structure Agrees (r : TagReader) (t : Token) (action : Action) : Prop where
  role : t.role = action.role
  shown : t.shows = true → ∃ item, action.items = [item] ∧ t.Shows r.filters item
  silent : t.shows = false → action.items = []

theorem agrees_of_makes {t : Token} {name : TagName} (hkind : t.kind = .statement)
    (hname : TagName.ofWord? (String.ofList t.word) = some name) {reading : Reading}
    (h : name.Makes reading) {m m' : Memory} {action : Action}
    (hperform : r.perform t reading m = (.ok action, m')) : r.Agrees t action := by
  have hrole : t.role = match name.endTag? with | some endTag => .opens endTag | none => .stands := by
    simp only [Token.role, hkind, hname]
  have hshows : t.shows = match name with | .fallback | .lastBranch => false | _ => true := by
    simp only [Token.shows, hkind, hname]
    cases name <;> rfl
  -- A tag that shows the given item, which is all that it brings along.
  have shown : ∀ {item : Item}, t.role = action.role → t.shows = true → action.items = [item] →
      name.Shows item → r.Agrees t action := fun role shows items kind =>
    ⟨role, fun _ => ⟨_, items, .tag hkind hname kind⟩, fun hides => absurd (shows.symm.trans hides) nofun⟩
  cases h with
  | inclusion names | extension names =>
      rw [perform, MemoryM.bind_run] at hperform
      split at hperform
      · cases hperform
        exact shown hrole hshows rfl (by constructor)
      · cases hperform
  | fallback | lastBranch =>
      cases hperform
      exact ⟨hrole, fun shows => absurd (hshows.symm.trans shows) nofun, fun _ => rfl⟩
  | _ =>
      cases hperform
      exact shown hrole hshows rfl (by constructor)

theorem agrees_of_action {t : Token} {m m' : Memory} {action : Action}
    (h : r.action t m = (.ok action, m')) : r.Agrees t action := by
  rw [TagReader.action, MemoryM.bind_run] at h
  rcases hreading : t.reading r.filters with cause | reading
  · rw [hreading] at h
    cases h
  rw [hreading] at h
  replace h : r.perform t reading m = (.ok action, m') := h
  unfold Token.reading at hreading
  split at hreading
  case h_1 hkind =>
    have shows : t.shows = true := by rw [Token.shows, hkind]
    cases hreading
    cases h
    exact ⟨by rw [Token.role, hkind]; rfl, fun _ => ⟨_, rfl, .text hkind⟩,
      fun hides => absurd (shows.symm.trans hides) nofun⟩
  case h_2 escape hkind =>
    have shows : t.shows = true := by rw [Token.shows, hkind]
    obtain ⟨body, parsed, hreading⟩ := exists_of_bind_eq_ok hreading
    cases hreading
    cases h
    exact ⟨by rw [Token.role, hkind]; rfl, fun _ => ⟨_, rfl, .print hkind parsed⟩,
      fun hides => absurd (shows.symm.trans hides) nofun⟩
  case h_3 hkind =>
    simp only at hreading
    cases hname : TagName.ofWord? (String.ofList t.word) with
    | some name =>
        rw [hname] at hreading
        exact agrees_of_makes hkind hname (Token.makes_of_opening hreading) h
    | none =>
        rw [hname] at hreading
        simp only at hreading
        split at hreading
        case isTrue hend =>
          cases hreading
          cases h
          have hmem : String.ofList t.word ∈ endTags := List.contains_iff_mem.mp hend
          have hides : t.shows = false := by simp only [Token.shows, hkind, hname]
          have closes : t.role = .closes (String.ofList t.word) := by
            simp only [Token.role, hkind, hname, if_pos hmem]
          exact ⟨closes, fun shows => absurd (hides.symm.trans shows) nofun, fun _ => rfl⟩
        case isFalse => cases hreading

theorem action_of_unknown {t : Token} {word : String} (h : t.role = .unknown word) (m : Memory) :
    r.action t m = (.error (Error.located (.unknownTag word) r.source t.span), m) := by
  have hreading : t.reading r.filters = .error (.unknownTag word) := by
    unfold Token.role at h
    unfold Token.reading
    cases hkind : t.kind with
    | text | print escape =>
        rw [hkind] at h
        cases h
    | statement =>
        rw [hkind] at h
        simp only at h ⊢
        cases hname : TagName.ofWord? (String.ofList t.word) with
        | some name =>
            rw [hname] at h
            simp only at h
            split at h <;> cases h
        | none =>
            rw [hname] at h
            simp only at h ⊢
            split at h
            case isTrue => cases h
            case isFalse hend =>
              cases h
              rw [if_neg fun hmem => hend (List.contains_iff_mem.mp hmem)]
              rfl
  rw [action_run, hreading]

end TagReader
/-! ## The grammar of nested tokens -/

/-- Every tag that encloses others has its end tag behind it, and what stands between the two is
nested as well. -/
inductive Nested : List Token → Prop
  | nil : Nested []
  | stands {t : Token} {ts : List Token} (alone : t.role = .stands) (behind : Nested ts) :
      Nested (t :: ts)
  | tag {first last : Token} {inside ts : List Token} {endTag : String}
      (start : first.role = .opens endTag) (body : Nested inside) (stop : last.role = .closes endTag)
      (behind : Nested ts) : Nested (first :: inside ++ last :: ts)

/-- The tokens are nested but for some tags whose end tags are missing. The missing end tags are
listed with the places of their tags, the innermost first. -/
inductive Unclosed : List Token → List (String × Span) → Prop
  | none {ts : List Token} (h : Nested ts) : Unclosed ts []
  | tag {ts inside : List Token} {missing : List (String × Span)} {first : Token} {endTag : String}
      (front : Unclosed ts missing) (start : first.role = .opens endTag) (body : Nested inside) :
      Unclosed (ts ++ first :: inside) ((endTag, first.span) :: missing)

/-- The first thing that is wrong with the tokens, and its place. What stands in front of it can be
completed to a nested template; it is not, or the token cannot follow it. -/
inductive Offends (ts : List Token) : Cause → Span → Prop
  | unknown {before behind : List Token} {t : Token} {missing : List (String × Span)} {word : String}
      (split : ts = before ++ t :: behind) (front : Unclosed before missing)
      (h : t.role = .unknown word) : Offends ts (.unknownTag word) t.span
  | unopened {before behind : List Token} {t : Token} {endTag : String}
      (split : ts = before ++ t :: behind) (front : Nested before)
      (h : t.role = .closes endTag) : Offends ts (.unopened endTag) t.span
  | mismatched {before behind : List Token} {t : Token} {missing : List (String × Span)}
      {expected endTag : String} {place : Span} (split : ts = before ++ t :: behind)
      (front : Unclosed before ((expected, place) :: missing)) (h : t.role = .closes endTag)
      (other : expected ≠ endTag) : Offends ts (.mismatched expected endTag) t.span
  | unclosed {missing : List (String × Span)} {expected : String} {place : Span}
      (all : Unclosed ts ((expected, place) :: missing)) : Offends ts (.unclosed expected) place

theorem Nested.append {ts us : List Token} (h : Nested ts) (h' : Nested us) : Nested (ts ++ us) := by
  induction h with
  | nil => exact h'
  | stands alone behind ih => exact .stands alone ih
  | @tag first last inside ts endTag start body stop behind ihbody ih =>
      have whole : first :: inside ++ last :: ts ++ us = first :: inside ++ last :: (ts ++ us) := by
        simp
      rw [whole]
      exact .tag start body stop ih

theorem Unclosed.append {ts us : List Token} {missing : List (String × Span)}
    (h : Unclosed ts missing) (h' : Nested us) : Unclosed (ts ++ us) missing := by
  cases h with
  | none h => exact .none (h.append h')
  | tag front start body =>
      rw [List.append_assoc, List.cons_append]
      exact .tag front start (body.append h')

theorem unclosed_nil_iff {ts : List Token} : Unclosed ts [] ↔ Nested ts := by
  constructor
  · intro h
    cases h with
    | none h => exact h
  · exact .none

/-! ## Expected end tags -/

/-- The end tags that are expected behind a token, given those expected in front of it. -/
def Token.expect (t : Token) (missing : List (String × Span)) :
    Except Cause (List (String × Span)) :=
  match t.role with
  | .stands => .ok missing
  | .opens endTag => .ok ((endTag, t.span) :: missing)
  | .closes endTag =>
    match missing with
    | [] => .error (.unopened endTag)
    | (expected, _) :: missing =>
      if expected = endTag then .ok missing else .error (.mismatched expected endTag)
  | .unknown word => .error (.unknownTag word)

/-- The end tags that are expected behind the tokens, or what is wrong with one of them. -/
def expectAll (missing : List (String × Span)) :
    List Token → Except (Cause × Span) (List (String × Span))
  | [] => .ok missing
  | t :: ts =>
    match t.expect missing with
    | .ok missing => expectAll missing ts
    | .error cause => .error (cause, t.span)

theorem expectAll_append {missing missing' : List (String × Span)} {ts : List Token}
    (h : expectAll missing ts = .ok missing') (us : List Token) :
    expectAll missing (ts ++ us) = expectAll missing' us := by
  induction ts generalizing missing with
  | nil =>
      cases h
      rfl
  | cons t ts ih =>
      rw [expectAll] at h
      rw [List.cons_append, expectAll]
      cases hstep : t.expect missing with
      | error cause =>
          rw [hstep] at h
          cases h
      | ok missing₁ =>
          rw [hstep] at h
          exact ih h

theorem expectAll_nested {ts : List Token} (h : Nested ts) (missing : List (String × Span)) :
    expectAll missing ts = .ok missing := by
  induction h generalizing missing with
  | nil => rfl
  | stands alone behind ih =>
      rw [expectAll, Token.expect, alone]
      exact ih missing
  | @tag first last inside ts endTag start body stop behind ihbody ih =>
      have opened : first.expect missing = .ok ((endTag, first.span) :: missing) := by
        rw [Token.expect, start]
      have closed : last.expect ((endTag, first.span) :: missing) = .ok missing := by
        rw [Token.expect, stop]
        exact if_pos rfl
      rw [List.cons_append, expectAll, opened]
      simp only
      rw [expectAll_append (ihbody _), expectAll, closed]
      exact ih missing

theorem expectAll_unclosed {ts : List Token} {missing : List (String × Span)}
    (h : Unclosed ts missing) : expectAll [] ts = .ok missing := by
  induction h with
  | none h => exact expectAll_nested h []
  | tag front start body ih =>
      rw [expectAll_append ih, expectAll, Token.expect, start]
      exact expectAll_nested body _

/-- A token that may follow leaves its end tag missing or provides the innermost one. -/
theorem Unclosed.snoc {ts : List Token} {t : Token} {missing missing' : List (String × Span)}
    (h : Unclosed ts missing) (hstep : t.expect missing = .ok missing') :
    Unclosed (ts ++ [t]) missing' := by
  unfold Token.expect at hstep
  cases hrole : t.role with
  | stands =>
      rw [hrole] at hstep
      cases hstep
      exact h.append (.stands hrole .nil)
  | opens endTag =>
      rw [hrole] at hstep
      cases hstep
      exact .tag h hrole .nil
  | unknown word =>
      rw [hrole] at hstep
      cases hstep
  | closes endTag =>
      rw [hrole] at hstep
      cases h with
      | none h => cases hstep
      | @tag ts inside missing first expected front start body =>
          simp only at hstep
          split at hstep
          case isFalse => cases hstep
          case isTrue same =>
            cases hstep
            subst same
            have whole : Nested (first :: inside ++ t :: []) := .tag start body hrole .nil
            have placed := front.append whole
            rwa [← List.append_assoc] at placed

/-- The expected end tags are those that are missing. -/
theorem expectAll_eq_ok_iff {ts : List Token} {missing : List (String × Span)} :
    expectAll [] ts = .ok missing ↔ Unclosed ts missing := by
  -- Tokens behind a front that leaves some end tags missing.
  have extend : ∀ (ts before : List Token) (front missing : List (String × Span)),
      Unclosed before front → expectAll front ts = .ok missing → Unclosed (before ++ ts) missing := by
    intro ts
    induction ts with
    | nil =>
        intro before front missing hfront h
        cases h
        rwa [List.append_nil]
    | cons t ts ih =>
        intro before front missing hfront h
        rw [expectAll] at h
        cases hstep : t.expect front with
        | error cause =>
            rw [hstep] at h
            cases h
        | ok front' =>
            rw [hstep] at h
            have placed := ih (before ++ [t]) front' missing (hfront.snoc hstep) h
            rwa [List.append_assoc] at placed
  exact ⟨extend ts [] [] missing (.none .nil), expectAll_unclosed⟩

theorem expectAll_eq_error {missing : List (String × Span)} {ts : List Token} {cause : Cause}
    {place : Span} (h : expectAll missing ts = .error (cause, place)) :
    ∃ before t behind missing', ts = before ++ t :: behind ∧ place = t.span ∧
      expectAll missing before = .ok missing' ∧ t.expect missing' = .error cause := by
  induction ts generalizing missing with
  | nil => cases h
  | cons t ts ih =>
      rw [expectAll] at h
      cases hstep : t.expect missing with
      | error cause' =>
          rw [hstep] at h
          cases h
          exact ⟨[], t, ts, missing, rfl, rfl, rfl, hstep⟩
      | ok missing₁ =>
          rw [hstep] at h
          obtain ⟨before, u, behind, missing', rfl, hplace, hbefore, hu⟩ := ih h
          refine ⟨t :: before, u, behind, missing', rfl, hplace, ?_, hu⟩
          rw [expectAll, hstep]
          exact hbefore

/-- The first offence, in terms of the expected end tags. -/
def firstOffence (ts : List Token) : Option (Cause × Span) :=
  match expectAll [] ts with
  | .error offence => some offence
  | .ok [] => none
  | .ok ((expected, place) :: _) => some (.unclosed expected, place)

theorem firstOffence_eq_none_iff {ts : List Token} : firstOffence ts = none ↔ Nested ts := by
  rw [← unclosed_nil_iff, ← expectAll_eq_ok_iff, firstOffence]
  split <;> simp_all

theorem firstOffence_of_error {before behind : List Token} {t : Token}
    {missing : List (String × Span)} {cause : Cause} (front : Unclosed before missing)
    (h : t.expect missing = .error cause) :
    firstOffence (before ++ t :: behind) = some (cause, t.span) := by
  rw [firstOffence, expectAll_append (expectAll_unclosed front), expectAll, h]

theorem firstOffence_eq_some_iff {ts : List Token} {cause : Cause} {place : Span} :
    firstOffence ts = some (cause, place) ↔ Offends ts cause place := by
  constructor
  · intro h
    unfold firstOffence at h
    split at h
    case h_1 offence heq =>
      cases h
      obtain ⟨before, t, behind, missing, rfl, rfl, hbefore, hstep⟩ := expectAll_eq_error heq
      have front := expectAll_eq_ok_iff.mp hbefore
      -- The tokens in front leave some end tags missing; the role of the next one tells the offence.
      unfold Token.expect at hstep
      split at hstep
      case h_1 => cases hstep
      case h_2 => cases hstep
      case h_3 endTag hrole =>
        split at hstep
        · cases hstep
          exact .unopened rfl (unclosed_nil_iff.mp front) hrole
        · split at hstep
          case isTrue => cases hstep
          case isFalse other =>
            cases hstep
            exact .mismatched rfl front hrole other
      case h_4 word hrole =>
        cases hstep
        exact .unknown rfl front hrole
    case h_2 => cases h
    case h_3 expected place' missing heq =>
      cases h
      exact .unclosed (expectAll_eq_ok_iff.mp heq)
  · intro h
    cases h with
    | unknown split front hrole =>
        rw [split]
        exact firstOffence_of_error front (by rw [Token.expect, hrole])
    | unopened split front hrole =>
        rw [split]
        exact firstOffence_of_error (.none front) (by rw [Token.expect, hrole])
    | mismatched split front hrole other =>
        rw [split]
        exact firstOffence_of_error front (by rw [Token.expect, hrole]; exact if_neg other)
    | unclosed all => rw [firstOffence, expectAll_unclosed all]

/-! ## Reading -/

namespace Outline

/-- The end tags of the open tags, with the places of the tags. -/
def missing (o : Outline) : List (String × Span) :=
  o.frames.map fun frame => (frame.opener.endTag, frame.span)

theorem missing_add (o : Outline) (node : Node) : (o.add node).missing = o.missing := by
  obtain ⟨frames, nodes⟩ := o
  cases frames <;> rfl

/-- What a token does to the outline is what it does to the expected end tags. -/
theorem missing_act {t : Token} {action : Action} (h : t.role = action.role) (o : Outline) :
    (o.act t.span action).map missing = t.expect o.missing := by
  rw [Token.expect, h]
  cases action with
  | add node => exact congrArg Except.ok (o.missing_add node)
  | enter opener => rfl
  | leave endTag =>
      obtain ⟨frames, nodes⟩ := o
      cases frames with
      | nil => rfl
      | cons frame frames =>
          change (if frame.opener.endTag = endTag then _ else _ : Except Cause Outline).map missing =
            if frame.opener.endTag = endTag then _ else _
          by_cases same : frame.opener.endTag = endTag
          · rw [if_pos same, if_pos same]
            exact congrArg Except.ok (missing_add _ _)
          · rw [if_neg same, if_neg same]
            rfl

theorem finish_of_missing {o : Outline} (h : o.missing = []) : o.finish = .ok o.nodes.reverse := by
  obtain ⟨frames, nodes⟩ := o
  cases frames with
  | nil => rfl
  | cons frame frames => cases h

end Outline

namespace TagReader

variable {r : TagReader}

/-- Every tag constructor and every print expression succeeds, one after the other. An unknown tag
has no constructor, and nothing is asked of the tokens behind it. -/
inductive Constructs (r : TagReader) : Memory → List Token → Prop
  | nil (m : Memory) : Constructs r m []
  | made {t : Token} {ts : List Token} {action : Action} {m m₁ : Memory}
      (first : r.action t m = (.ok action, m₁)) (rest : Constructs r m₁ ts) :
      Constructs r m (t :: ts)
  | unknown {t : Token} {ts : List Token} {m : Memory} {word : String}
      (h : t.role = .unknown word) : Constructs r m (t :: ts)

/-- Reading keeps those tags open whose end tags are missing, and fails with the first offence. -/
theorem outline_of_constructs {m : Memory} {ts : List Token} (h : r.Constructs m ts) (o : Outline) :
    match expectAll o.missing ts with
    | .ok missing => ∃ o' m', r.outline o ts m = (.ok o', m') ∧ o'.missing = missing
    | .error (cause, place) =>
      ∃ m', r.outline o ts m = (.error (Error.located cause r.source place), m') := by
  induction h generalizing o with
  | nil m => exact ⟨o, m, rfl, rfl⟩
  | @made t ts action m m₁ first rest ih =>
      have step := o.missing_act (agrees_of_action first).1
      rw [expectAll, ← step]
      simp only [outline_cons, first]
      cases o.act t.span action with
      | ok o₁ => exact ih o₁
      | error cause => exact ⟨m₁, rfl⟩
  | @unknown t ts m word hrole =>
      rw [outline_cons, action_of_unknown hrole, expectAll, Token.expect, hrole]
      exact ⟨m, rfl⟩

theorem nodes_of_constructs {m : Memory} {ts : List Token} (h : r.Constructs m ts) :
    match firstOffence ts with
    | none => ∃ root m', r.nodes ts m = (.ok root, m')
    | some (cause, place) =>
      ∃ m', r.nodes ts m = (.error (Error.located cause r.source place), m') := by
  have run := outline_of_constructs h .start
  rw [show Outline.start.missing = [] from rfl] at run
  rw [nodes_run, firstOffence]
  rcases hall : expectAll [] ts with ⟨cause, place⟩ | missing
  · rw [hall] at run
    obtain ⟨m', run⟩ := run
    rw [run]
    exact ⟨m', rfl⟩
  · rw [hall] at run
    obtain ⟨o, m', run, openTags⟩ := run
    rw [run]
    -- All tokens have been read, so the innermost tag that is still open is the offence.
    cases missing with
    | nil =>
        simp only [Outline.finish_of_missing openTags]
        exact ⟨_, m', rfl⟩
    | cons innermost missing =>
        obtain ⟨frames, nodes⟩ := o
        cases frames with
        | nil => cases openTags
        | cons frame frames =>
            cases openTags
            exact ⟨m', rfl⟩

/-- What reading comes to is decided by the grammar: a nested template is accepted, any other fails
with its first offence. -/
theorem nodes_of_brackets {m : Memory} {ts : List Token} (h : r.Constructs m ts) :
    ((∃ root m', r.nodes ts m = (.ok root, m')) ↔ Nested ts) ∧
      ∀ e, (∃ m', r.nodes ts m = (.error e, m')) ↔
        ∃ cause place, Offends ts cause place ∧ e = Error.located cause r.source place := by
  have run := nodes_of_constructs h
  constructor
  · rw [← firstOffence_eq_none_iff]
    rcases hoffence : firstOffence ts with _ | ⟨cause, place⟩
    · rw [hoffence] at run
      exact ⟨fun _ => rfl, fun _ => run⟩
    · rw [hoffence] at run
      obtain ⟨m', run⟩ := run
      constructor
      · rintro ⟨root, m₁, accepted⟩
        rw [run] at accepted
        cases accepted
      · intro impossible
        cases impossible
  · intro e
    simp only [← firstOffence_eq_some_iff]
    rcases hoffence : firstOffence ts with _ | ⟨cause, place⟩
    · rw [hoffence] at run
      obtain ⟨root, m', run⟩ := run
      constructor
      · rintro ⟨m₁, failed⟩
        rw [run] at failed
        cases failed
      · rintro ⟨cause, place, impossible, _⟩
        cases impossible
    · rw [hoffence] at run
      obtain ⟨m', run⟩ := run
      constructor
      · rintro ⟨m₁, failed⟩
        rw [run] at failed
        cases failed
        exact ⟨cause, place, rfl, rfl⟩
      · rintro ⟨cause', place', same, rfl⟩
        cases same
        exact ⟨m', run⟩

/-! ## Nothing is lost -/

/-- Read one after the other, the tokens show these items: every token but end tags and the
separators `empty` and `else` shows one, a text itself and a tag an item of its kind. -/
inductive Displays (r : TagReader) : Memory → List Token → List Item → Memory → Prop
  | nil (m : Memory) : Displays r m [] [] m
  | shown {t : Token} {ts : List Token} {action : Action} {item : Item} {items : List Item}
      {m m₁ m₂ : Memory} (shows : t.shows = true) (first : r.action t m = (.ok action, m₁))
      (one : action.items = [item]) (fitting : t.Shows r.filters item) (rest : Displays r m₁ ts items m₂) :
      Displays r m (t :: ts) (item :: items) m₂
  | silent {t : Token} {ts : List Token} {action : Action} {items : List Item} {m m₁ m₂ : Memory}
      (hides : t.shows = false) (first : r.action t m = (.ok action, m₁))
      (rest : Displays r m₁ ts items m₂) : Displays r m (t :: ts) items m₂

theorem displays_of_performs {m m' : Memory} {ts : List Token} {actions : List Action}
    (h : r.Performs m ts actions m') : r.Displays m ts (actions.flatMap Action.items) m' := by
  induction h with
  | nil m => exact .nil m
  | @cons t ts action actions m m₁ m₂ first rest ih =>
      have agrees := agrees_of_action first
      rw [List.flatMap_cons]
      cases hshows : t.shows with
      | true =>
          obtain ⟨item, hitem, fitting⟩ := agrees.shown hshows
          rw [hitem]
          exact .shown hshows first hitem fitting ih
      | false =>
          rw [agrees.silent hshows]
          exact .silent hshows first ih

/-- A template consists of what its tokens show, each item once and in the order of the source. -/
theorem displays_of_nodes {m m' : Memory} {ts : List Token} {root : List Node}
    (h : r.nodes ts m = (.ok root, m')) : r.Displays m ts (itemsOf root) m' := by
  obtain ⟨actions, hperforms, hitems⟩ := items_of_nodes h
  rw [hitems]
  exact displays_of_performs hperforms

end TagReader

end TextTemplate
