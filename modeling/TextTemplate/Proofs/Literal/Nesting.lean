import TextTemplate.Proofs.Expression.LiteralMask
import TextTemplate.Proofs.Literal.Levels

/-!
# The limit on nesting

How many brackets of a text are open at the same time, counted by the mask, which knows nothing of
literals. For a text of the grammar this number decides alone whether it is read (`parse_nesting`):
it does not matter which brackets these are, nor what stands beside them.
-/

namespace TextTemplate.Masked

open TextTemplate.Text TextTemplate.Literal

/-! ## Open brackets -/

/-- Read behind `base` open brackets, the text never has more than `limit` of them open. -/
def OpensAtMost (base limit : Nat) (cs : List Char) : Prop :=
  ∀ front, front <+: cs → ((Position.inside base).after front).depth ≤ limit

theorem OpensAtMost.le {base limit : Nat} {cs : List Char} (h : OpensAtMost base limit cs) :
    base ≤ limit :=
  h [] List.nil_prefix

theorem OpensAtMost.mono {base limit limit' : Nat} {cs : List Char} (h : OpensAtMost base limit cs)
    (le : limit ≤ limit') : OpensAtMost base limit' cs :=
  fun front hfront => (h front hfront).trans le

theorem opensAtMost_nil {base limit : Nat} : OpensAtMost base limit [] ↔ base ≤ limit := by
  constructor
  · exact OpensAtMost.le
  · rintro le front hfront
    obtain rfl := List.prefix_nil.mp hfront
    exact le

theorem opensAtMost_append {base limit : Nat} {as : List Char} (closed : Closed as) (bs : List Char) :
    OpensAtMost base limit (as ++ bs) ↔ OpensAtMost base limit as ∧ OpensAtMost base limit bs := by
  constructor
  · intro h
    refine ⟨fun front hfront => h front (hfront.trans (List.prefix_append as bs)), fun front hfront => ?_⟩
    have behind := h (as ++ front) ((List.prefix_append_right_inj as).mpr hfront)
    rwa [Position.after_append, closed.returns] at behind
  · rintro ⟨has, hbs⟩ front hfront
    obtain ⟨back, same⟩ := hfront
    rcases List.append_eq_append_iff.mp same with ⟨more, rfl, -⟩ | ⟨more, rfl, rfl⟩
    · exact has front (List.prefix_append front more)
    · rw [Position.after_append, closed.returns]
      exact hbs more (List.prefix_append more back)

section

variable {opening closing : Char} (ho : isOpening opening = true) (hc : isClosing closing = true)
  {inside : List Char} (closed : Closed inside)
include ho hc closed

theorem opensAtMost_bracket {base limit : Nat} :
    OpensAtMost base limit (opening :: (inside ++ [closing])) ↔ OpensAtMost (base + 1) limit inside := by
  constructor
  · intro h front hfront
    have behind := h (opening :: front)
      (List.cons_prefix_cons.mpr ⟨rfl, hfront.trans (List.prefix_append _ _)⟩)
    rwa [Position.after_cons, step_opening ho] at behind
  · intro h front hfront
    cases front with
    | nil => exact Nat.le_of_succ_le h.le
    | cons c front =>
        obtain ⟨rfl, hinside⟩ := List.cons_prefix_cons.mp hfront
        rw [Position.after_cons, step_opening ho]
        rcases List.prefix_concat_iff.mp hinside with rfl | hinside
        · rw [Position.after_append, closed.returns, Position.after_cons, step_closing hc]
          exact Nat.le_of_succ_le h.le
        · exact h front hinside

end

theorem OpensAtMost.ordinary {cs : List Char} (h : ∀ c ∈ cs, isOrdinary c = true) (base : Nat) :
    OpensAtMost base base cs := by
  intro front hfront
  have closed : Closed front := .ordinary fun c hc => h c (hfront.subset hc)
  rw [closed.returns]
  exact le_rfl

theorem opensAtMost_cons {base limit : Nat} {c : Char} (h : isOrdinary c = true) (cs : List Char) :
    OpensAtMost base limit (c :: cs) ↔ OpensAtMost base limit cs := by
  have here : OpensAtMost base base [c] := .ordinary (List.forall_mem_singleton.mpr h) base
  rw [← List.singleton_append, opensAtMost_append (.marked h)]
  exact and_iff_right_of_imp fun rest => here.mono rest.le

/-- Within a string no brackets are opened. -/
theorem depth_within {quote : Char} {inside content : List Char} (h : StringText quote inside content)
    (base : Nat) : ∀ front, front <+: inside → ((Position.within quote base).after front).depth = base := by
  induction h with
  | nil =>
      intro front hfront
      obtain rfl := List.prefix_nil.mp hfront
      rfl
  | @escape differs c inside content _ ih =>
      intro front hfront
      match front with
      | [] => rfl
      | [d] =>
          obtain ⟨rfl, -⟩ := List.cons_prefix_cons.mp hfront
          simp [Position.step, Position.within]
      | d :: e :: front =>
          obtain ⟨rfl, hmore⟩ := List.cons_prefix_cons.mp hfront
          obtain ⟨rfl, hinside⟩ := List.cons_prefix_cons.mp hmore
          rw [after_escape]
          exact ih front hinside
  | plain hquote hescape _ ih =>
      intro front hfront
      cases front with
      | nil => rfl
      | cons d front =>
          obtain ⟨rfl, hinside⟩ := List.cons_prefix_cons.mp hfront
          rw [Position.after_cons, step_within hescape hquote]
          exact ih front hinside

theorem OpensAtMost.string {quote : Char} (hquote : quote = '\'' ∨ quote = '"')
    {inside content : List Char} (h : StringText quote inside content) (base : Nat) :
    OpensAtMost base base (quote :: (inside ++ [quote])) := by
  have isquote : isQuote quote = true := by rcases hquote with rfl | rfl <;> rfl
  have plain : quote ≠ '\\' := by rcases hquote with rfl | rfl <;> decide
  intro front hfront
  cases front with
  | nil => exact le_rfl
  | cons c front =>
      obtain ⟨rfl, hinside⟩ := List.cons_prefix_cons.mp hfront
      rw [Position.after_cons, step_quote isquote]
      rcases List.prefix_concat_iff.mp hinside with rfl | hinside
      · rw [Position.after_append, (hidden_stringText h base).1, Position.after_cons, step_end plain]
        exact le_rfl
      · exact (depth_within h base front hinside).le

end TextTemplate.Masked

namespace TextTemplate.Literal

open TextTemplate.Text Masked

/-! ## Brackets of the grammar -/

theorem Atom.opensAtMost {text : List Char} {v : Value} (h : Atom text v) (base : Nat) :
    OpensAtMost base base text := by
  have word : ∀ {cs : List Char}, (∀ c ∈ cs, ¬ Stops [c]) → OpensAtMost base base cs := fun parts =>
    .ordinary (fun c hc => (plain_of_not_stops (parts c hc)).1) base
  cases h with
  | string hquote text => exact .string hquote text base
  | number start reads => exact word (not_stops_of_number reads)
  | constant means => exact word (not_stops_of_constant means)

section

variable {α : Type} {member member' : List Char → α → Prop} {base limit : Nat}

theorem opensAtMost_blanks {cs : List Char} (blank : Blanks cs) (le : base ≤ limit) :
    OpensAtMost base limit cs :=
  (OpensAtMost.ordinary (fun c hc => isOrdinary_of_isBlank (blank c hc)) base).mono le

theorem Members.opensAtMost (le : base ≤ limit) (closed : ∀ {text a}, member text a → Closed text)
    (within : ∀ {text a}, member text a → OpensAtMost base limit text) {cs : List Char} {as : List α}
    {comma : Bool} (h : Members member cs as comma) : OpensAtMost base limit cs := by
  refine (h.composed (P := fun cs => Closed cs ∧ OpensAtMost base limit cs) ?_ ?_ ?_ ?_).2
  · intro as bs has hbs
    exact ⟨has.1.append hbs.1, (opensAtMost_append has.1 bs).mpr ⟨has.2, hbs.2⟩⟩
  · exact fun blank => ⟨.blanks blank, opensAtMost_blanks blank le⟩
  · exact ⟨.marked (by decide), (opensAtMost_cons (by decide) []).mpr (opensAtMost_nil.mpr le)⟩
  · exact fun here => ⟨closed here, within here⟩

/-- Members of a text in which no more than so many brackets are open are members in which no more are
open. -/
theorem Members.restrict (closed : ∀ {text a}, member text a → Closed text)
    (restrict : ∀ {text a}, member text a → OpensAtMost base limit text → member' text a)
    {cs : List Char} {as : List α} {comma : Bool} (h : Members member cs as comma)
    (within : OpensAtMost base limit cs) : Members member' cs as comma := by
  induction h with
  | none blank => exact .none blank
  | @last lead text trail a before here behind =>
      have front := (opensAtMost_append ((Closed.blanks before).append (closed here)) trail).mp within
      have inner := (opensAtMost_append (Closed.blanks before) text).mp front.1
      exact .last before (restrict here inner.2) behind
  | @more lead text gap rest a as comma before here behind _ ih =>
      have first : Closed (lead ++ text) := (Closed.blanks before).append (closed here)
      have front := (opensAtMost_append (first.append (.blanks behind)) (',' :: rest)).mp within
      have inner := (opensAtMost_append (Closed.blanks before) text).mp
        ((opensAtMost_append first gap).mp front.1).1
      have others := (opensAtMost_cons (by decide) rest).mp front.2
      exact .more before (restrict here inner.2) behind (ih others)

end

section

variable {item item' : List Char → Value → Prop} {base limit : Nat}
  (closed : ∀ {text v}, item text v → Closed text)
include closed

theorem Entry.opensAtMost (le : base ≤ limit)
    (within : ∀ {text v}, item text v → OpensAtMost base limit text) {text : List Char}
    {entry : String × Value} (h : Entry item text entry) : OpensAtMost base limit text := by
  cases h with
  | @mk key gap lead text _ _ _ hkey _ behind before hvalue =>
      refine (opensAtMost_append ((closed hkey).append (.blanks behind)) _).mpr ⟨?_, ?_⟩
      · exact (opensAtMost_append (closed hkey) gap).mpr ⟨within hkey, opensAtMost_blanks behind le⟩
      · refine (opensAtMost_cons (by decide) (lead ++ text)).mpr ?_
        exact (opensAtMost_append (.blanks before) text).mpr ⟨opensAtMost_blanks before le, within hvalue⟩

theorem Entry.restrict
    (restrict : ∀ {text v}, item text v → OpensAtMost base limit text → item' text v)
    {text : List Char} {entry : String × Value} (h : Entry item text entry)
    (within : OpensAtMost base limit text) : Entry item' text entry := by
  cases h with
  | @mk key gap lead text _ _ _ hkey hname behind before hvalue =>
      have parts := (opensAtMost_append ((closed hkey).append (.blanks behind)) _).mp within
      have front := (opensAtMost_append (closed hkey) gap).mp parts.1
      have back := (opensAtMost_cons (by decide) (lead ++ text)).mp parts.2
      have value := (opensAtMost_append (.blanks before) text).mp back
      exact .mk (restrict hkey front.1) hname behind before (restrict hvalue value.2)

theorem Bracketed.opensAtMost (le : base + 1 ≤ limit)
    (within : ∀ {text v}, item text v → OpensAtMost (base + 1) limit text) {text : List Char} {v : Value}
    (h : Bracketed item text v) : OpensAtMost base limit text := by
  cases h with
  | list members =>
      exact (opensAtMost_bracket (by decide) (by decide) (members.closed closed)).mpr
        (members.opensAtMost le closed within)
  | tuple members =>
      exact (opensAtMost_bracket (by decide) (by decide) (members.closed closed)).mpr
        (members.opensAtMost le closed within)
  | dict members =>
      exact (opensAtMost_bracket (by decide) (by decide) (members.closed (Entry.closed closed))).mpr
        (members.opensAtMost le (Entry.closed closed) (Entry.opensAtMost closed le within))

/-- The brackets around the members are open, too. -/
theorem Bracketed.restrict
    (restrict : ∀ {text v}, item text v → OpensAtMost (base + 1) limit text → item' text v)
    {text : List Char} {v : Value} (h : Bracketed item text v) (within : OpensAtMost base limit text) :
    base + 1 ≤ limit ∧ Bracketed item' text v := by
  cases h with
  | list members =>
      have inner := (opensAtMost_bracket (by decide) (by decide) (members.closed closed)).mp within
      exact ⟨inner.le, .list (members.restrict closed restrict inner)⟩
  | tuple members hv =>
      have inner := (opensAtMost_bracket (by decide) (by decide) (members.closed closed)).mp within
      exact ⟨inner.le, .tuple (members.restrict closed restrict inner) hv⟩
  | dict members =>
      have inner := (opensAtMost_bracket (by decide) (by decide)
        (members.closed (Entry.closed closed))).mp within
      exact ⟨inner.le, .dict (members.restrict (Entry.closed closed) (Entry.restrict closed restrict) inner)⟩

end

theorem Written.closed {depth : Nat} {text : List Char} {v : Value} (h : Written depth text v) :
    Closed text :=
  h.unbroken.closed

theorem Written.opensAtMost {depth : Nat} {text : List Char} {v : Value} (h : Written depth text v)
    (base : Nat) : OpensAtMost base (base + depth) text := by
  induction depth generalizing text v base with
  | zero => exact Atom.opensAtMost h base
  | succ depth ih =>
      rcases h with atom | bracket
      · exact (atom.opensAtMost base).mono (Nat.le_add_right _ _)
      · refine bracket.opensAtMost Written.closed (by omega) fun h => ?_
        exact (ih h (base + 1)).mono (by omega)

/-- An item with no more than so many open brackets is one of the grammar with that allowance, however large
the allowance was before. -/
theorem Written.restrict {depth base allowance : Nat} {text : List Char} {v : Value}
    (h : Written depth text v) (within : OpensAtMost base (base + allowance) text) :
    Written allowance text v := by
  induction depth generalizing text v base allowance with
  | zero => exact .of_atom h
  | succ depth ih =>
      rcases h with atom | bracket
      · exact .of_atom atom
      · -- The bracket of the item itself takes one of the allowance.
        obtain ⟨room, -⟩ := bracket.restrict Written.closed (fun h _ => h) within
        obtain ⟨allowance, rfl⟩ : ∃ n, allowance = n + 1 := ⟨allowance - 1, by omega⟩
        refine .inr (bracket.restrict Written.closed (fun h inner => ?_) within).2
        exact ih h (inner.mono (Nat.add_right_comm base 1 allowance).ge)

/-! ## The limit -/

theorem opensAtMost_of_parseChars {cs : List Char} {v : Value} (h : parseChars cs = some v) :
    OpensAtMost 0 maxNesting cs := by
  obtain ⟨items, comma, members, -⟩ := parseChars_eq_some.mp h
  refine members.opensAtMost (Nat.zero_le _) Written.closed fun written => ?_
  exact (written.opensAtMost 0).mono (Nat.zero_add _).le

theorem parseChars_of_opensAtMost {depth : Nat} {cs : List Char} {items : List Value} {comma : Bool}
    {v : Value} (members : Members (Written depth) cs items comma)
    (hv : sequenceValue none (items, comma) = some v) (within : OpensAtMost 0 maxNesting cs) :
    parseChars cs = some v := by
  refine parseChars_eq_some.mpr ⟨items, comma, members.restrict Written.closed ?_ within, hv⟩
  exact fun written inner => written.restrict (inner.mono (Nat.zero_add _).ge)

/-- The reader of literals ends on every text, with at most `maxNesting + 1` readers of items active within
one another, and an item that is read leaves the counter of open brackets as it was. A text that is a
literal but for its depth is read exactly if it never has more than `maxNesting` brackets open. -/
theorem parse_nesting (cs : List Char) :
    (∀ steps, cs.length < steps → parseFrom (maxNesting + 1) steps cs =
      match parseChars cs with
      | some v => .ok v
      | none => .error .refused) ∧
    (∀ steps levels p v q, itemFrom steps levels p = .ok (v, q) → q.depth = p.depth) ∧
    ∀ depth items comma v, Members (Written depth) cs items comma →
      sequenceValue none (items, comma) = some v →
      (parseChars cs = some v ↔ OpensAtMost 0 maxNesting cs) ∧
      (parseChars cs = none ↔ ¬ OpensAtMost 0 maxNesting cs) := by
  refine ⟨fun steps enough => parseFrom_eq enough, fun steps levels p v q read => ?_, ?_⟩
  · exact itemFrom_keeps steps levels p q v read
  · intro depth items comma v members hv
    refine ⟨⟨opensAtMost_of_parseChars, parseChars_of_opensAtMost members hv⟩, ?_, ?_⟩
    · intro refused within
      rw [parseChars_of_opensAtMost members hv within] at refused
      cases refused
    · intro outside
      rw [Option.eq_none_iff_forall_ne_some]
      exact fun u reads => outside (opensAtMost_of_parseChars reads)

/-- Lists in so many lists, around a number. -/
def tower : Nat → List Char
  | 0 => ['1']
  | n + 1 => '[' :: (tower n ++ [']'])

def towerValue : Nat → Value
  | 0 => .integer 1
  | n + 1 => .list [towerValue n]

theorem written_tower (n : Nat) : Written n (tower n) (towerValue n) := by
  induction n with
  | zero =>
      have reads : number ['1'] = some (.integer 1, []) := by cbv
      exact Atom.number (.inl rfl) reads
  | succ n ih =>
      have inside : Members (Written n) (tower n) [towerValue n] false := by
        have alone := Members.last blanks_nil ih blanks_nil
        rwa [List.nil_append, List.append_nil] at alone
      exact .inr (.list inside)

theorem length_tower (n : Nat) : (tower n).length = 2 * n + 1 := by
  induction n with
  | zero => rfl
  | succ n ih =>
      rw [tower, List.length_cons, List.length_append, ih, List.length_singleton]
      omega

theorem opensAtMost_tower {base limit : Nat} (n : Nat) :
    OpensAtMost base limit (tower n) ↔ base + n ≤ limit := by
  induction n generalizing base with
  | zero =>
      rw [tower, opensAtMost_cons (by decide)]
      exact opensAtMost_nil
  | succ n ih =>
      rw [tower, opensAtMost_bracket (by decide) (by decide) (written_tower n).closed, ih]
      omega

theorem parse_nesting_tower :
    parseChars (tower 128) = some (towerValue 128) ∧
      parseChars (tower 129) = none ∧
      parseFrom 129 300 (tower 129) = .error .refused ∧
      ∃ v q, itemFrom 9 3 { rest := "[(1), 2]".toList, depth := 5 } = .ok (v, q) ∧ q.depth = 5 := by
  have alone : ∀ n, Members (Written n) (tower n) [towerValue n] false := by
    intro n
    have members := Members.last blanks_nil (written_tower n) blanks_nil
    rwa [List.nil_append, List.append_nil] at members
  obtain ⟨-, -, most⟩ := parse_nesting (tower 128)
  obtain ⟨ends, keeps, more⟩ := parse_nesting (tower 129)
  have accepted := (most 128 _ _ _ (alone 128) rfl).1.mpr ((opensAtMost_tower 128).mpr (by decide))
  have refused := (more 129 _ _ _ (alone 129) rfl).2.mpr fun within =>
    absurd ((opensAtMost_tower 129).mp within) (by decide)
  have cut := ends 300 (by rw [length_tower]; decide)
  rw [refused] at cut
  have reads : itemFrom 9 3 { rest := "[(1), 2]".toList, depth := 5 } =
      .ok (.list [.integer 1, .integer 2], { rest := [], depth := 5 }) := by cbv
  exact ⟨accepted, refused, cut, _, _, reads, keeps 9 3 _ _ _ reads⟩

end TextTemplate.Literal
