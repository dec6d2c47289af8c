import TextTemplate.Proofs.Literal.Grammar

/-!
# Reading literals

The readers of items, lists, tuples and dicts accept exactly the texts of the grammar, with the value
that it gives them, and leave what stands behind (`Reads`). So a whole text is a literal exactly if the
grammar says so (`parseChars_eq_some`).
-/

namespace TextTemplate.Literal

open TextTemplate.Text

/-! ## Readers of members -/

/-- The reader takes exactly such a member off the front of a text, together with the blanks in front
of it. -/
structure Reads {α : Type} (reader : Reader α) (member : List Char → α → Prop) : Prop where
  sound : ∀ {cs rest : List Char} {a : α}, reader cs = some (a, rest) →
    ∃ lead text, Blanks lead ∧ member text a ∧ cs = lead ++ text ++ rest
  complete : ∀ {lead text rest : List Char} {a : α}, Blanks lead → member text a → Stops rest →
    reader (lead ++ text ++ rest) = some (a, rest)
  opens : ∀ {text : List Char} {a : α}, member text a → Opens text

theorem eat_eq_some {c : Char} (filled : isBlank c = false) {cs rest : List Char} :
    eat c cs = some rest ↔ ∃ lead, Blanks lead ∧ cs = lead ++ c :: rest := by
  constructor
  · intro h
    obtain ⟨lead, blank, same⟩ := exists_lead cs
    refine ⟨lead, blank, ?_⟩
    unfold eat at h
    split at h
    · next d rest' front =>
        split at h
        · next hd =>
            cases h
            rw [hd] at front
            rw [← front, ← same]
        · cases h
    · cases h
  · rintro ⟨lead, blank, rfl⟩
    rw [eat, trimStart_blanks_append blank, trimStart_eq_self (startsFilled_cons.mpr filled)]
    exact if_pos rfl

/-- Another character than the one that is asked for. -/
theorem eat_other {c d : Char} (filled : isBlank d = false) (other : d ≠ c) {lead : List Char}
    (blank : Blanks lead) (rest : List Char) : eat c (lead ++ d :: rest) = none := by
  rw [eat, trimStart_blanks_append blank, trimStart_eq_self (startsFilled_cons.mpr filled)]
  exact if_neg other

theorem eat_blanks (c : Char) {cs : List Char} (h : Blanks cs) : eat c cs = none := by
  rw [eat, trimStart_of_blanks h]

/-- A member is not mistaken for a mark. -/
theorem eat_opens {c : Char} (mark : c ∈ marks) {lead text : List Char} (blank : Blanks lead)
    (opens : Opens text) (rest : List Char) : eat c (lead ++ text ++ rest) = none := by
  cases text with
  | nil => exact opens.elim
  | cons d text =>
      rw [List.append_assoc]
      exact eat_other opens.1 (fun same => opens.2 (same ▸ mark)) blank _

/-- Reads members up to the closing character, which has to be there. -/
def membersUpTo {α : Type} (close : Char) (member : Reader α) : Nat → Reader (List α)
  | 0, _ => none
  | fuel + 1, cs =>
    match eat close cs with
    | some rest => some ([], rest)
    | none => (member cs).bind fun (a, rest) =>
      match eat ',' rest with
      | some rest => (membersUpTo close member fuel rest).map fun (as, rest) => (a :: as, rest)
      | none => (eat close rest).map fun rest => ([a], rest)

/-- Reads an entry of a dict. -/
def entry (item : Reader Value) : Reader (String × Value) := fun cs =>
  (item cs).bind fun (k, rest) => (keyText k).bind fun key => (eat ':' rest).bind fun rest =>
    (item rest).map fun (v, rest) => ((key, v), rest)

theorem listItems_eq (item : Reader Value) (fuel : Nat) :
    listItems item fuel = membersUpTo ']' item fuel := by
  induction fuel with
  | zero => rfl
  | succ fuel ih =>
      funext cs
      rw [listItems, ih]
      rfl

theorem dictEntries_eq (item : Reader Value) (fuel : Nat) :
    dictEntries item fuel = membersUpTo '\x7d' (entry item) fuel := by
  induction fuel with
  | zero => rfl
  | succ fuel ih =>
      funext cs
      rw [dictEntries, membersUpTo, ih, entry]
      cases eat '\x7d' cs with
      | some rest => rfl
      | none =>
          simp only [Option.bind_assoc, Option.map_eq_bind]
          rfl

section

variable {α : Type} {reader : Reader α} {member : List Char → α → Prop} (h : Reads reader member)

include h

theorem membersUpTo_sound {close : Char} (filled : isBlank close = false) {fuel : Nat}
    {cs rest : List Char} {as : List α} (read : membersUpTo close reader fuel cs = some (as, rest)) :
    ∃ inside comma, Members member inside as comma ∧ cs = inside ++ close :: rest := by
  have separator : isBlank ',' = false := by decide
  induction fuel generalizing cs as with
  | zero => cases read
  | succ fuel ih =>
      rw [membersUpTo] at read
      cases hclose : eat close cs with
      | some behind =>
          rw [hclose] at read
          cases read
          obtain ⟨lead, blank, rfl⟩ := (eat_eq_some filled).mp hclose
          exact ⟨lead, false, .none blank, rfl⟩
      | none =>
          rw [hclose] at read
          obtain ⟨⟨a, behind⟩, first, next⟩ := Option.bind_eq_some_iff.mp read
          obtain ⟨lead, text, blank, here, rfl⟩ := h.sound first
          dsimp only at next
          cases hcomma : eat ',' behind with
          | some behind' =>
              rw [hcomma] at next
              obtain ⟨⟨as, rest⟩, others, same⟩ := Option.map_eq_some_iff.mp next
              cases same
              obtain ⟨gap, blankGap, rfl⟩ := (eat_eq_some separator).mp hcomma
              obtain ⟨inside, comma, members, rfl⟩ := ih others
              exact ⟨_, true, .more blank here blankGap members, by simp⟩
          | none =>
              rw [hcomma] at next
              obtain ⟨rest, hrest, same⟩ := Option.map_eq_some_iff.mp next
              cases same
              obtain ⟨trail, blankTrail, rfl⟩ := (eat_eq_some filled).mp hrest
              exact ⟨_, false, .last blank here blankTrail, by simp⟩

theorem membersUpTo_complete {close : Char} (mark : close ∈ marks) (other : ',' ≠ close)
    {inside : List Char} {as : List α} {comma : Bool} (members : Members member inside as comma)
    {fuel : Nat} (enough : inside.length < fuel) (rest : List Char) :
    membersUpTo close reader fuel (inside ++ close :: rest) = some (as, rest) := by
  have filled : isBlank close = false := isBlank_of_mem_marks close mark
  have separator : isBlank ',' = false := by decide
  induction members generalizing fuel with
  | none blank =>
      obtain ⟨fuel, rfl⟩ := Nat.exists_eq_add_one_of_ne_zero (Nat.ne_zero_of_lt enough)
      rw [membersUpTo, (eat_eq_some filled).mpr ⟨_, blank, rfl⟩]
  | @last lead text trail a before here behind =>
      obtain ⟨fuel, rfl⟩ := Nat.exists_eq_add_one_of_ne_zero (Nat.ne_zero_of_lt enough)
      have stops : Stops (trail ++ close :: rest) := .blanks_append behind (.of_mark mark _)
      rw [membersUpTo, List.append_assoc, eat_opens mark before (h.opens here),
        h.complete before here stops]
      dsimp only [Option.bind_some]
      rw [eat_other filled (Ne.symm other) behind, (eat_eq_some filled).mpr ⟨_, behind, rfl⟩]
      rfl
  | @more lead text gap inside a as comma before here behind others ih =>
      obtain ⟨fuel, rfl⟩ := Nat.exists_eq_add_one_of_ne_zero (Nat.ne_zero_of_lt enough)
      have enough' : inside.length < fuel := by
        simp only [List.length_append, List.length_cons] at enough
        omega
      have stops : Stops (gap ++ ',' :: (inside ++ close :: rest)) :=
        .blanks_append behind (.of_mark (by decide) _)
      rw [membersUpTo, List.append_assoc, List.append_assoc, eat_opens mark before (h.opens here),
        List.cons_append, h.complete before here stops]
      dsimp only [Option.bind_some]
      rw [(eat_eq_some separator).mpr ⟨_, behind, rfl⟩]
      dsimp only
      rw [ih enough']
      rfl

end

theorem Reads.entry {item : Reader Value} {written : List Char → Value → Prop}
    (h : Reads item written) : Reads (Literal.entry item) (Entry written) where
  sound := by
    intro cs rest e read
    obtain ⟨⟨k, behind⟩, first, read⟩ := Option.bind_eq_some_iff.mp read
    obtain ⟨name, hname, read⟩ := Option.bind_eq_some_iff.mp read
    obtain ⟨behind', hcolon, read⟩ := Option.bind_eq_some_iff.mp read
    obtain ⟨⟨v, rest⟩, second, same⟩ := Option.map_eq_some_iff.mp read
    cases same
    obtain ⟨lead, key, blank, hkey, rfl⟩ := h.sound first
    obtain ⟨gap, blankGap, rfl⟩ := (eat_eq_some (by decide)).mp hcolon
    obtain ⟨lead', text, blank', htext, rfl⟩ := h.sound second
    exact ⟨lead, _, blank, .mk hkey hname blankGap blank' htext, by simp⟩
  complete := by
    intro lead text rest e blank written stops
    cases written with
    | @mk key gap lead' text k v name hkey hname behind before hvalue =>
        have hstops : Stops (gap ++ ':' :: (lead' ++ text ++ rest)) :=
          .blanks_append behind (.of_mark (by decide) _)
        have whole : lead ++ (key ++ gap ++ ':' :: (lead' ++ text)) ++ rest =
            lead ++ key ++ (gap ++ ':' :: (lead' ++ text ++ rest)) := by simp
        rw [whole, Literal.entry, h.complete blank hkey hstops]
        dsimp only [Option.bind_some]
        rw [hname, Option.bind_some, (eat_eq_some (by decide)).mpr ⟨gap, behind, rfl⟩,
          Option.bind_some, h.complete before hvalue stops]
        rfl
  opens := by
    intro text e written
    cases written with
    | @mk key gap lead text k v name hkey hname behind before hvalue =>
        have opens := h.opens hkey
        cases key with
        | nil => exact opens.elim
        | cons c key => exact opens

/-! ## Sequences -/

section

variable {item : Reader Value} {written : List Char → Value → Prop} (h : Reads item written)

include h

theorem sequence_sound {close : Option Char} {fuel : Nat} {cs rest : List Char} {items : List Value}
    {comma : Bool} (read : sequence item close fuel cs = some ((items, comma), rest)) :
    ∃ inside, Members written inside items comma ∧ cs = inside ++ trimStart rest := by
  induction fuel generalizing cs items comma with
  | zero =>
      cases read
      obtain ⟨lead, blank, same⟩ := exists_lead rest
      exact ⟨lead, .none blank, same⟩
  | succ fuel ih =>
      obtain ⟨lead, blank, same⟩ := exists_lead cs
      rw [sequence] at read
      dsimp only at read
      split at read
      · cases read
        exact ⟨lead, .none blank, by rw [trimStart_idem, ← same]⟩
      · obtain ⟨⟨v, behind⟩, first, next⟩ := Option.bind_eq_some_iff.mp read
        obtain ⟨lead', text, blank', here, whole⟩ := h.sound first
        rw [same, whole]
        dsimp only at next
        have blanks : Blanks (lead ++ lead') := blanks_append.mpr ⟨blank, blank'⟩
        cases hcomma : eat ',' behind with
        | none =>
            rw [hcomma] at next
            cases next
            obtain ⟨trail, blankTrail, htrail⟩ := exists_lead rest
            refine ⟨_, .last blanks here blankTrail, ?_⟩
            conv_lhs => rw [htrail]
            simp
        | some behind' =>
            rw [hcomma] at next
            obtain ⟨⟨⟨items, comma⟩, rest⟩, others, same'⟩ := Option.map_eq_some_iff.mp next
            cases same'
            obtain ⟨gap, blankGap, rfl⟩ := (eat_eq_some (by decide)).mp hcomma
            obtain ⟨inside, members, rfl⟩ := ih others
            exact ⟨_, .more blanks here blankGap members, by simp⟩

omit h in
/-- A sequence goes on where neither the text nor the sequence ends. -/
theorem sequence_succ {close : Option Char} (mark : ∀ c ∈ close, c ∈ marks) {lead text : List Char}
    (blank : Blanks lead) (opens : Opens text) (fuel : Nat) (rest : List Char) :
    sequence item close (fuel + 1) (lead ++ text ++ rest) =
      (item (text ++ rest)).bind fun (v, behind) =>
        match eat ',' behind with
        | none => some (([v], false), behind)
        | some behind =>
          (sequence item close fuel behind).map fun ((vs, _), behind) => ((v :: vs, true), behind) := by
  cases text with
  | nil => exact opens.elim
  | cons c text =>
      have front : trimStart (lead ++ c :: text ++ rest) = c :: text ++ rest := by
        rw [List.append_assoc, trimStart_blanks_append blank]
        exact trimStart_eq_self (startsFilled_cons.mpr opens.1)
      have going : ¬ ((c :: text ++ rest).head? = none ∨ (c :: text ++ rest).head? = close) := by
        rintro (ended | closed)
        · cases ended
        · exact opens.2 (mark c closed.symm)
      rw [sequence, front]
      exact if_neg (by simpa only [Bool.or_eq_true, decide_eq_true_eq] using going)

theorem sequence_complete {close : Option Char} (mark : ∀ c ∈ close, c ∈ marks ∧ c ≠ ',')
    {inside : List Char} {items : List Value} {comma : Bool}
    (members : Members written inside items comma) {fuel : Nat} (enough : inside.length < fuel)
    {rest : List Char} (ends : rest.head? = none ∨ rest.head? = close) :
    ∃ behind, sequence item close fuel (inside ++ rest) = some ((items, comma), behind) ∧
      trimStart behind = rest := by
  have first : ∀ c ∈ rest.head?, c ∈ marks ∧ c ≠ ',' := by
    intro c hc
    rcases ends with ended | closed
    · rw [ended] at hc
      cases hc
    · exact mark c (closed ▸ hc)
  have filled : StartsFilled rest := fun c hc => isBlank_of_mem_marks c (first c hc).1
  have stops : Stops rest := by
    cases rest with
    | nil => exact stops_nil
    | cons c rest => exact .of_mark (first c rfl).1 _
  have noComma : ∀ {gap : List Char}, Blanks gap → eat ',' (gap ++ rest) = none := by
    intro gap blank
    cases rest with
    | nil => exact eat_blanks _ (by rwa [List.append_nil])
    | cons c rest => exact eat_other (startsFilled_cons.mp filled) (first c rfl).2 blank _
  induction members generalizing fuel with
  | @none lead blank =>
      obtain ⟨fuel, rfl⟩ := Nat.exists_eq_add_one_of_ne_zero (Nat.ne_zero_of_lt enough)
      refine ⟨rest, ?_, trimStart_eq_self filled⟩
      rw [sequence, trimStart_blanks_append blank, trimStart_eq_self filled]
      exact if_pos (by simpa only [Bool.or_eq_true, decide_eq_true_eq] using ends)
  | @last lead text trail v before here behind =>
      obtain ⟨fuel, rfl⟩ := Nat.exists_eq_add_one_of_ne_zero (Nat.ne_zero_of_lt enough)
      refine ⟨trail ++ rest, ?_, by rw [trimStart_blanks_append behind, trimStart_eq_self filled]⟩
      rw [List.append_assoc, sequence_succ (fun c hc => (mark c hc).1) before (h.opens here)]
      have read := h.complete blanks_nil here (stops.blanks_append behind)
      rw [List.nil_append] at read
      rw [read, Option.bind_some]
      dsimp only
      rw [noComma behind]
  | @more lead text gap inside v items comma before here behind others ih =>
      obtain ⟨fuel, rfl⟩ := Nat.exists_eq_add_one_of_ne_zero (Nat.ne_zero_of_lt enough)
      have enough' : inside.length < fuel := by
        simp only [List.length_append, List.length_cons] at enough
        omega
      obtain ⟨end', read', same⟩ := ih enough'
      refine ⟨end', ?_, same⟩
      rw [List.append_assoc, List.append_assoc,
        sequence_succ (fun c hc => (mark c hc).1) before (h.opens here)]
      have stops : Stops (gap ++ ',' :: (inside ++ rest)) :=
        .blanks_append behind (.of_mark (by decide) _)
      have read := h.complete blanks_nil here stops
      rw [List.nil_append] at read
      rw [List.cons_append, read, Option.bind_some]
      dsimp only
      rw [(eat_eq_some (by decide)).mpr ⟨gap, behind, rfl⟩]
      dsimp only
      rw [read']
      rfl

end

/-! ## Items -/

section

variable {item : Reader Value} {written : List Char → Value → Prop} (h : Reads item written)

include h

theorem bracketed_sound {opening : Char} (hopening : opening ∈ ['[', '(', '\x7b'])
    {cs rest : List Char} {v : Value} (read : bracketed item opening cs = some (v, rest)) :
    ∃ text, Bracketed written text v ∧ opening :: cs = text ++ rest := by
  simp only [List.mem_cons, List.not_mem_nil, or_false] at hopening
  rcases hopening with rfl | rfl | rfl
  · obtain ⟨⟨items, rest⟩, hitems, same⟩ := Option.map_eq_some_iff.mp read
    cases same
    rw [listItems_eq] at hitems
    obtain ⟨inside, comma, members, rfl⟩ := membersUpTo_sound h (by decide) hitems
    exact ⟨_, .list members, by simp⟩
  · obtain ⟨⟨⟨items, comma⟩, rest'⟩, hitems, read⟩ := Option.bind_eq_some_iff.mp read
    obtain ⟨v', hv, read⟩ := Option.bind_eq_some_iff.mp read
    obtain ⟨rest, hclose, same⟩ := Option.map_eq_some_iff.mp read
    cases same
    obtain ⟨inside, members, rfl⟩ := sequence_sound h hitems
    obtain ⟨lead, blank, rfl⟩ := (eat_eq_some (by decide)).mp hclose
    rw [trimStart_blanks_append blank,
      trimStart_eq_self (startsFilled_cons.mpr (by decide))]
    exact ⟨_, .tuple members hv, by simp⟩
  · obtain ⟨⟨entries, rest⟩, hentries, same⟩ := Option.map_eq_some_iff.mp read
    cases same
    rw [dictEntries_eq] at hentries
    obtain ⟨inside, comma, members, rfl⟩ := membersUpTo_sound h.entry (by decide) hentries
    exact ⟨_, .dict members, by simp⟩

theorem bracketed_complete {text : List Char} {v : Value} (bracket : Bracketed written text v) :
    ∃ opening ∈ ['[', '(', '\x7b'], ∃ behind, text = opening :: behind ∧
      ∀ rest, bracketed item opening (behind ++ rest) = some (v, rest) := by
  have enough : ∀ (inside : List Char) (close : Char) (rest : List Char),
      inside.length < (inside ++ close :: rest).length + 1 := by
    intro inside close rest
    rw [List.length_append]
    omega
  have joined : ∀ (inside : List Char) (close : Char) (rest : List Char),
      inside ++ [close] ++ rest = inside ++ close :: rest := by simp
  cases bracket with
  | @list inside items comma members =>
      refine ⟨'[', by decide, _, rfl, fun rest => ?_⟩
      have read : membersUpTo ']' item _ (inside ++ ']' :: rest) = some (items, rest) :=
        membersUpTo_complete h (by decide) (by decide) members (enough inside ']' rest) rest
      rw [bracketed, if_pos rfl, listItems_eq, joined, read]
      rfl
  | @tuple inside items comma v members hv =>
      refine ⟨'(', by decide, _, rfl, fun rest => ?_⟩
      have mark : ∀ c ∈ some ')', c ∈ marks ∧ c ≠ ',' := by
        rintro c ⟨⟩
        decide
      obtain ⟨behind, read, same⟩ :=
        sequence_complete h mark members (enough inside ')' rest) (.inr (List.head?_cons))
      have closes : eat ')' behind = some rest := by
        rw [eat, same]
        exact if_pos rfl
      rw [bracketed, if_neg (by decide), if_pos rfl, joined, read, Option.bind_some]
      dsimp only
      rw [hv, Option.bind_some, closes]
      rfl
  | @dict inside entries comma members =>
      refine ⟨'\x7b', by decide, _, rfl, fun rest => ?_⟩
      have read : membersUpTo '\x7d' (entry item) _ (inside ++ '\x7d' :: rest) =
          some (entries, rest) :=
        membersUpTo_complete h.entry (by decide) (by decide) members (enough inside '\x7d' rest) rest
      rw [bracketed, if_neg (by decide), if_neg (by decide), dictEntries_eq, joined, read]
      rfl

end

theorem item_blanks_append {lead : List Char} (blank : Blanks lead) (depth : Nat) (cs : List Char) :
    item depth (lead ++ cs) = item depth cs := by
  rw [item.eq_def, item.eq_def, trimStart_blanks_append blank]

/-- What the first character of an item decides. -/
theorem item_cons {c : Char} (filled : isBlank c = false) (depth : Nat) (rest : List Char) :
    item depth (c :: rest) =
      if c = '\'' ∨ c = '"' then
        (stringBody c rest).map fun (s, rest) => (.string (String.ofList s), rest)
      else if c ∈ ['[', '(', '\x7b'] then
        match depth with
        | 0 => none
        | depth + 1 => bracketed (item depth) c rest
      else if c.isDigit = true ∨ c = '-' ∨ c = '+' ∨ c = '.' then number (c :: rest)
      else constant (c :: rest) := by
  rw [item.eq_def, trimStart_eq_self (startsFilled_cons.mpr filled)]
  cases depth <;> simp [or_assoc]

theorem item_atom {text : List Char} {v : Value} (h : Atom text v) (depth : Nat) {rest : List Char}
    (stops : Stops rest) : item depth (text ++ rest) = some (v, rest) := by
  cases h with
  | @string quote inside content hquote text =>
      have read : stringBody quote (inside ++ [quote] ++ rest) = some (content, rest) :=
        stringBody_eq_some.mpr ⟨inside, text, by simp⟩
      rw [List.cons_append, item_cons (isBlank_quote hquote), if_pos hquote, read]
      rfl
  | @number c cs v start reads =>
      have filled : isBlank c = false := (Atom.opens (.number start reads)).1
      have noQuote : ¬ (c = '\'' ∨ c = '"') := by
        rintro (rfl | rfl) <;> simp at start
      have noBracket : c ∉ ['[', '(', '\x7b'] := by
        intro bracket
        simp only [List.mem_cons, List.not_mem_nil, or_false] at bracket
        rcases bracket with rfl | rfl | rfl <;> simp at start
      obtain ⟨text, -, same, reads'⟩ := number_append reads
      rw [List.append_nil] at same
      rw [List.cons_append, item_cons filled, if_neg noQuote, if_neg noBracket, if_pos start,
        ← List.cons_append, same, reads' rest stops]
  | constant means =>
      have first : ∀ word ∈ constantWords, ∃ c cs, word = c :: cs ∧ isBlank c = false ∧
          ¬ (c = '\'' ∨ c = '"') ∧ c ∉ ['[', '(', '\x7b'] ∧
          ¬ (c.isDigit = true ∨ c = '-' ∨ c = '+' ∨ c = '.') := by
        intro word hword
        simp only [constantWords, List.map_cons, List.map_nil, List.mem_cons, List.not_mem_nil,
          or_false] at hword
        rcases hword with rfl | rfl | rfl | rfl | rfl | rfl | rfl <;>
          exact ⟨_, _, rfl, by decide, by decide, by decide, by decide⟩
      obtain ⟨c, cs, rfl, filled, noQuote, noBracket, noNumber⟩ := first text (mem_constantWords means)
      rw [List.cons_append, item_cons filled, if_neg noQuote, if_neg noBracket, if_neg noNumber,
        ← List.cons_append, constant_append means stops]

section

variable {depth : Nat} (inner : ∀ d, depth = d + 1 → Reads (item d) (Written d))

include inner

theorem item_sound {cs rest : List Char} {v : Value} (read : item depth cs = some (v, rest)) :
    ∃ lead text, Blanks lead ∧ Written depth text v ∧ cs = lead ++ text ++ rest := by
  obtain ⟨lead, blank, same⟩ := exists_lead cs
  have filled := startsFilled_trimStart cs
  suffices ∃ text, Written depth text v ∧ trimStart cs = text ++ rest by
    obtain ⟨text, written, core⟩ := this
    exact ⟨lead, text, blank, written, by rw [List.append_assoc, ← core, ← same]⟩
  rw [same, item_blanks_append blank] at read
  clear same
  cases hcore : trimStart cs with
  | nil =>
      rw [hcore, item.eq_def] at read
      cases read
  | cons c core =>
      rw [hcore] at read filled
      rw [item_cons (startsFilled_cons.mp filled)] at read
      split at read
      · next hquote =>
          obtain ⟨⟨content, rest⟩, hcontent, same⟩ := Option.map_eq_some_iff.mp read
          cases same
          obtain ⟨inside, text, rfl⟩ := stringBody_eq_some.mp hcontent
          exact ⟨_, .of_atom (.string hquote text), by simp⟩
      · split at read
        · next hbracket =>
            cases depth with
            | zero => cases read
            | succ depth =>
                obtain ⟨text, bracket, same⟩ := bracketed_sound (inner depth rfl) hbracket read
                exact ⟨text, .inr bracket, same⟩
        · split at read
          · next start =>
              obtain ⟨text, nonempty, same, reads⟩ := number_append read
              have whole := reads [] stops_nil
              rw [List.append_nil] at whole
              cases text with
              | nil => exact absurd rfl nonempty
              | cons d text =>
                  cases same
                  exact ⟨c :: text, .of_atom (.number start whole), rfl⟩
          · obtain ⟨v, means, same⟩ := Option.map_eq_some_iff.mp read
            cases same
            exact ⟨_, .of_atom (.constant means), List.takeWhile_append_dropWhile.symm⟩

theorem item_complete {lead text rest : List Char} {v : Value} (blank : Blanks lead)
    (written : Written depth text v) (stops : Stops rest) :
    item depth (lead ++ text ++ rest) = some (v, rest) := by
  rw [List.append_assoc, item_blanks_append blank]
  cases depth with
  | zero => exact item_atom written 0 stops
  | succ depth =>
      rcases written with atom | bracket
      · exact item_atom atom _ stops
      · obtain ⟨opening, hopening, behind, rfl, reads⟩ := bracketed_complete (inner depth rfl) bracket
        have noQuote : ∀ c ∈ ['[', '(', '\x7b'], ¬ (c = '\'' ∨ c = '"') := by simp
        rw [List.cons_append, item_cons bracket.opens.1, if_neg (noQuote opening hopening),
          if_pos hopening]
        exact reads rest

end

/-- The reader of items accepts exactly the items of the grammar. -/
theorem reads_item (depth : Nat) : Reads (item depth) (Written depth) := by
  induction depth with
  | zero =>
      have inner : ∀ d, 0 = d + 1 → Reads (item d) (Written d) := by rintro d ⟨⟩
      exact ⟨item_sound inner, item_complete inner, Written.opens⟩
  | succ depth ih =>
      have inner : ∀ d, depth + 1 = d + 1 → Reads (item d) (Written d) := by
        rintro d ⟨⟩
        exact ih
      exact ⟨item_sound inner, item_complete inner, Written.opens⟩

/-! ## Whole texts -/

/-- A whole text is read as a literal exactly if it consists of items of the grammar that make up the
value. -/
theorem parseChars_eq_some {cs : List Char} {v : Value} :
    parseChars cs = some v ↔ ∃ items comma, Members (Written maxNesting) cs items comma ∧
      sequenceValue none (items, comma) = some v := by
  rw [parseChars]
  constructor
  · intro read
    obtain ⟨⟨⟨items, comma⟩, rest⟩, hitems, read⟩ := Option.bind_eq_some_iff.mp read
    obtain ⟨v', hv, read⟩ := Option.bind_eq_some_iff.mp read
    obtain ⟨inside, members, same⟩ := sequence_sound (reads_item maxNesting) hitems
    split at read
    · next ended =>
        cases read
        rw [List.isEmpty_iff.mp ended, List.append_nil] at same
        exact ⟨items, comma, same ▸ members, hv⟩
    · cases read
  · rintro ⟨items, comma, members, hv⟩
    have mark : ∀ c ∈ (none : Option Char), c ∈ marks ∧ c ≠ ',' := nofun
    obtain ⟨behind, read, ended⟩ := sequence_complete (reads_item maxNesting) mark members
      (Nat.lt_succ_self _) (.inl List.head?_nil)
    rw [List.append_nil] at read
    rw [read, Option.bind_some]
    dsimp only
    rw [hv, Option.bind_some, ended]
    rfl

/-- Blanks around a literal make no difference. -/
theorem parseChars_trim {cs : List Char} {v : Value} (h : parseChars cs = some v) :
    parseChars (trim cs) = some v := by
  obtain ⟨items, comma, members, hv⟩ := parseChars_eq_some.mp h
  have front := members.trimStart Written.opens
  exact parseChars_eq_some.mpr
    ⟨items, comma, front.trimEnd Written.endsFilled Written.opens, hv⟩

end TextTemplate.Literal
