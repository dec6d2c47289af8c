import TextTemplate.Proofs.Literal.Reading
import TextTemplate.Proofs.Result

/-!
# The counter of open brackets

The reader of literals once more, together with what it keeps while it runs: the text that is left, and a
counter of open brackets that goes up behind an opening bracket and down when all of it is read. Items
stand in items, and there is a bound on how many readers of items may be active within one another, and on
how many turns a loop may take. A run that would take more remains unfinished.

None does: `maxNesting + 1` levels and one more turn than there are characters are enough on every text, and
the result is that of `parseChars` (`parseFrom_eq`). Every item leaves the counter as it found it
(`itemFrom_keeps`).
-/

namespace TextTemplate.Literal

open TextTemplate.Text

/-! ## Readers with a counter -/

/-- Where the reader stands: the text that is left, and the number of open brackets. -/
structure Cursor where
  rest : List Char
  depth : Nat

/-- Why there is no value: the text is no literal, or the run was cut off. -/
inductive Stop
  | refused
  | unfinished
deriving DecidableEq, Repr

abbrev Counting (α : Type) := Cursor → Except Stop (α × Cursor)

/-- Consumes `c`, which blanks may precede. -/
def Cursor.eat? (c : Char) (p : Cursor) : Option Cursor :=
  (eat c p.rest).map fun rest => { p with rest }

/-- What was taken off the front of a text, with so many brackets open. -/
def taken {α : Type} (depth : Nat) : Option (α × List Char) → Except Stop (α × Cursor)
  | some (a, rest) => .ok (a, { rest, depth })
  | none => .error .refused

/-- Reads members up to the closing character, which has to be there. -/
def membersFrom {α : Type} (close : Char) (member : Counting α) : Nat → Counting (List α)
  | 0, _ => .error .unfinished
  | steps + 1, p =>
    match p.eat? close with
    | some p => .ok ([], p)
    | none => do
      let (a, p) ← member p
      match p.eat? ',' with
      | some p =>
        let (as, p) ← membersFrom close member steps p
        .ok (a :: as, p)
      | none =>
        match p.eat? close with
        | some p => .ok ([a], p)
        | none => .error .refused

/-- Reads an entry of a dict. -/
def entryFrom (item : Counting Value) : Counting (String × Value) := fun p => do
  let (k, p) ← item p
  match keyText k, p.eat? ':' with
  | some key, some p =>
    let (v, p) ← item p
    .ok ((key, v), p)
  | _, _ => .error .refused

/-- Reads members up to the closing character, or to the end of the text if there is none. -/
def sequenceFrom (item : Counting Value) (close : Option Char) : Nat → Counting (List Value × Bool)
  | 0, _ => .error .unfinished
  | steps + 1, p =>
    let p := { p with rest := trimStart p.rest }
    if p.rest.head? = none || p.rest.head? = close then .ok (([], false), p)
    else do
      let (v, p) ← item p
      match p.eat? ',' with
      | none => .ok (([v], false), p)
      | some p =>
        let ((vs, _), p) ← sequenceFrom item close steps p
        .ok ((v :: vs, true), p)

/-- Reads what stands between brackets, behind the opening one. -/
def bracketedFrom (item : Counting Value) (steps : Nat) (opening : Char) : Counting Value := fun p =>
  if opening = '[' then do
    let (vs, p) ← membersFrom ']' item steps p
    .ok (.list vs, p)
  else if opening = '(' then do
    let (members, p) ← sequenceFrom item (some ')') steps p
    match sequenceValue (some ')') members, p.eat? ')' with
    | some v, some p => .ok (v, p)
    | _, _ => .error .refused
  else do
    let (es, p) ← membersFrom '\x7d' (entryFrom item) steps p
    .ok (.map (NameMap.ofEntries es), p)

/-- Reads one item, with so many levels of items left, this one included. -/
def itemFrom (steps : Nat) : Nat → Counting Value
  | 0, _ => .error .unfinished
  | levels + 1, p =>
    match trimStart p.rest with
    | [] => .error .refused
    | c :: rest =>
      if c = '\'' || c = '"' then
        taken p.depth ((stringBody c rest).map fun (s, rest) => (.string (String.ofList s), rest))
      else if c = '[' || c = '(' || c = '\x7b' then
        if p.depth = maxNesting then .error .refused
        else do
          let (v, q) ← bracketedFrom (itemFrom steps levels) steps c { rest, depth := p.depth + 1 }
          .ok (v, { q with depth := q.depth - 1 })
      else if c.isDigit || c = '-' || c = '+' || c = '.' then taken p.depth (number (c :: rest))
      else taken p.depth (constant (c :: rest))

/-- Reads a whole text as a literal. -/
def parseFrom (levels steps : Nat) (cs : List Char) : Except Stop Value := do
  let (members, p) ← sequenceFrom (itemFrom steps levels) none steps { rest := cs, depth := 0 }
  match sequenceValue none members with
  | some v => if (trimStart p.rest).isEmpty then .ok v else .error .refused
  | none => .error .refused

/-! ## The counter -/

/-- Whatever is read, the counter is behind it what it was in front of it. -/
def Keeps {α : Type} (counting : Counting α) : Prop :=
  ∀ p q a, counting p = .ok (a, q) → q.depth = p.depth

theorem depth_eat? {c : Char} {p q : Cursor} (h : p.eat? c = some q) : q.depth = p.depth := by
  obtain ⟨rest, -, rfl⟩ := Option.map_eq_some_iff.mp h
  rfl

theorem depth_taken {α : Type} {depth : Nat} {read : Option (α × List Char)} {a : α} {q : Cursor}
    (h : taken depth read = .ok (a, q)) : q.depth = depth := by
  cases read with
  | none => cases h
  | some read =>
      cases h
      rfl

theorem Keeps.members {α : Type} {member : Counting α} (h : Keeps member) (close : Char) (steps : Nat) :
    Keeps (membersFrom close member steps) := by
  induction steps with
  | zero =>
      intro p q as read
      cases read
  | succ steps ih =>
      intro p q as read
      rw [membersFrom] at read
      split at read
      · next closed =>
          cases read
          exact depth_eat? closed
      · obtain ⟨⟨a, p'⟩, first, read⟩ := exists_of_bind_eq_ok read
        have kept := h _ _ _ first
        dsimp only at read
        split at read
        · next separated =>
            obtain ⟨⟨as', q'⟩, others, same⟩ := exists_of_bind_eq_ok read
            cases same
            exact (ih _ _ _ others).trans ((depth_eat? separated).trans kept)
        · split at read
          · next closed =>
              cases read
              exact (depth_eat? closed).trans kept
          · cases read

theorem Keeps.entry {item : Counting Value} (h : Keeps item) : Keeps (entryFrom item) := by
  intro p q e read
  obtain ⟨⟨k, p'⟩, first, read⟩ := exists_of_bind_eq_ok read
  dsimp only at read
  split at read
  · next key p'' _ colon =>
      obtain ⟨⟨v, q'⟩, second, same⟩ := exists_of_bind_eq_ok read
      cases same
      exact (h _ _ _ second).trans ((depth_eat? colon).trans (h _ _ _ first))
  · cases read

theorem Keeps.sequence {item : Counting Value} (h : Keeps item) (close : Option Char) (steps : Nat) :
    Keeps (sequenceFrom item close steps) := by
  induction steps with
  | zero =>
      intro p q members read
      cases read
  | succ steps ih =>
      intro p q members read
      rw [sequenceFrom] at read
      dsimp only at read
      split at read
      · cases read
        rfl
      · obtain ⟨⟨v, p'⟩, first, read⟩ := exists_of_bind_eq_ok read
        have kept := h _ _ _ first
        dsimp only at read
        split at read
        · cases read
          exact kept
        · next separated =>
            obtain ⟨⟨⟨vs, comma⟩, q'⟩, others, same⟩ := exists_of_bind_eq_ok read
            cases same
            exact (ih _ _ _ others).trans ((depth_eat? separated).trans kept)

theorem Keeps.bracketed {item : Counting Value} (h : Keeps item) (steps : Nat) (opening : Char) :
    Keeps (bracketedFrom item steps opening) := by
  intro p q v read
  rw [bracketedFrom] at read
  split at read
  · obtain ⟨⟨vs, p'⟩, members, same⟩ := exists_of_bind_eq_ok read
    cases same
    exact h.members _ _ _ _ _ members
  · split at read
    · obtain ⟨⟨members, p'⟩, sequence, read⟩ := exists_of_bind_eq_ok read
      dsimp only at read
      split at read
      · next closed =>
          cases read
          exact (depth_eat? closed).trans (h.sequence _ _ _ _ _ sequence)
      · cases read
    · obtain ⟨⟨es, p'⟩, members, same⟩ := exists_of_bind_eq_ok read
      cases same
      exact h.entry.members _ _ _ _ _ members

/-- Every item leaves the counter as it found it. -/
theorem itemFrom_keeps (steps levels : Nat) : Keeps (itemFrom steps levels) := by
  induction levels with
  | zero =>
      intro p q v read
      cases read
  | succ levels ih =>
      intro p q v read
      rw [itemFrom] at read
      split at read
      · cases read
      · split at read
        · exact depth_taken read
        · split at read
          · split at read
            · cases read
            · obtain ⟨⟨v', q'⟩, inside, same⟩ := exists_of_bind_eq_ok read
              cases same
              have kept := ih.bracketed _ _ _ _ _ inside
              dsimp only at kept ⊢
              omega
          · split at read <;> exact depth_taken read

/-! ## Enough levels and turns -/

/-- Behind so many open brackets, and on texts of less than so many characters, the counting reader does what
the reader does. -/
def Counts {α : Type} (depth size : Nat) (counting : Counting α) (reader : Reader α) : Prop :=
  ∀ cs : List Char, cs.length < size → counting { rest := cs, depth } = taken depth (reader cs)

/-- Whatever is read takes at least one character. -/
def Advances {α : Type} (reader : Reader α) : Prop :=
  ∀ {cs rest : List Char} {a : α}, reader cs = some (a, rest) → rest.length < cs.length

theorem Reads.advances {α : Type} {reader : Reader α} {member : List Char → α → Prop}
    (h : Reads reader member) : Advances reader := by
  intro cs rest a read
  obtain ⟨lead, text, -, here, rfl⟩ := h.sound read
  have opens := h.opens here
  cases text with
  | nil => exact opens.elim
  | cons c text =>
      simp only [List.length_append, List.length_cons]
      omega

theorem length_eat {c : Char} {cs rest : List Char} (h : eat c cs = some rest) :
    rest.length < cs.length := by
  have front := trimStart_length_le cs
  unfold eat at h
  split at h
  · next d behind trimmed =>
      split at h
      · cases h
        rw [trimmed, List.length_cons] at front
        omega
      · cases h
  · cases h

theorem Advances.entry {reader : Reader Value} (h : Advances reader) : Advances (Literal.entry reader) := by
  intro cs rest e read
  obtain ⟨⟨k, behind⟩, first, read⟩ := Option.bind_eq_some_iff.mp read
  obtain ⟨key, -, read⟩ := Option.bind_eq_some_iff.mp read
  obtain ⟨behind', colon, read⟩ := Option.bind_eq_some_iff.mp read
  obtain ⟨⟨v, rest'⟩, second, same⟩ := Option.map_eq_some_iff.mp read
  cases same
  exact (h second).trans ((length_eat colon).trans (h first))

theorem eat?_mk (c : Char) (cs : List Char) (depth : Nat) :
    ({ rest := cs, depth } : Cursor).eat? c = (eat c cs).map ({ rest := ·, depth }) :=
  rfl

section

variable {α : Type} {depth size : Nat} {counting : Counting α} {reader : Reader α}

theorem Counts.members (h : Counts depth size counting reader) (advances : Advances reader)
    (close : Char) {steps fuel : Nat} {cs : List Char} (enough : cs.length < steps)
    (enough' : cs.length < fuel) (small : cs.length < size) :
    membersFrom close counting steps { rest := cs, depth } =
      taken depth (membersUpTo close reader fuel cs) := by
  induction steps generalizing fuel cs with
  | zero => omega
  | succ steps ih =>
      obtain ⟨fuel, rfl⟩ := Nat.exists_eq_add_one_of_ne_zero (Nat.ne_zero_of_lt enough')
      rw [membersFrom, membersUpTo, eat?_mk]
      cases hclose : eat close cs with
      | some rest => rfl
      | none =>
          dsimp only [Option.map_none]
          rw [h cs small]
          cases hread : reader cs with
          | none => rfl
          | some read =>
              obtain ⟨a, rest⟩ := read
              have shorter := advances hread
              dsimp only [taken, bind, Except.bind, Option.bind]
              rw [eat?_mk, eat?_mk]
              -- The member and the comma are gone from the text, so the turns left are enough for the rest.
              cases hcomma : eat ',' rest with
              | none => cases eat close rest <;> rfl
              | some behind =>
                  have shorter' := length_eat hcomma
                  dsimp only [Option.map_some]
                  have others : membersFrom close counting steps { rest := behind, depth } =
                      taken depth (membersUpTo close reader fuel behind) :=
                    ih (by omega) (by omega) (by omega)
                  rw [others]
                  cases membersUpTo close reader fuel behind <;> rfl

end

section

variable {depth size : Nat} {counting : Counting Value} {reader : Reader Value}
  (h : Counts depth size counting reader) (advances : Advances reader)
include h advances

theorem Counts.entry : Counts depth size (entryFrom counting) (Literal.entry reader) := by
  intro cs small
  rw [entryFrom, Literal.entry, h cs small]
  cases hread : reader cs with
  | none => rfl
  | some read =>
      obtain ⟨k, rest⟩ := read
      have shorter := advances hread
      dsimp only [taken, bind, Except.bind, Option.bind]
      rw [eat?_mk]
      cases keyText k with
      | none => rfl
      | some key =>
          cases hcolon : eat ':' rest with
          | none => rfl
          | some behind =>
              have shorter' := length_eat hcolon
              dsimp only [Option.map_some]
              rw [h behind (by omega)]
              cases reader behind <;> rfl

theorem Counts.sequence (close : Option Char) {steps fuel : Nat} {cs : List Char}
    (enough : cs.length < steps) (enough' : cs.length < fuel) (small : cs.length < size) :
    sequenceFrom counting close steps { rest := cs, depth } =
      taken depth (sequence reader close fuel cs) := by
  induction steps generalizing fuel cs with
  | zero => omega
  | succ steps ih =>
      obtain ⟨fuel, rfl⟩ := Nat.exists_eq_add_one_of_ne_zero (Nat.ne_zero_of_lt enough')
      have front := trimStart_length_le cs
      rw [sequenceFrom, Literal.sequence]
      dsimp only
      split
      · rfl
      · rw [h _ (by omega)]
        cases hread : reader (trimStart cs) with
        | none => rfl
        | some read =>
            obtain ⟨v, rest⟩ := read
            have shorter := advances hread
            dsimp only [taken, bind, Except.bind, Option.bind]
            rw [eat?_mk]
            cases hcomma : eat ',' rest with
            | none => rfl
            | some behind =>
                have shorter' := length_eat hcomma
                dsimp only [Option.map_some]
                have others : sequenceFrom counting close steps { rest := behind, depth } =
                    taken depth (Literal.sequence reader close fuel behind) :=
                  ih (by omega) (by omega) (by omega)
                rw [others]
                cases Literal.sequence reader close fuel behind <;> rfl

theorem Counts.bracketed (opening : Char) :
    Counts depth size (bracketedFrom counting size opening) (bracketed reader opening) := by
  intro cs small
  rw [bracketedFrom, Literal.bracketed]
  split
  · rw [listItems_eq, h.members advances ']' small (Nat.lt_succ_self _) small]
    cases membersUpTo ']' reader (cs.length + 1) cs <;> rfl
  · split
    · rw [h.sequence advances (some ')') small (Nat.lt_succ_self _) small]
      cases Literal.sequence reader (some ')') (cs.length + 1) cs with
      | none => rfl
      | some read =>
          obtain ⟨members, rest⟩ := read
          dsimp only [taken, bind, Except.bind, Option.bind]
          rw [eat?_mk]
          cases sequenceValue (some ')') members with
          | none => rfl
          | some v => cases eat ')' rest <;> rfl
    · have entries := (h.entry advances).members advances.entry '\x7d' small (Nat.lt_succ_self _) small
      rw [dictEntries_eq, entries]
      cases membersUpTo '\x7d' (Literal.entry reader) (cs.length + 1) cs <;> rfl

end

/-- Behind `depth` open brackets there are at most `maxNesting - depth` more, and one level of items for
each of them and one within are enough. -/
theorem counts_itemFrom {steps levels depth : Nat} (fits : depth ≤ maxNesting)
    (enough : maxNesting < levels + depth) :
    Counts depth steps (itemFrom steps levels) (item (maxNesting - depth)) := by
  -- A level is used up only where a bracket is opened, so levels and open brackets keep their sum.
  induction levels generalizing depth with
  | zero => omega
  | succ levels ih =>
      intro cs small
      have front := trimStart_length_le cs
      rw [itemFrom, item.eq_def]
      dsimp only
      cases hcore : trimStart cs with
      | nil => rfl
      | cons c rest =>
          rw [hcore, List.length_cons] at front
          dsimp only
          split
          · rfl
          · split
            · cases hleft : maxNesting - depth with
              | zero =>
                  rw [if_pos (by omega)]
                  rfl
              | succ left =>
                  have inner : Counts (depth + 1) steps (itemFrom steps levels)
                      (item (maxNesting - (depth + 1))) := ih (by omega) (by omega)
                  rw [show maxNesting - (depth + 1) = left by omega] at inner
                  rw [if_neg (by omega), inner.bracketed (reads_item left).advances c rest (by omega)]
                  dsimp only
                  cases bracketed (item left) c rest <;> rfl
            · split <;> rfl

/-- On every text the reader ends with `maxNesting + 1` levels of items, however many turns more than there
are characters its loops may take, and its result is that of `parseChars`. -/
theorem parseFrom_eq {steps : Nat} {cs : List Char} (enough : cs.length < steps) :
    parseFrom (maxNesting + 1) steps cs =
      match parseChars cs with
      | some v => .ok v
      | none => .error .refused := by
  have inner : Counts 0 steps (itemFrom steps (maxNesting + 1)) (item maxNesting) :=
    counts_itemFrom (Nat.zero_le _) (Nat.lt_succ_self _)
  rw [parseFrom, parseChars, inner.sequence (reads_item maxNesting).advances none enough
    (Nat.lt_succ_self _) enough]
  cases sequence (item maxNesting) none (cs.length + 1) cs with
  | none => rfl
  | some read =>
      obtain ⟨members, rest⟩ := read
      dsimp only [taken, bind, Except.bind, Option.bind]
      cases sequenceValue none members with
      | none => rfl
      | some v =>
          dsimp only
          split <;> rfl

end TextTemplate.Literal
