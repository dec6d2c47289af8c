import Mathlib
import TextTemplate.Error.Basic
import TextTemplate.Text.Bytes

/-!
# Patterns

Patterns are found in a text from left to right, and of the ways in which a pattern can match at a place
the first one is taken that leads to a match of the whole: an alternative before the ones behind it, and
of a repetition as many characters as possible or as few, as it says. What is found is known by its byte
offsets, that of the whole and those of its groups.

A pattern is run with what comes behind it: `run p next` matches `p` and goes on with `next`, and if that
fails tries the next way of matching `p`.
-/

namespace TextTemplate

open TextTemplate.Text

/-- What a pattern has found: the whole, and its groups by number in the order in which they end. A group
that the match does not pass is missing. -/
structure Captures where
  whole : Span
  groups : List (Nat × Span)
deriving DecidableEq, Repr

def Captures.group? (found : Captures) (n : Nat) : Option Span := found.groups.lookup n

def Span.offsets (s : Span) : List Nat := [s.start, s.stop]

theorem Span.mem_offsets {s : Span} {i : Nat} : i ∈ s.offsets ↔ i = s.start ∨ i = s.stop := by
  simp [offsets]

/-- The start of the whole, the starts and ends of the groups, and the end of the whole. -/
def Captures.offsets (found : Captures) : List Nat :=
  found.whole.start :: (found.groups.flatMap (·.2.offsets) ++ [found.whole.stop])

inductive Pattern where
  | empty
  /-- A single character of a class. -/
  | one (accepts : Char → Bool)
  /-- One or more characters of a class. -/
  | many (accepts : Char → Bool) (greedy : Bool)
  | both (first second : Pattern)
  | either (first second : Pattern)
  | group (n : Nat) (inside : Pattern)
  | atStart
  | atEnd

namespace Pattern

/-- A place in a text: its offset and what stands behind it. -/
structure Place where
  offset : Nat
  rest : List Char

/-- What comes behind a pattern, with the groups that are known so far. -/
abbrev Next := Place → List (Nat × Span) → Option Captures

def repeated (accepts : Char → Bool) (greedy : Bool) (next : Place → Option Captures) :
    Nat → List Char → Option Captures
  | _, [] => none
  | i, c :: rest =>
    if accepts c then
      let once := next ⟨i + c.utf8Size, rest⟩
      let more := repeated accepts greedy next (i + c.utf8Size) rest
      if greedy then more.or once else once.or more
    else none

def run : Pattern → Next → Next
  | empty, next => next
  | one accepts, next => fun here groups =>
    match here.rest with
    | c :: rest => if accepts c then next ⟨here.offset + c.utf8Size, rest⟩ groups else none
    | [] => none
  | many accepts greedy, next => fun here groups =>
    repeated accepts greedy (next · groups) here.offset here.rest
  | both first second, next => first.run (second.run next)
  | either first second, next => fun here groups =>
    (first.run next here groups).or (second.run next here groups)
  | group n inside, next => fun here groups =>
    inside.run (fun stop groups => next stop (groups ++ [(n, ⟨here.offset, stop.offset⟩)])) here groups
  | atStart, next => fun here groups => if here.offset = 0 then next here groups else none
  | atEnd, next => fun here groups => if here.rest.isEmpty then next here groups else none

/-- The end of a match that starts at the offset. -/
def finish (start : Nat) : Next := fun stop groups => some ⟨⟨start, stop.offset⟩, groups⟩

/-- The match of a pattern at a place. -/
def at? (p : Pattern) (here : Place) : Option Captures := p.run (finish here.offset) here []

def searchFrom (p : Pattern) : Nat → List Char → Option Captures
  | i, [] => p.at? ⟨i, []⟩
  | i, c :: rest => (p.at? ⟨i, c :: rest⟩).or (p.searchFrom (i + c.utf8Size) rest)

/-- The first match in a text. -/
def captures? (p : Pattern) (text : List Char) : Option Captures := p.searchFrom 0 text

/-- The matches of a pattern that does not match nothing; the next one may start at `resume`. -/
def findAllFrom (p : Pattern) (resume : Nat) : Nat → List Char → List Span
  | i, [] => (if resume ≤ i then p.at? ⟨i, []⟩ else none).toList.map Captures.whole
  | i, c :: rest =>
    match if resume ≤ i then p.at? ⟨i, c :: rest⟩ else none with
    | some found => found.whole :: p.findAllFrom found.whole.stop (i + c.utf8Size) rest
    | none => p.findAllFrom resume (i + c.utf8Size) rest

/-- All matches in a text; none of them overlap. -/
def findAll (p : Pattern) (text : List Char) : List Span := p.findAllFrom 0 0 text

/-! ## Patterns of several parts -/

def sequence (ps : List Pattern) : Pattern := ps.foldr both empty

def anyOf (ps : List Pattern) : Pattern := ps.foldr either (one fun _ => false)

/-- The pattern or nothing. -/
def optional (p : Pattern) : Pattern := either p empty

def word (cs : List Char) : Pattern := sequence (cs.map fun c => one (· == c))

section

variable {next : Next} {here : Place} {groups : List (Nat × Span)}

@[simp] theorem run_sequence_nil : (sequence []).run next = next := rfl

@[simp] theorem run_sequence_cons (p : Pattern) (ps : List Pattern) :
    (sequence (p :: ps)).run next = p.run ((sequence ps).run next) := rfl

theorem run_group (n : Nat) (p : Pattern) :
    (group n p).run next here groups =
      p.run (fun stop groups => next stop (groups ++ [(n, ⟨here.offset, stop.offset⟩)])) here groups :=
  rfl

theorem run_either (p q : Pattern) :
    (either p q).run next here groups = (p.run next here groups).or (q.run next here groups) := rfl

theorem run_optional (p : Pattern) :
    (optional p).run next here groups = (p.run next here groups).or (next here groups) := rfl

theorem run_anyOf (ps : List Pattern) :
    (anyOf ps).run next here groups = ps.findSome? fun p => p.run next here groups := by
  induction ps with
  | nil =>
      obtain ⟨i, rest⟩ := here
      cases rest with
      | nil => rfl
      | cons c rest => rfl
  | cons p ps ih =>
      show (either p (anyOf ps)).run next here groups = _
      rw [run_either, ih, List.findSome?_cons]
      cases p.run next here groups with
      | none => rfl
      | some found => rfl

end

/-! ## Where a pattern cannot start -/

/-- No match of the pattern starts with this character. -/
def Avoids (c : Char) : Pattern → Prop
  | one accepts | many accepts _ => accepts c = false
  | both first _ => first.Avoids c
  | either first second => first.Avoids c ∧ second.Avoids c
  | group _ inside => inside.Avoids c
  | empty | atStart | atEnd => False

theorem run_of_avoids {p : Pattern} {c : Char} (avoids : p.Avoids c) (next : Next) (i : Nat)
    (rest : List Char) (groups : List (Nat × Span)) : p.run next ⟨i, c :: rest⟩ groups = none := by
  induction p generalizing next with
  | empty | atStart | atEnd => exact absurd avoids id
  | one accepts =>
      have refused : accepts c = false := avoids
      rw [run]
      dsimp only
      rw [refused, if_neg Bool.false_ne_true]
  | many accepts greedy =>
      have refused : accepts c = false := avoids
      rw [run]
      dsimp only
      rw [repeated, refused, if_neg Bool.false_ne_true]
  | both first second ih _ => exact ih avoids _
  | either first second ihFirst ihSecond =>
      rw [run_either, ihFirst avoids.1, ihSecond avoids.2]
      rfl
  | group n inside ih => exact ih avoids _

theorem avoids_word {c : Char} {cs : List Char} (nonempty : cs ≠ []) (other : c ∉ cs) :
    (word cs).Avoids c := by
  cases cs with
  | nil => exact absurd rfl nonempty
  | cons d cs =>
      have ne : c ≠ d := fun same => other (same ▸ List.mem_cons_self)
      exact beq_false_of_ne ne

theorem avoids_anyOf {c : Char} {ps : List Pattern} (avoid : ∀ p ∈ ps, p.Avoids c) :
    (anyOf ps).Avoids c := by
  induction ps with
  | nil => exact rfl
  | cons p ps ih =>
      obtain ⟨first, others⟩ := List.forall_mem_cons.mp avoid
      exact ⟨first, ih others⟩

/-! ## Repetitions and searches -/

/-- With the end of the text behind it, as many characters as possible are all characters. -/
theorem repeated_toEnd {next : Place → Option Captures}
    (stops : ∀ i c rest, next ⟨i, c :: rest⟩ = none) (i : Nat) (c : Char) (cs : List Char) :
    repeated (fun _ => true) true next i (c :: cs) = next ⟨i + byteLength (c :: cs), []⟩ := by
  induction cs generalizing i c with
  | nil =>
      rw [repeated, if_pos rfl]
      dsimp only
      rw [if_pos rfl, repeated, Option.none_or]
      rfl
  | cons d cs ih =>
      rw [repeated, if_pos rfl]
      dsimp only
      rw [if_pos rfl, stops, Option.or_none, ih, Nat.add_assoc]
      rfl

/-- A pattern that has to start with the text is found there or nowhere. -/
theorem captures?_atStart (p : Pattern) (text : List Char) :
    (both atStart p).captures? text = p.at? ⟨0, text⟩ := by
  have later : ∀ i rest, 0 < i → (both atStart p).searchFrom i rest = none := by
    intro i rest positive
    have here : (both atStart p).at? ⟨i, rest⟩ = none := by
      show (if i = 0 then _ else none) = none
      exact if_neg (Nat.ne_of_gt positive)
    induction rest generalizing i with
    | nil => exact here
    | cons c rest ih =>
        have further : 0 < i + c.utf8Size := Nat.add_pos_left positive _
        have there : (both atStart p).at? ⟨i + c.utf8Size, rest⟩ = none := by
          show (if i + c.utf8Size = 0 then _ else none) = none
          exact if_neg (Nat.ne_of_gt further)
        rw [searchFrom, here, ih _ further there]
        rfl
  have first : (both atStart p).at? ⟨0, text⟩ = p.at? ⟨0, text⟩ := by
    show (if 0 = 0 then p.at? ⟨0, text⟩ else none) = _
    exact if_pos rfl
  rw [captures?]
  cases text with
  | nil => exact first
  | cons c rest =>
      rw [searchFrom, first, later _ _ (Nat.add_pos_right 0 c.utf8Size_pos), Option.or_none]

/-- Where a match has not ended, none starts. -/
theorem findAllFrom_skip (p : Pattern) {resume i : Nat} (as bs : List Char)
    (within : i + byteLength as ≤ resume) :
    p.findAllFrom resume i (as ++ bs) = p.findAllFrom resume (i + byteLength as) bs := by
  induction as generalizing i with
  | nil => rfl
  | cons c as ih =>
      have positive := c.utf8Size_pos
      rw [byteLength_cons] at within ⊢
      have early : ¬ resume ≤ i := by omega
      rw [List.cons_append, findAllFrom, if_neg early]
      dsimp only
      rw [ih (by omega), Nat.add_assoc]

end Pattern

end TextTemplate
