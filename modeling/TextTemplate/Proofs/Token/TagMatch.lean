import Mathlib
import TextTemplate.Token

/-!
# Tags at the start of a text

A pair of delimiters stands at the start of a text if its start delimiter stands there and its end
delimiter follows somewhere behind it; its tag ends at the first such end. Of several pairs that stand
at one place the one with the longest start delimiter wins, and of equally long ones the first in the
order of `Delimiters.pairs`. All of this is said without the functions that read tags, which are then
shown to find exactly the tag of the winning pair.
-/

namespace TextTemplate

open TextTemplate.Text

/-! ## Finding a text in another one -/

theorem dropStart?_eq_some {start cs rest : List Char} :
    dropStart? start cs = some rest ↔ cs = start ++ rest := by
  induction start generalizing cs with
  | nil => simp [dropStart?]
  | cons p ps ih =>
      cases cs with
      | nil => simp [dropStart?]
      | cons c cs =>
          rw [dropStart?]
          by_cases same : p = c
          · simp [same, ih]
          · simp [same, Ne.symm same]

/-- Whether `stop` occurs at the end of `inside`, and not earlier, in `inside ++ stop ++ rest`. -/
def FirstStop (stop inside rest : List Char) : Prop :=
  ∀ shorter behind, inside ++ stop ++ rest = shorter ++ stop ++ behind →
    inside.length ≤ shorter.length

theorem FirstStop.cons {stop inside rest : List Char} {c : Char} (h : FirstStop stop inside rest)
    (here : ∀ behind, c :: (inside ++ stop ++ rest) ≠ stop ++ behind) :
    FirstStop stop (c :: inside) rest := by
  intro shorter behind same
  cases shorter with
  | nil => exact absurd same (here behind)
  | cons d shorter =>
      have same := List.cons_eq_cons.mp same
      exact Nat.succ_le_succ (h shorter behind same.2)

/-- A text is split at the first occurrence. -/
theorem splitAt?_sound {stop cs inside rest : List Char} (h : splitAt? stop cs = some (inside, rest)) :
    cs = inside ++ stop ++ rest ∧ FirstStop stop inside rest := by
  induction cs generalizing inside with
  | nil =>
      obtain ⟨rest', hdrop, same⟩ := Option.map_eq_some_iff.mp h
      cases same
      exact ⟨dropStart?_eq_some.mp hdrop, fun _ _ _ => Nat.zero_le _⟩
  | cons c cs ih =>
      rw [splitAt?] at h
      cases hdrop : dropStart? stop (c :: cs) with
      | some found =>
          rw [hdrop] at h
          cases h
          exact ⟨dropStart?_eq_some.mp hdrop, fun _ _ _ => Nat.zero_le _⟩
      | none =>
          rw [hdrop] at h
          obtain ⟨⟨shorter, rest'⟩, hsplit, same⟩ := Option.map_eq_some_iff.mp h
          cases same
          obtain ⟨rfl, first⟩ := ih hsplit
          refine ⟨rfl, first.cons fun behind same => ?_⟩
          rw [dropStart?_eq_some.mpr same] at hdrop
          cases hdrop

/-- A text that has an occurrence is split. -/
theorem splitAt?_isSome {stop cs inside rest : List Char} (h : cs = inside ++ stop ++ rest) :
    (splitAt? stop cs).isSome := by
  induction cs generalizing inside with
  | nil =>
      have parts : inside = [] ∧ stop = [] ∧ rest = [] := by simpa using h.symm
      rw [parts.2.1]
      rfl
  | cons c cs ih =>
      rw [splitAt?]
      cases hdrop : dropStart? stop (c :: cs) with
      | some found => rfl
      | none =>
          cases inside with
          | nil =>
              have found : dropStart? stop (c :: cs) = some rest := dropStart?_eq_some.mpr h
              rw [hdrop] at found
              cases found
          | cons d inside =>
              have same := List.cons_eq_cons.mp h
              simpa using ih same.2

theorem FirstStop.unique {stop inside rest inside' rest' : List Char} (h : FirstStop stop inside rest)
    (h' : FirstStop stop inside' rest')
    (same : inside ++ stop ++ rest = inside' ++ stop ++ rest') : inside = inside' ∧ rest = rest' := by
  have length : inside.length = inside'.length :=
    Nat.le_antisymm (h inside' rest' same) (h' inside rest same.symm)
  rw [List.append_assoc, List.append_assoc] at same
  obtain ⟨hinside, hrest⟩ := List.append_inj same length
  exact ⟨hinside, List.append_cancel_left hrest⟩

theorem splitAt?_eq_some {stop cs inside rest : List Char} :
    splitAt? stop cs = some (inside, rest) ↔
      cs = inside ++ stop ++ rest ∧ FirstStop stop inside rest := by
  refine ⟨splitAt?_sound, ?_⟩
  rintro ⟨text, first⟩
  obtain ⟨⟨inside', rest'⟩, hsplit⟩ := Option.isSome_iff_exists.mp (splitAt?_isSome text)
  obtain ⟨text', first'⟩ := splitAt?_sound hsplit
  obtain ⟨rfl, rfl⟩ := first.unique first' (text.symm.trans text')
  exact hsplit

/-! ## One pair of delimiters -/

namespace DelimiterPair

variable (p : DelimiterPair)

/-- The start delimiter stands at the start of the text, the end delimiter somewhere behind it. -/
def Stands (cs : List Char) : Prop := ∃ inside rest, cs = p.start ++ inside ++ p.stop ++ rest

/-- The tag at the start of the text: it ends at the first end delimiter behind the start. -/
structure Encloses (cs inside rest : List Char) : Prop where
  text : cs = p.start ++ inside ++ p.stop ++ rest
  first : FirstStop p.stop inside rest

/-- The number of bytes of a tag. -/
def tagLength (inside : List Char) : Nat :=
  byteLength p.start + byteLength inside + byteLength p.stop

variable {p} {cs inside rest : List Char}

theorem Encloses.stands (h : p.Encloses cs inside rest) : p.Stands cs := ⟨inside, rest, h.text⟩

theorem Encloses.unique {inside' rest' : List Char} (h : p.Encloses cs inside rest)
    (h' : p.Encloses cs inside' rest') : inside = inside' ∧ rest = rest' := by
  refine h.first.unique h'.first ?_
  have same := h.text.symm.trans h'.text
  simpa only [List.append_assoc, List.append_cancel_left_eq] using same

theorem Encloses.length_lt (h : p.Encloses cs inside rest) : rest.length < cs.length := by
  have start := List.length_pos_iff.mpr p.start_ne_nil
  rw [h.text]
  simp only [List.length_append]
  omega

theorem tag?_eq_some {kind : TagKind} {t : TagMatch} :
    p.tag? kind cs = some t ↔
      ∃ inside rest, p.Encloses cs inside rest ∧ t = ⟨kind, inside, p.tagLength inside, rest⟩ := by
  unfold tag?
  constructor
  · intro h
    obtain ⟨behind, hdrop, h⟩ := Option.bind_eq_some_iff.mp h
    obtain ⟨⟨inside, rest⟩, hsplit, rfl⟩ := Option.map_eq_some_iff.mp h
    obtain ⟨rfl, first⟩ := splitAt?_eq_some.mp hsplit
    refine ⟨inside, rest, ⟨?_, first⟩, rfl⟩
    rw [dropStart?_eq_some.mp hdrop]
    simp only [List.append_assoc]
  · rintro ⟨inside, rest, ⟨text, first⟩, rfl⟩
    have hdrop : dropStart? p.start cs = some (inside ++ p.stop ++ rest) := by
      rw [dropStart?_eq_some, text]
      simp only [List.append_assoc]
    rw [hdrop, Option.bind_some, splitAt?_eq_some.mpr ⟨rfl, first⟩]
    rfl

theorem exists_encloses (h : p.Stands cs) : ∃ inside rest, p.Encloses cs inside rest := by
  obtain ⟨inside, rest, rfl⟩ := h
  have found : (splitAt? p.stop (inside ++ p.stop ++ rest)).isSome := splitAt?_isSome rfl
  obtain ⟨⟨inside', rest'⟩, hsplit⟩ := Option.isSome_iff_exists.mp found
  obtain ⟨text, first⟩ := splitAt?_eq_some.mp hsplit
  refine ⟨inside', rest', ?_, first⟩
  simpa only [List.append_assoc, List.append_cancel_left_eq] using text

theorem tag?_eq_none {kind : TagKind} : p.tag? kind cs = none ↔ ¬ p.Stands cs := by
  rw [Option.eq_none_iff_forall_ne_some]
  constructor
  · intro none stands
    obtain ⟨inside, rest, h⟩ := exists_encloses stands
    exact none _ (tag?_eq_some.mpr ⟨inside, rest, h, rfl⟩)
  · rintro stands t h
    obtain ⟨inside, rest, h, -⟩ := tag?_eq_some.mp h
    exact stands h.stands

end DelimiterPair

/-! ## The winning pair -/

/-- The place of a kind among equally long start delimiters. -/
def TagKind.rank : TagKind → Nat
  | .escapedPrint => 0
  | .print => 1
  | .statement => 2
  | .comment => 3

theorem TagKind.rank_inj {kind kind' : TagKind} (h : kind.rank = kind'.rank) : kind = kind' := by
  cases kind <;> cases kind' <;> first | rfl | cases h

namespace Delimiters

variable (d : Delimiters)

def pair : TagKind → DelimiterPair
  | .escapedPrint => d.escapedPrint
  | .print => d.print
  | .statement => d.statement
  | .comment => d.comment

/-- The pair of this kind stands at the start of the text and goes before all others that do: its
start delimiter is longer, or as long and of the earlier kind. -/
structure Wins (kind : TagKind) (cs : List Char) : Prop where
  stands : (d.pair kind).Stands cs
  best : ∀ other, (d.pair other).Stands cs →
    byteLength (d.pair other).start < byteLength (d.pair kind).start ∨
      byteLength (d.pair other).start = byteLength (d.pair kind).start ∧ kind.rank ≤ other.rank

variable {d} {kind kind' : TagKind} {cs : List Char}

theorem Wins.unique (h : d.Wins kind cs) (h' : d.Wins kind' cs) : kind = kind' := by
  refine TagKind.rank_inj ?_
  have best := h.best kind' h'.stands
  have best' := h'.best kind h.stands
  omega

/-- The pairs with their places. -/
theorem mem_zipIdx_pairs {entry : (TagKind × DelimiterPair) × Nat} :
    entry ∈ d.pairs.zipIdx ↔ entry = ((entry.1.1, d.pair entry.1.1), entry.1.1.rank) := by
  obtain ⟨⟨kind, p⟩, place⟩ := entry
  cases kind <;> simp [pairs, pair, TagKind.rank]

/-- The order in which the pairs are tried. -/
theorem exists_ordered (d : Delimiters) : ∃ entries : List ((TagKind × DelimiterPair) × Nat),
    d.ordered = entries.map (·.1) ∧
    (∀ entry, entry ∈ entries ↔ entry = ((entry.1.1, d.pair entry.1.1), entry.1.1.rank)) ∧
    entries.Pairwise fun a b => byteLength b.1.2.start < byteLength a.1.2.start ∨
      byteLength b.1.2.start = byteLength a.1.2.start ∧ a.2 ≤ b.2 := by
  let le (a b : TagKind × DelimiterPair) : Bool := byteLength b.2.start ≤ byteLength a.2.start
  have trans : ∀ a b c, le a b = true → le b c = true → le a c = true := by
    simp only [le, decide_eq_true_eq]
    omega
  have total : ∀ a b, (le a b || le b a) = true := by
    simp only [le, Bool.or_eq_true, decide_eq_true_eq]
    omega
  refine ⟨d.pairs.zipIdx.mergeSort (List.zipIdxLE le), List.mergeSort_zipIdx.symm, fun entry => ?_, ?_⟩
  · rw [List.mem_mergeSort]
    exact mem_zipIdx_pairs
  · have sorted := List.pairwise_mergeSort (List.zipIdxLE_trans trans) (List.zipIdxLE_total total)
      d.pairs.zipIdx
    refine sorted.imp fun {a b} h => ?_
    simp only [List.zipIdxLE, le, decide_eq_true_eq] at h
    split at h
    · split at h
      · simp only [decide_eq_true_eq] at h
        omega
      · omega
    · cases h

/-- The tag that is found is the one of the winning pair. -/
theorem wins_of_tag? {t : TagMatch} (h : Token.tag? d.ordered cs = some t) :
    d.Wins t.kind cs ∧ (d.pair t.kind).tag? t.kind cs = some t := by
  obtain ⟨entries, hordered, hmem, hsorted⟩ := d.exists_ordered
  rw [Token.tag?, hordered, List.findSome?_map] at h
  obtain ⟨earlier, entry, later, rfl, found, none⟩ := List.findSome?_eq_some_iff.mp h
  have hentry := (hmem entry).mp (List.mem_append_right _ List.mem_cons_self)
  rw [hentry] at found
  simp only [Function.comp_apply] at found
  obtain ⟨inside, rest, encloses, same⟩ := DelimiterPair.tag?_eq_some.mp found
  obtain rfl : t = ⟨entry.1.1, inside, _, rest⟩ := same
  refine ⟨⟨encloses.stands, fun other stands => ?_⟩, found⟩
  let rival : (TagKind × DelimiterPair) × Nat := ((other, d.pair other), other.rank)
  have listed : rival ∈ earlier ++ entry :: later := (hmem rival).mpr rfl
  rcases List.mem_append.mp listed with before | behind
  · exact absurd stands (DelimiterPair.tag?_eq_none.mp (none rival before))
  rcases List.mem_cons.mp behind with same | behind
  · rw [← same]
    exact .inr ⟨rfl, Nat.le_refl _⟩
  · have goes := (List.pairwise_cons.mp (List.pairwise_append.mp hsorted).2.1).1 rival behind
    rw [hentry] at goes
    exact goes

theorem tag?_eq_none : Token.tag? d.ordered cs = none ↔ ∀ kind, ¬ (d.pair kind).Stands cs := by
  obtain ⟨entries, hordered, hmem, -⟩ := d.exists_ordered
  rw [Token.tag?, hordered, List.findSome?_map, List.findSome?_eq_none_iff]
  constructor
  · intro none kind
    exact DelimiterPair.tag?_eq_none.mp (none ((kind, d.pair kind), kind.rank) ((hmem _).mpr rfl))
  · intro stands entry listed
    rw [(hmem entry).mp listed]
    exact DelimiterPair.tag?_eq_none.mpr (stands _)

/-- What is found at the start of a text is the tag of the winning pair, up to its first end. -/
theorem tag?_eq_some {t : TagMatch} :
    Token.tag? d.ordered cs = some t ↔
      ∃ kind inside rest, d.Wins kind cs ∧ (d.pair kind).Encloses cs inside rest ∧
        t = ⟨kind, inside, (d.pair kind).tagLength inside, rest⟩ := by
  constructor
  · intro h
    obtain ⟨wins, found⟩ := wins_of_tag? h
    obtain ⟨inside, rest, encloses, same⟩ := DelimiterPair.tag?_eq_some.mp found
    exact ⟨t.kind, inside, rest, wins, encloses, same⟩
  · rintro ⟨kind, inside, rest, wins, encloses, rfl⟩
    cases h : Token.tag? d.ordered cs with
    | none => exact absurd wins.stands (tag?_eq_none.mp h kind)
    | some t =>
        obtain ⟨wins', found⟩ := wins_of_tag? h
        rw [← wins.unique wins'] at found
        obtain ⟨inside', rest', encloses', rfl⟩ := DelimiterPair.tag?_eq_some.mp found
        obtain ⟨rfl, rfl⟩ := encloses.unique encloses'
        rw [wins.unique wins']

end Delimiters

end TextTemplate
