import TextTemplate.Filter.Markup
import TextTemplate.Proofs.Text.Trimming

/-!
# Blanks between tags

A gap is a run of blanks directly between `>` and `<`. What is removed from a text are its gaps and
nothing else, whether each character is judged by its place (`spaceless_eq_filter`) or matches are
replaced one after the other (`replaced_spaceless`). No gap is left behind, and none comes about.
-/

namespace TextTemplate.Markup

open TextTemplate.Text

/-- The text has a run of blanks directly between `>` and `<`, with these texts around the two. -/
structure IsGap (cs front gap behind : List Char) : Prop where
  split : cs = front ++ '>' :: (gap ++ '<' :: behind)
  nonempty : gap ≠ []
  blanks : Blanks gap

/-- The position lies in such a run. -/
def InGap (cs : List Char) (i : Nat) : Prop :=
  ∃ front gap behind, IsGap cs front gap behind ∧
    front.length < i ∧ i ≤ front.length + gap.length

theorem not_isBlank_opening : isBlank '<' = false := by decide

theorem not_isBlank_closing : isBlank '>' = false := by decide

/-! ## Judging a character by its place -/

/-- The last character that is not a blank is `>`. -/
def BehindTag (cs : List Char) : Prop := (trimEnd cs).getLast? = some '>'

/-- The first character that is not a blank is `<`. -/
def BeforeTag (cs : List Char) : Prop := (trimStart cs).head? = some '<'

instance (cs : List Char) : Decidable (BehindTag cs) := inferInstanceAs (Decidable (_ = _))

instance (cs : List Char) : Decidable (BeforeTag cs) := inferInstanceAs (Decidable (_ = _))

theorem not_behindTag_nil : ¬ BehindTag [] := nofun

theorem behindTag_concat_blank {c : Char} (blank : isBlank c = true) (cs : List Char) :
    BehindTag (cs ++ [c]) ↔ BehindTag cs := by
  rw [BehindTag, BehindTag, trimEnd_append_blanks cs (by simp [blank])]

theorem behindTag_concat_filled {c : Char} (filled : isBlank c = false) (cs : List Char) :
    BehindTag (cs ++ [c]) ↔ c = '>' := by
  rw [BehindTag, trimEnd_eq_self (endsFilled_concat.mpr filled), List.getLast?_concat,
    Option.some_inj]

theorem beforeTag_cons_blank {c : Char} (blank : isBlank c = true) (cs : List Char) :
    BeforeTag (c :: cs) ↔ BeforeTag cs := by
  have one : Blanks [c] := by simp [blank]
  rw [BeforeTag, BeforeTag, ← List.singleton_append, trimStart_blanks_append one]

theorem beforeTag_cons_filled {c : Char} (filled : isBlank c = false) (cs : List Char) :
    BeforeTag (c :: cs) ↔ c = '<' := by
  rw [BeforeTag, trimStart_eq_self (startsFilled_cons.mpr filled), List.head?_cons, Option.some_inj]

theorem beforeTag_iff {cs : List Char} :
    BeforeTag cs ↔ ∃ gap behind, Blanks gap ∧ cs = gap ++ '<' :: behind := by
  constructor
  · intro h
    obtain ⟨gap, blanks, same⟩ := exists_lead cs
    obtain ⟨behind, tag⟩ := List.head?_eq_some_iff.mp h
    exact ⟨gap, behind, blanks, tag ▸ same⟩
  · rintro ⟨gap, behind, blanks, rfl⟩
    rw [BeforeTag, trimStart_blanks_append blanks]
    exact (beforeTag_cons_filled not_isBlank_opening behind).mpr rfl

theorem behindTag_iff {cs : List Char} :
    BehindTag cs ↔ ∃ front gap, Blanks gap ∧ cs = front ++ '>' :: gap := by
  constructor
  · intro h
    obtain ⟨gap, blanks, same⟩ := exists_trail cs
    obtain ⟨front, tag⟩ := List.getLast?_eq_some_iff.mp h
    refine ⟨front, gap, blanks, ?_⟩
    rw [List.append_cons, ← tag]
    exact same
  · rintro ⟨front, gap, blanks, rfl⟩
    rw [BehindTag, List.append_cons, trimEnd_append_blanks _ blanks]
    exact (behindTag_concat_filled not_isBlank_closing front).mpr rfl

/-- A character is in a gap if it is a blank and the nearest others around it are `>` and `<`. -/
theorem inGap_append_cons {front behind : List Char} {c : Char} :
    InGap (front ++ c :: behind) front.length ↔
      BehindTag front ∧ isBlank c = true ∧ BeforeTag behind := by
  constructor
  · rintro ⟨before, gap, after, ⟨split, -, blanks⟩, low, high⟩
    -- The gap is cut at the character.
    obtain ⟨k, hk⟩ : ∃ k, front.length = before.length + 1 + k := Nat.exists_eq_add_of_le low
    have inside : k < gap.length := by omega
    obtain ⟨lead, d, trail, rfl, hlead⟩ : ∃ lead d trail, gap = lead ++ d :: trail ∧ lead.length = k :=
      ⟨gap.take k, gap[k], gap.drop (k + 1), by rw [List.getElem_cons_drop, List.take_append_drop],
        List.length_take_of_le inside.le⟩
    have halves : front ++ c :: behind = (before ++ '>' :: lead) ++ d :: (trail ++ '<' :: after) := by
      rw [split]
      simp
    have same : front.length = (before ++ '>' :: lead).length := by
      simp only [List.length_append, List.length_cons]
      omega
    obtain ⟨hfront, hbehind⟩ := List.append_inj halves same
    obtain ⟨rfl, hrest⟩ := List.cons.inj hbehind
    rw [blanks_append, blanks_cons] at blanks
    obtain ⟨leads, blank, trails⟩ := blanks
    exact ⟨behindTag_iff.mpr ⟨before, lead, leads, hfront⟩, blank,
      beforeTag_iff.mpr ⟨trail, after, trails, hrest⟩⟩
  · rintro ⟨hfront, blank, hbehind⟩
    obtain ⟨before, lead, hlead, rfl⟩ := behindTag_iff.mp hfront
    obtain ⟨trail, after, htrail, rfl⟩ := beforeTag_iff.mp hbehind
    refine ⟨before, lead ++ c :: trail, after, ⟨by simp, by simp, ?_⟩, ?_, ?_⟩
    · rw [blanks_append, blanks_cons]
      exact ⟨hlead, blank, htrail⟩
    · simp
    · simp only [List.length_append, List.length_cons]
      omega

theorem InGap.lt_length {cs : List Char} {i : Nat} (h : InGap cs i) : i < cs.length := by
  obtain ⟨front, gap, behind, ⟨split, -, -⟩, -, high⟩ := h
  rw [split]
  simp only [List.length_append, List.length_cons]
  omega

instance (cs : List Char) (i : Nat) : Decidable (InGap cs i) :=
  if h : i < cs.length then
    decidable_of_iff (BehindTag (cs.take i) ∧ isBlank cs[i] = true ∧ BeforeTag (cs.drop (i + 1))) <| by
      have place := @inGap_append_cons (cs.take i) (cs.drop (i + 1)) cs[i]
      rw [List.getElem_cons_drop, List.take_append_drop, List.length_take_of_le h.le] at place
      exact place.symm
  else isFalse fun inside => h inside.lt_length

/-- The invariant of the run: ahead of a tag, it knows whether a tag is behind it. -/
theorem spacelessFrom_eq_filter (front rest : List Char) {afterTag : Bool}
    (h : BeforeTag rest → (afterTag = true ↔ BehindTag front)) :
    spacelessFrom afterTag rest =
      ((rest.zipIdx front.length).filter fun e => ¬ InGap (front ++ rest) e.2).map Prod.fst := by
  induction rest generalizing front afterTag with
  | nil => rfl
  | cons c rest ih =>
      have next := @ih (front ++ [c])
      rw [List.length_append, List.length_singleton, List.append_assoc, List.singleton_append] at next
      have removes : (afterTag && isBlank c && (rest.dropWhile isBlank).head? == some '<') = true ↔
          (afterTag = true ∧ isBlank c = true) ∧ BeforeTag rest := by
        rw [Bool.and_eq_true, Bool.and_eq_true, beq_iff_eq]
        rfl
      rw [spacelessFrom, List.zipIdx_cons, List.filter_cons]
      by_cases inside : InGap (front ++ c :: rest) front.length
      · obtain ⟨behind, blank, ahead⟩ := inGap_append_cons.mp inside
        have flag := (h ((beforeTag_cons_blank blank rest).mpr ahead)).mpr behind
        rw [if_pos (removes.mpr ⟨⟨flag, blank⟩, ahead⟩), if_neg (by simpa using inside)]
        exact next fun _ => iff_of_true rfl ((behindTag_concat_blank blank front).mpr behind)
      · have kept : ¬ ((afterTag = true ∧ isBlank c = true) ∧ BeforeTag rest) := by
          rintro ⟨⟨flag, blank⟩, ahead⟩
          have behind := (h ((beforeTag_cons_blank blank rest).mpr ahead)).mp flag
          exact inside (inGap_append_cons.mpr ⟨behind, blank, ahead⟩)
        rw [if_neg (mt removes.mp kept), if_pos (by simpa using inside), List.map_cons]
        refine congrArg (c :: ·) (next fun ahead => ?_)
        rw [decide_eq_true_eq]
        by_cases blank : isBlank c = true
        · have notBehind : ¬ BehindTag front := fun behind =>
            inside (inGap_append_cons.mpr ⟨behind, blank, ahead⟩)
          rw [behindTag_concat_blank blank]
          refine iff_of_false ?_ notBehind
          rintro rfl
          exact absurd blank (by decide)
        · rw [behindTag_concat_filled (Bool.eq_false_of_not_eq_true blank)]

/-- Exactly the characters in gaps are removed. -/
theorem spaceless_eq_filter (cs : List Char) :
    spaceless cs = (cs.zipIdx.filter fun e => ¬ InGap cs e.2).map Prod.fst :=
  spacelessFrom_eq_filter [] cs fun _ => iff_of_false Bool.false_ne_true not_behindTag_nil

/-! ## Replacing matches -/

/-- Each `>` with a gap and its `<` is replaced by `><`. The first match from the left is taken, and the
next one starts behind it. -/
inductive Replaced : List Char → List Char → Prop
  | nil : Replaced [] []
  | gap {gap behind out : List Char} (nonempty : gap ≠ []) (blanks : Blanks gap)
      (rest : Replaced behind out) : Replaced ('>' :: (gap ++ '<' :: behind)) ('>' :: '<' :: out)
  | other {c : Char} {cs out : List Char} (none : ∀ gap behind, ¬ IsGap (c :: cs) [] gap behind)
      (rest : Replaced cs out) : Replaced (c :: cs) (c :: out)

theorem spacelessFrom_gap {gap : List Char} (blanks : Blanks gap) (behind : List Char) :
    spacelessFrom true (gap ++ '<' :: behind) = '<' :: spaceless behind := by
  induction gap with
  | nil => rfl
  | cons c gap ih =>
      obtain ⟨blank, blanks⟩ := blanks_cons.mp blanks
      have ahead : BeforeTag (gap ++ '<' :: behind) := beforeTag_iff.mpr ⟨gap, behind, blanks, rfl⟩
      rw [List.cons_append, spacelessFrom, if_pos]
      · exact ih blanks
      · rw [blank]
        exact beq_iff_eq.mpr ahead

/-- Behind a `>` without a gap it makes no difference that it is a `>`. -/
theorem spacelessFrom_of_no_gap {cs : List Char} (none : ∀ gap behind, ¬ IsGap ('>' :: cs) [] gap behind) :
    spacelessFrom true cs = spaceless cs := by
  cases cs with
  | nil => rfl
  | cons c cs =>
      rw [spaceless, spacelessFrom, spacelessFrom, if_neg, if_neg]
      · exact Bool.false_ne_true
      · intro cond
        obtain ⟨blank, ahead⟩ := Bool.and_eq_true_iff.mp cond
        obtain ⟨gap, behind, blanks, rfl⟩ := beforeTag_iff.mp (beq_iff_eq.mp ahead)
        exact none (c :: gap) behind ⟨rfl, List.cons_ne_nil _ _, blanks_cons.mpr ⟨blank, blanks⟩⟩

/-- Removing all gaps is replacing the matches from left to right: no gap is skipped beside a match. -/
theorem replaced_spaceless (cs : List Char) : Replaced cs (spaceless cs) := by
  -- A match takes more than one character, so the induction is on the length.
  induction h : cs.length using Nat.strong_induction_on generalizing cs with
  | _ n ih =>
      cases cs with
      | nil => exact .nil
      | cons c cs =>
          by_cases found : ∃ gap behind, IsGap (c :: cs) [] gap behind
          · obtain ⟨gap, behind, split, nonempty, blanks⟩ := found
            obtain ⟨rfl, rfl⟩ := List.cons.inj split
            have shorter : behind.length < n := by
              rw [← h]
              simp only [List.length_cons, List.length_append]
              omega
            have run : spaceless ('>' :: (gap ++ '<' :: behind)) = '>' :: '<' :: spaceless behind :=
              congrArg ('>' :: ·) (spacelessFrom_gap blanks behind)
            rw [run]
            exact .gap nonempty blanks (ih _ shorter behind rfl)
          · have none : ∀ gap behind, ¬ IsGap (c :: cs) [] gap behind :=
              fun gap behind gapAt => found ⟨gap, behind, gapAt⟩
            have run : spaceless (c :: cs) = c :: spaceless cs := by
              rw [spaceless, spacelessFrom, if_neg (by simp)]
              by_cases tag : c = '>'
              · subst tag
                rw [decide_eq_true rfl, spacelessFrom_of_no_gap none]
              · rw [decide_eq_false tag, spaceless]
            rw [run]
            exact .other none (ih _ (by simp [← h]) cs rfl)

/-! ## Nothing is left to remove -/

namespace Replaced

variable {cs out : List Char}

/-- Blanks in front of a `<` were there before. -/
theorem lead {gap behind : List Char} (h : Replaced cs (gap ++ '<' :: behind)) (blanks : Blanks gap) :
    ∃ behind', cs = gap ++ '<' :: behind' := by
  induction gap generalizing cs with
  | nil =>
      cases h with
      | other none rest => exact ⟨_, rfl⟩
  | cons c gap ih =>
      obtain ⟨blank, blanks⟩ := blanks_cons.mp blanks
      rw [List.cons_append] at h
      generalize hout : gap ++ '<' :: behind = out at h
      cases h with
      | gap => exact absurd blank (by decide)
      | other none rest =>
          obtain ⟨behind', same⟩ := ih (hout ▸ rest) blanks
          exact ⟨behind', congrArg (c :: ·) same⟩

theorem no_gap (h : Replaced cs out) (front gap behind : List Char) : ¬ IsGap out front gap behind := by
  induction h generalizing front with
  | nil =>
      rintro ⟨split, -, -⟩
      exact List.append_ne_nil_of_right_ne_nil _ (List.cons_ne_nil _ _) split.symm
  | gap nonempty blanks rest ih =>
      rintro ⟨split, hgap, hblanks⟩
      match front with
      | [] =>
          -- The gap would have to start with the `<`.
          obtain ⟨d, gap, rfl⟩ := List.exists_cons_of_ne_nil hgap
          obtain ⟨rfl, -⟩ := List.cons.inj (List.cons.inj split).2
          exact absurd (blanks_cons.mp hblanks).1 (by decide)
      | [_] =>
          obtain ⟨tag, -⟩ := List.cons.inj (List.cons.inj split).2
          exact absurd tag (by decide)
      | _ :: _ :: front =>
          exact ih front ⟨(List.cons.inj (List.cons.inj split).2).2, hgap, hblanks⟩
  | other none rest ih =>
      rintro ⟨split, hgap, hblanks⟩
      cases front with
      | nil =>
          obtain ⟨rfl, rfl⟩ := List.cons.inj split
          obtain ⟨behind', rfl⟩ := rest.lead hblanks
          exact none gap behind' ⟨rfl, hgap, hblanks⟩
      | cons _ front => exact ih front ⟨(List.cons.inj split).2, hgap, hblanks⟩

theorem eq_self (h : Replaced cs out) (none : ∀ front gap behind, ¬ IsGap cs front gap behind) :
    out = cs := by
  induction h with
  | nil => rfl
  | @gap gap behind out nonempty blanks rest ih =>
      exact absurd ⟨rfl, nonempty, blanks⟩ (none [] gap behind)
  | @other c cs out _ rest ih =>
      refine congrArg (c :: ·) (ih fun front gap behind gapAt => none (c :: front) gap behind ?_)
      exact ⟨congrArg (c :: ·) gapAt.split, gapAt.nonempty, gapAt.blanks⟩

end Replaced

theorem spaceless_no_gap (cs front gap behind : List Char) :
    ¬ IsGap (spaceless cs) front gap behind :=
  (replaced_spaceless cs).no_gap front gap behind

theorem spaceless_spaceless (cs : List Char) : spaceless (spaceless cs) = spaceless cs :=
  (replaced_spaceless (spaceless cs)).eq_self (spaceless_no_gap cs)

/-- A gap of a trimmed text is a gap of the text. -/
theorem IsGap.of_trim {cs front gap behind : List Char} (h : IsGap (trim cs) front gap behind) :
    ∃ front' behind', IsGap cs front' gap behind' := by
  obtain ⟨lead, trail, -, -, same⟩ := exists_padding cs
  refine ⟨lead ++ front, behind ++ trail, ?_, h.nonempty, h.blanks⟩
  rw [same, h.split]
  simp

/-- Trimming brings no gap about, so a text without gaps that is trimmed stays as it is. -/
theorem trim_spaceless_idem (cs : List Char) :
    trim (spaceless (trim (spaceless cs))) = trim (spaceless cs) := by
  have none : ∀ front gap behind, ¬ IsGap (trim (spaceless cs)) front gap behind := by
    intro front gap behind gapAt
    obtain ⟨front', behind', gapAt⟩ := gapAt.of_trim
    exact spaceless_no_gap cs front' gap behind' gapAt
  rw [(replaced_spaceless _).eq_self none, trim_idem]

example : spaceless ['>', ' ', '<', '>', '\n', '<'] = ['>', '<', '>', '<'] := by decide

end TextTemplate.Markup
