import TextTemplate.Proofs.Expression.Masking

/-!
# Splitting composed texts

`Cut` says what the parts of a masked text between its separators are, without a bound on the number
of steps. A text that is put together from closed parts with separators between them is split into
these parts again, up to blanks around them (`split_joined`), and blanks around the whole text make no
difference (`split_trim`).
-/

namespace TextTemplate.Masked

open TextTemplate.Text

/-! ## Parts between separators -/

/-- The part in front of the first separator, and each separator with the part behind it. -/
inductive Cut (separator : Separator) : Masked → List Char → List (List Char × List Char) → Prop
  | nil : Cut separator [] [] []
  | char {g : Glyph} {ms : Masked} {part : List Char} {parts : List (List Char × List Char)}
      (here : separator (g :: ms) = 0) (rest : Cut separator ms part parts) :
      Cut separator (g :: ms) (g.char :: part) parts
  | mark {g : Glyph} {ms : Masked} {n : Nat} {part : List Char} {parts : List (List Char × List Char)}
      (here : separator (g :: ms) = n + 1) (rest : Cut separator (ms.drop n) part parts) :
      Cut separator (g :: ms) [] ((g.char :: chars (ms.take n), part) :: parts)

variable {separator : Separator} {ms : Masked} {part : List Char} {parts : List (List Char × List Char)}

theorem Cut.eq (h : Cut separator ms part parts) {fuel : Nat} (enough : ms.length ≤ fuel) :
    cut separator fuel ms = (part, parts) := by
  induction h generalizing fuel with
  | nil => cases fuel <;> rfl
  | char here _ ih =>
      obtain ⟨fuel, rfl⟩ := Nat.exists_eq_add_one_of_ne_zero (Nat.ne_zero_of_lt enough)
      rw [cut, here]
      dsimp only
      rw [ih (Nat.le_of_succ_le_succ enough)]
  | @mark g ms n part parts here _ ih =>
      obtain ⟨fuel, rfl⟩ := Nat.exists_eq_add_one_of_ne_zero (Nat.ne_zero_of_lt enough)
      have enough' : (ms.drop n).length ≤ fuel := by
        simp only [List.length_cons] at enough
        rw [List.length_drop]
        omega
      rw [cut, here]
      dsimp only
      rw [ih enough']

theorem exists_cut (separator : Separator) (ms : Masked) :
    ∃ part parts, Cut separator ms part parts := by
  match ms with
  | [] => exact ⟨[], [], .nil⟩
  | g :: ms =>
      cases here : separator (g :: ms) with
      | zero =>
          obtain ⟨part, parts, rest⟩ := exists_cut separator ms
          exact ⟨_, _, .char here rest⟩
      | succ n =>
          have shorter : (ms.drop n).length < (g :: ms).length := by simp
          obtain ⟨part, parts, rest⟩ := exists_cut separator (ms.drop n)
          exact ⟨_, _, .mark here rest⟩
termination_by ms.length

theorem length_mask (cs : List Char) : (mask cs).length = cs.length := by
  have same := congrArg List.length (chars_mask cs)
  rwa [chars, List.length_map] at same

theorem split_of_cut {cs : List Char} (h : Cut separator (mask cs) part parts) :
    split separator cs = trim part :: parts.map fun p => trim p.2 := by
  rw [split, h.eq (length_mask cs).le]

theorem splitKeep_of_cut {cs : List Char} (h : Cut separator (mask cs) part parts) :
    splitKeep separator cs = trim part :: parts.flatMap fun p => [p.1, trim p.2] := by
  rw [splitKeep, h.eq (length_mask cs).le]

/-- No separator starts in the text, whatever part of what follows it takes. -/
def Free (separator : Separator) (ms rest : Masked) : Prop :=
  ∀ us vs, ms = us ++ vs → vs ≠ [] → separator (vs ++ rest) = 0

theorem Free.tail {g : Glyph} {rest : Masked} (h : Free separator (g :: ms) rest) :
    Free separator ms rest :=
  fun us vs same => h (g :: us) vs (by rw [same]; rfl)

theorem Free.append {as bs rest : Masked} (ha : Free separator as (bs ++ rest))
    (hb : Free separator bs rest) : Free separator (as ++ bs) rest := by
  intro us vs same nonempty
  rcases List.append_eq_append_iff.mp same with ⟨gap, rfl, rfl⟩ | ⟨gap, rfl, rfl⟩
  · exact hb gap vs rfl nonempty
  · rw [List.append_assoc]
    cases gap with
    | nil => exact hb [] bs rfl nonempty
    | cons g gap => exact ha us (g :: gap) rfl (List.cons_ne_nil _ _)

theorem Cut.free_append {rest : Masked} (free : Free separator ms rest)
    (h : Cut separator rest part parts) : Cut separator (ms ++ rest) (chars ms ++ part) parts := by
  induction ms with
  | nil => exact h
  | cons g ms ih => exact .char (free [] (g :: ms) rfl (List.cons_ne_nil _ _)) (ih free.tail)

theorem Cut.mark_append {mark rest : Masked} (nonempty : mark ≠ [])
    (here : separator (mark ++ rest) = mark.length) (h : Cut separator rest part parts) :
    Cut separator (mark ++ rest) [] ((chars mark, part) :: parts) := by
  cases mark with
  | nil => exact absurd rfl nonempty
  | cons g mark =>
      have behind : (mark ++ rest).drop mark.length = rest := List.drop_left
      have front : (mark ++ rest).take mark.length = mark := List.take_left
      have cuts : Cut separator ((mark ++ rest).drop mark.length) part parts := by rwa [behind]
      have whole : Cut separator (g :: (mark ++ rest)) []
          ((g.char :: chars ((mark ++ rest).take mark.length), part) :: parts) := .mark here cuts
      rwa [front] at whole

theorem Cut.of_free (free : Free separator ms []) : Cut separator ms (chars ms) [] := by
  have whole := Cut.free_append free .nil
  rwa [List.append_nil, List.append_nil] at whole

/-- A text in which no separator starts is one part. -/
theorem split_of_free {cs : List Char} (free : Free separator (mask cs) []) :
    split separator cs = [trim cs] := by
  rw [split_of_cut (Cut.of_free free), chars_mask, List.map_nil]

theorem splitKeep_of_free {cs : List Char} (free : Free separator (mask cs) []) :
    splitKeep separator cs = [trim cs] := by
  rw [splitKeep_of_cut (Cut.of_free free), chars_mask, List.flatMap_nil]

/-! ## Looking at what is shown -/

theorem after?_eq_none {c : Char} (cs : List Char) {ms : Masked}
    (h : ∀ g ∈ ms.head?, g.shown ≠ c) : after? (c :: cs) ms = none := by
  cases ms with
  | nil => rfl
  | cons g ms => rw [after?, if_neg (h g rfl)]

/-- What is shown behind blanks stands behind one of them. -/
theorem head?_dropBlanks {R : Glyph → Prop} {g : Glyph} {ms : Masked}
    (chain : (g :: ms).IsChain fun g h => isBlank g.shown = true → R h)
    (blank : isBlank g.shown = true) :
    ∀ h ∈ (dropBlanks (g :: ms)).head?, R h := by
  induction ms generalizing g with
  | nil => simp [dropBlanks, blank]
  | cons h ms ih =>
      have next : dropBlanks (g :: h :: ms) = dropBlanks (h :: ms) := by simp [dropBlanks, blank]
      obtain ⟨here, others⟩ := List.isChain_cons_cons.mp chain
      by_cases blank' : isBlank h.shown = true
      · rw [next]
        exact ih others blank'
      · have stays : dropBlanks (h :: ms) = h :: ms := by simp [dropBlanks, blank']
        rw [next, stays]
        rintro _ ⟨⟩
        exact here blank

/-! ## Separators of one character -/

section

variable {c : Char}

theorem words_singleton (g : Glyph) (ms : Masked) :
    Separator.words [[c]] (g :: ms) = if g.shown = c then 1 else 0 := by
  by_cases shown : g.shown = c <;> simp [Separator.words, after?, shown]

/-- The character is not shown anywhere in the text. -/
def Lacks (c : Char) (ms : Masked) : Prop := ∀ g ∈ ms, g.shown ≠ c

instance (ms : Masked) : Decidable (Lacks c ms) := inferInstanceAs (Decidable (∀ g ∈ ms, g.shown ≠ c))

theorem Lacks.free (h : Lacks c ms) (rest : Masked) : Free (.words [[c]]) ms rest := by
  intro us vs same nonempty
  cases vs with
  | nil => exact absurd rfl nonempty
  | cons g vs =>
      rw [List.cons_append, words_singleton, if_neg (h g (by simp [same]))]

theorem Lacks.append {as bs : Masked} (ha : Lacks c as) (hb : Lacks c bs) : Lacks c (as ++ bs) :=
  List.forall_mem_append.mpr ⟨ha, hb⟩

/-- Blanks do not show the character. -/
theorem lacks_blanks (filled : isBlank c = false) (visible : c ≠ '_') (p : Position)
    {cs : List Char} (h : Blanks cs) : Lacks c (maskFrom p cs) := by
  induction cs generalizing p with
  | nil => exact nofun
  | cons d cs ih =>
      rw [maskFrom_cons]
      refine List.forall_mem_cons.mpr ⟨?_, ih _ (blanks_cons.mp h).2⟩
      simp only [Glyph.shown]
      split
      · exact Ne.symm visible
      · rintro rfl
        rw [(blanks_cons.mp h).1] at filled
        cases filled

/-- Behind a text that does not show the separator the last part goes on. -/
theorem Cut.append_lacking {rest : Masked} (h : Cut (.words [[c]]) ms part parts)
    (lacks : Lacks c rest) :
    ∃ part' parts', Cut (.words [[c]]) (ms ++ rest) part' parts' ∧
      (part' = part ∨ part' = part ++ chars rest) ∧
      List.Forall₂ (fun p q => q.2 = p.2 ∨ q.2 = p.2 ++ chars rest) parts parts' := by
  induction h with
  | nil => exact ⟨_, _, Cut.of_free (lacks.free []), .inr rfl, .nil⟩
  | @char g ms part parts here _ ih =>
      obtain ⟨part', parts', cuts, first, others⟩ := ih
      rw [words_singleton] at here
      have goesOn : Separator.words [[c]] (g :: (ms ++ rest)) = 0 := by rw [words_singleton, here]
      refine ⟨_, _, .char goesOn cuts, ?_, others⟩
      exact first.imp (congrArg (g.char :: ·)) (congrArg (g.char :: ·))
  | @mark g ms n part parts here _ ih =>
      obtain ⟨part', parts', cuts, first, others⟩ := ih
      rw [words_singleton] at here
      have one : n = 0 := by
        split at here
        · omega
        · cases here
      subst one
      have mark : Separator.words [[c]] (g :: (ms ++ rest)) = 0 + 1 := by
        rw [words_singleton, here]
      exact ⟨_, _, .mark mark cuts, .inl rfl, .cons first others⟩

/-- Blanks around a text make no difference to its parts. -/
theorem split_trim (filled : isBlank c = false) (visible : c ≠ '_') (cs : List Char) :
    split (.words [[c]]) (trim cs) = split (.words [[c]]) cs := by
  obtain ⟨lead, trail, hlead, htrail, same⟩ := exists_padding cs
  obtain ⟨part, parts, cuts⟩ := exists_cut (.words [[c]]) (mask (trim cs))
  have lacks := lacks_blanks filled visible ((Position.inside 0).after (trim cs)) htrail
  obtain ⟨part', parts', cuts', first, others⟩ := cuts.append_lacking lacks
  have whole : mask cs = mask lead ++
      (mask (trim cs) ++ maskFrom ((Position.inside 0).after (trim cs)) trail) := by
    conv_lhs => rw [same, List.append_assoc, (Closed.blanks hlead).endsOutside.mask_append]
    rw [mask, mask, maskFrom_append]
    rfl
  have front := Cut.free_append ((lacks_blanks filled visible {} hlead).free _) cuts'
  rw [show maskFrom {} lead = mask lead from rfl, ← whole, chars_mask] at front
  rw [chars_maskFrom] at first others
  have trimmed : ∀ {p q : List Char}, q = p ∨ q = p ++ trail → trim p = trim q := by
    rintro p _ (rfl | rfl)
    · rfl
    · rw [trim_append_blanks _ htrail]
  have later : List.Forall₂ (· = ·) (parts.map fun p => trim p.2) (parts'.map fun p => trim p.2) := by
    rw [List.forall₂_map_left_iff, List.forall₂_map_right_iff]
    exact others.imp fun _ _ => trimmed
  rw [List.forall₂_eq_eq_eq] at later
  rw [split_of_cut cuts, split_of_cut front, trim_blanks_append hlead, trimmed first, later]

end

/-! ## Joined texts -/

/-- What stands between two parts: a separator with blanks around it. -/
structure Seam where
  before : List Char
  mark : List Char
  behind : List Char

def Seam.text (s : Seam) : List Char := s.before ++ s.mark ++ s.behind

/-- Between parts of the given form exactly the mark of the seam is taken as the separator. -/
structure Separates (separator : Separator) (good : List Char → Prop) (s : Seam) : Prop where
  before : Blanks s.before
  behind : Blanks s.behind
  nonempty : s.mark ≠ []
  closed : EndsOutside s.mark
  free : ∀ {lead p q : List Char}, Blanks lead → good p → good q → ∀ rest,
    Free separator (mask (lead ++ p ++ s.before)) (mask (s.mark ++ (s.behind ++ q)) ++ rest)
  here : ∀ {q : List Char}, good q → ∀ rest,
    separator (mask (s.mark ++ (s.behind ++ q)) ++ rest) = s.mark.length

variable {good : List Char → Prop}

/-- A text that is joined from parts is split into these parts. -/
theorem split_joined (outside : ∀ p, good p → EndsOutside p)
    (lone : ∀ lead p, Blanks lead → good p → Free separator (mask (lead ++ p)) [])
    {first : List Char} {others : List (Seam × List Char)} (hfirst : good first)
    (hothers : ∀ x ∈ others, Separates separator good x.1 ∧ good x.2) :
    split separator (first ++ others.flatMap fun x => x.1.text ++ x.2) =
      trim first :: others.map fun x => trim x.2 := by
  suffices h : ∀ lead, Blanks lead → ∃ part parts,
      Cut separator (mask (lead ++ first ++ others.flatMap fun x => x.1.text ++ x.2)) part parts ∧
        trim part = trim first ∧ (parts.map fun p => trim p.2) = others.map fun x => trim x.2 by
    obtain ⟨part, parts, cuts, h1, h2⟩ := h [] blanks_nil
    rw [List.nil_append] at cuts
    rw [split_of_cut cuts, h1, h2]
  intro lead blank
  -- The blanks behind a seam are the lead of the part that follows.
  induction others generalizing first lead with
  | nil =>
      have cuts := Cut.of_free (lone lead first blank hfirst)
      rw [chars_mask] at cuts
      refine ⟨_, _, by simpa using cuts, trim_blanks_append blank _, rfl⟩
  | cons x others ih =>
      obtain ⟨s, p⟩ := x
      obtain ⟨⟨seam, hp⟩, hothers⟩ := List.forall_mem_cons.mp hothers
      obtain ⟨part, parts, cuts, h1, h2⟩ := ih hp hothers s.behind seam.behind
      have front : EndsOutside (lead ++ first ++ s.before) :=
        ((Closed.blanks blank).endsOutside.append (outside _ hfirst)).append
          (Closed.blanks seam.before).endsOutside
      have next : EndsOutside (s.behind ++ p) :=
        (Closed.blanks seam.behind).endsOutside.append (outside _ hp)
      have masked : mask (s.mark ++ (s.behind ++ p)) ++ mask (others.flatMap fun x => x.1.text ++ x.2) =
          mask s.mark ++ mask (s.behind ++ p ++ others.flatMap fun x => x.1.text ++ x.2) := by
        rw [seam.closed.mask_append, List.append_assoc, next.mask_append]
      have here := seam.here hp (mask (others.flatMap fun x => x.1.text ++ x.2))
      have free := seam.free blank hfirst hp (mask (others.flatMap fun x => x.1.text ++ x.2))
      rw [masked] at here free
      have nonempty : mask s.mark ≠ [] := fun h => seam.nonempty (by rw [← chars_mask s.mark, h]; rfl)
      have whole := Cut.free_append free (Cut.mark_append nonempty (by rw [here, length_mask]) cuts)
      rw [← seam.closed.mask_append, ← front.mask_append, chars_mask, List.append_nil] at whole
      refine ⟨_, _, by simpa [Seam.text] using whole, ?_, ?_⟩
      · rw [← List.append_assoc, trim_append_blanks _ seam.before, trim_blanks_append blank]
      · rw [List.map_cons, List.map_cons, h1, h2]

/-- The parts that one character may separate: they end outside of quotes and brackets and do not
show it. -/
def Apart (c : Char) (p : List Char) : Prop := EndsOutside p ∧ Lacks c (mask p)

theorem Apart.append {c : Char} {as bs : List Char} (ha : Apart c as) (hb : Apart c bs) :
    Apart c (as ++ bs) := by
  refine ⟨ha.1.append hb.1, ?_⟩
  rw [ha.1.mask_append]
  exact Lacks.append ha.2 hb.2

theorem Apart.flatMap {α : Type} {c : Char} {f : α → List Char} {as : List α}
    (h : ∀ a ∈ as, Apart c (f a)) : Apart c (as.flatMap f) := by
  induction as with
  | nil => exact ⟨Closed.nil.endsOutside, nofun⟩
  | cons a as ih =>
      obtain ⟨ha, has⟩ := List.forall_mem_cons.mp h
      rw [List.flatMap_cons]
      exact ha.append (ih has)

theorem Apart.marked {c d : Char} (ordinary : isOrdinary d = true) (other : d ≠ c) :
    Apart c [d] := by
  refine ⟨(Closed.marked ordinary).endsOutside, ?_⟩
  rw [mask_ordinary (List.forall_mem_singleton.mpr ordinary)]
  exact List.forall_mem_singleton.mpr other

/-- A separator of one character, with blanks around it. -/
theorem separates_char {c : Char} (filled : isBlank c = false) (visible : c ≠ '_')
    (ordinary : isOrdinary c = true) {before behind : List Char} (hbefore : Blanks before)
    (hbehind : Blanks behind) : Separates (.words [[c]]) (Apart c) ⟨before, [c], behind⟩ where
  before := hbefore
  behind := hbehind
  nonempty := List.cons_ne_nil _ _
  closed := (Closed.marked ordinary).endsOutside
  free := by
    intro lead p q blank hp _ rest
    rw [((Closed.blanks blank).endsOutside.append hp.1).mask_append,
      (Closed.blanks blank).endsOutside.mask_append]
    exact (((lacks_blanks filled visible _ blank).append hp.2).append
      (lacks_blanks filled visible _ hbefore)).free _
  here := by
    intro q _ rest
    rw [(Closed.marked ordinary).endsOutside.mask_append,
      mask_ordinary (List.forall_mem_singleton.mpr ordinary)]
    exact (words_singleton _ _).trans (if_pos rfl)

theorem split_char_joined {c : Char} (filled : isBlank c = false) (visible : c ≠ '_')
    (ordinary : isOrdinary c = true) {before behind : List Char} (hbefore : Blanks before)
    (hbehind : Blanks behind) {first : List Char} {others : List (List Char)}
    (hfirst : Apart c first) (hothers : ∀ p ∈ others, Apart c p) :
    split (.words [[c]]) (first ++ others.flatMap fun p => before ++ c :: (behind ++ p)) =
      trim first :: others.map trim := by
  have lone : ∀ lead p, Blanks lead → Apart c p → Free (.words [[c]]) (mask (lead ++ p)) [] := by
    intro lead p blank hp
    rw [(Closed.blanks blank).endsOutside.mask_append]
    exact ((lacks_blanks filled visible _ blank).append hp.2).free _
  have parts : ∀ x ∈ others.map fun p => (Seam.mk before [c] behind, p),
      Separates (.words [[c]]) (Apart c) x.1 ∧ Apart c x.2 := by
    rintro x hx
    obtain ⟨p, hp, rfl⟩ := List.mem_map.mp hx
    exact ⟨separates_char filled visible ordinary hbefore hbehind, hothers p hp⟩
  have joined := split_joined (fun p hp => hp.1) lone hfirst parts
  simpa [List.flatMap_map, Seam.text, Function.comp_def] using joined

end TextTemplate.Masked
