import TextTemplate.Proofs.Expression.Splitting
import TextTemplate.Proofs.Text.Words

/-!
# Joining by words

A word between blanks separates parts in which it is not one of the words that are shown; a sign does so
for parts in which it is not shown. Blanks around the parts are hidden from the separators by trimming.
-/

namespace TextTemplate.Masked

open TextTemplate.Text

/-! ## What is shown -/

/-- What is shown of each character. -/
def look (ms : Masked) : List Char := ms.map Glyph.shown

@[simp] theorem look_append (as bs : Masked) : look (as ++ bs) = look as ++ look bs := List.map_append

theorem look_ne_nil {ms : Masked} (nonempty : ms ≠ []) : look ms ≠ [] := by
  intro none
  exact nonempty (List.map_eq_nil_iff.mp none)

theorem startsBlank_look_nil : StartsBlank (look []) := startsBlank_nil

theorem isBlank_shown {g : Glyph} (h : isBlank g.char = false) : isBlank g.shown = false := by
  rw [Glyph.shown]
  split
  · decide
  · exact h

theorem startsFilled_look {cs : List Char} (h : StartsFilled cs) : StartsFilled (look (mask cs)) := by
  rw [← chars_mask cs] at h
  intro c hc
  rw [look, List.head?_map] at hc
  obtain ⟨g, hg, rfl⟩ := Option.map_eq_some_iff.mp hc
  refine isBlank_shown (h g.char ?_)
  rw [chars, List.head?_map, hg]
  rfl

theorem endsFilled_look {cs : List Char} (h : EndsFilled cs) : EndsFilled (look (mask cs)) := by
  rw [← chars_mask cs] at h
  intro c hc
  rw [look, List.getLast?_map] at hc
  obtain ⟨g, hg, rfl⟩ := Option.map_eq_some_iff.mp hc
  refine isBlank_shown (h g.char ?_)
  rw [chars, List.getLast?_map, hg]
  rfl

theorem look_ordinary {cs : List Char} (h : ∀ c ∈ cs, isOrdinary c = true) : look (mask cs) = cs := by
  rw [mask_ordinary h, look, List.map_map]
  exact List.map_id cs

theorem after?_eq_some {word : List Char} {ms rest : Masked} (h : after? word ms = some rest) :
    ∃ mid, ms = mid ++ rest ∧ look mid = word := by
  induction word generalizing ms with
  | nil =>
      cases h
      exact ⟨[], rfl, rfl⟩
  | cons c word ih =>
      cases ms with
      | nil => cases h
      | cons g ms =>
          rw [after?] at h
          split at h
          · next shown =>
              obtain ⟨mid, rfl, same⟩ := ih h
              exact ⟨g :: mid, rfl, by rw [look, List.map_cons, shown, ← look, same]⟩
          · cases h

theorem after?_look (mid rest : Masked) : after? (look mid) (mid ++ rest) = some rest := by
  induction mid with
  | nil => rfl
  | cons g mid ih => rw [look, List.map_cons, List.cons_append, after?, if_pos rfl, ← look, ih]

/-- What is taken as a word in front of another text belongs to the first text, if the second starts
with a blank. -/
theorem exists_mid {word : List Char} (filled : ∀ c ∈ word, isBlank c = false) {ms rest behind : Masked}
    (follows : StartsBlank (look rest)) (h : after? word (ms ++ rest) = some behind) :
    ∃ mid tail, ms = mid ++ tail ∧ look mid = word ∧ behind = tail ++ rest := by
  obtain ⟨mid, whole, same⟩ := after?_eq_some h
  rcases List.append_eq_append_iff.mp whole with ⟨beyond, rfl, hrest⟩ | ⟨tail, rfl, rfl⟩
  · cases beyond with
    | nil => exact ⟨ms, [], by simp, by simpa using same, by simpa using hrest.symm⟩
    | cons g beyond =>
        subst hrest
        have blank := follows g.shown rfl
        have hword : g.shown ∈ word := by
          rw [← same, look_append]
          exact List.mem_append_right _ List.mem_cons_self
        rw [filled _ hword] at blank
        cases blank
  · exact ⟨mid, tail, rfl, same, rfl⟩

section

variable {word : List Char} (nonempty : word ≠ []) (filled : ∀ c ∈ word, isBlank c = false)
include nonempty filled

/-- A word that is not among the words of a text is not found in it behind a blank with a blank behind
it. -/
theorem after?_bind_afterBlanks? {front ms rest : Masked} (absent : word ∉ words (look (front ++ ms)))
    (before : EndsBlank (look front)) (follows : StartsBlank (look rest)) :
    (after? word (ms ++ rest)).bind afterBlanks? = none := by
  cases hafter : after? word (ms ++ rest) with
  | none => rfl
  | some behind =>
      obtain ⟨mid, tail, rfl, same, rfl⟩ := exists_mid filled follows hafter
      rw [Option.bind_some, afterBlanks?, if_neg]
      intro blank
      refine absent ?_
      rw [look_append, look_append, same]
      refine mem_words nonempty filled before ?_
      cases tail with
      | nil => exact nofun
      | cons g tail => exact startsBlank_cons.mpr blank

end

theorem endsFilled_look_right {us vs : Masked} (ends : EndsFilled (look (us ++ vs)))
    (nonempty : vs ≠ []) : EndsFilled (look vs) := by
  rwa [look_append, endsFilled_append (look_ne_nil nonempty)] at ends

theorem exists_blanks {ms rest : Masked} (h : afterBlanks? ms = some rest) :
    ∃ gap, gap ≠ [] ∧ ms = gap ++ rest ∧ Blanks (look gap) ∧ StartsFilled (look rest) := by
  rw [afterBlanks?] at h
  split at h
  · next starts =>
      cases h
      refine ⟨ms.takeWhile fun g => isBlank g.shown, ?_, List.takeWhile_append_dropWhile.symm, ?_, ?_⟩
      · cases ms with
        | nil => cases starts
        | cons g ms => simp [show isBlank g.shown = true from starts]
      · intro c hc
        obtain ⟨g, hg, rfl⟩ := List.mem_map.mp hc
        exact List.mem_takeWhile_imp (p := fun g : Glyph => isBlank g.shown) hg
      · intro c hc
        rw [look, List.head?_map] at hc
        obtain ⟨g, hg, rfl⟩ := Option.map_eq_some_iff.mp hc
        have filled := List.head?_dropWhile_not (fun g : Glyph => isBlank g.shown) ms
        rw [show ms.dropWhile (fun g => isBlank g.shown) = dropBlanks ms from rfl, hg] at filled
        simpa using filled
  · cases h

/-- Behind blanks inside of a text that ends with something else the text goes on. -/
theorem exists_gap {ms rest behind : Masked} (nonempty : ms ≠ []) (ends : EndsFilled (look ms))
    (h : afterBlanks? (ms ++ rest) = some behind) :
    ∃ gap tail, ms = gap ++ tail ∧ gap ≠ [] ∧ EndsBlank (look gap) ∧ tail ≠ [] ∧
      StartsFilled (look tail) ∧ behind = tail ++ rest := by
  have inside : ¬ Blanks (look ms) := ends.not_blanks (look_ne_nil nonempty)
  obtain ⟨gap, gap_ne, whole, blank, starts⟩ := exists_blanks h
  rcases List.append_eq_append_iff.mp whole with ⟨beyond, rfl, -⟩ | ⟨tail, rfl, rfl⟩
  · rw [look_append, blanks_append] at blank
    exact absurd blank.1 inside
  · cases tail with
    | nil =>
        rw [List.append_nil] at inside
        exact absurd blank inside
    | cons g tail =>
        refine ⟨gap, g :: tail, rfl, gap_ne, ?_, List.cons_ne_nil g tail, ?_, rfl⟩
        · intro c hc
          exact blank c (List.mem_of_mem_getLast? hc)
        · exact startsFilled_cons.mpr (startsFilled_cons.mp starts)

theorem afterBlanks?_append {gap ms : Masked} (nonempty : gap ≠ []) (blank : Blanks (look gap))
    (starts : StartsFilled (look ms)) : afterBlanks? (gap ++ ms) = some ms := by
  have blanks : ∀ g ∈ gap, isBlank g.shown = true := fun g hg => blank _ (List.mem_map_of_mem hg)
  have first : startsBlank (gap ++ ms) = true := by
    cases gap with
    | nil => exact absurd rfl nonempty
    | cons g gap => exact blanks g List.mem_cons_self
  have dropped : dropBlanks (gap ++ ms) = ms := by
    rw [dropBlanks, List.dropWhile_append_of_pos blanks]
    cases ms with
    | nil => rfl
    | cons g ms => exact List.dropWhile_cons_of_neg (by simpa [look] using starts)
  rw [afterBlanks?, if_pos first, dropped]

theorem afterBlanks?_eq_none {ms : Masked} (starts : StartsFilled (look ms)) :
    afterBlanks? ms = none := by
  rw [afterBlanks?, if_neg]
  cases ms with
  | nil => exact Bool.false_ne_true
  | cons g ms => simpa [startsBlank, look] using starts

theorem startsFilled_look_append {as bs : Masked} (nonempty : as ≠ []) (h : StartsFilled (look as)) :
    StartsFilled (look (as ++ bs)) := by
  cases as with
  | nil => exact absurd rfl nonempty
  | cons g as => exact h

theorem look_blanks {lead : List Char} (blank : Blanks lead) : look (mask lead) = lead :=
  look_ordinary fun c hc => isOrdinary_of_isBlank (blank c hc)

theorem mask_ne_nil {cs : List Char} (h : cs ≠ []) : mask cs ≠ [] := fun none =>
  h (by rw [← chars_mask cs, none]; rfl)

theorem mask_space_append (cs : List Char) : mask (' ' :: cs) = mask [' '] ++ mask cs :=
  (Closed.blanks blanks_space).endsOutside.mask_append cs

theorem startsBlank_look_space (ms : Masked) : StartsBlank (look (mask [' '] ++ ms)) :=
  startsBlank_cons.mpr (by decide)

theorem afterBlanks?_space {ms : Masked} (starts : StartsFilled (look ms)) :
    afterBlanks? (mask [' '] ++ ms) = some ms := by
  have blank : Blanks (look (mask [' '])) := by
    rw [look_blanks blanks_space]
    exact blanks_space
  exact afterBlanks?_append (mask_ne_nil (List.cons_ne_nil _ _)) blank starts

theorem after?_mask {word : List Char} (ordinary : ∀ c ∈ word, isOrdinary c = true) (rest : Masked) :
    after? word (mask word ++ rest) = some rest := by
  have found := after?_look (mask word) rest
  rwa [look_ordinary ordinary] at found

theorem startsFilled_mask_append {cs : List Char} (nonempty : cs ≠ []) (h : StartsFilled cs)
    (rest : Masked) : StartsFilled (look (mask cs ++ rest)) :=
  startsFilled_look_append (mask_ne_nil nonempty) (startsFilled_look h)

/-- What does not contain a character is found on one side of it. -/
theorem infix_append_cons {sign as bs : List Char} {c : Char} (other : c ∉ sign)
    (h : sign <:+: as ++ c :: bs) : sign <:+: as ∨ sign <:+: bs := by
  obtain ⟨front, behind, whole⟩ := h
  rw [List.append_assoc] at whole
  rcases List.append_eq_append_iff.mp whole with ⟨gap, rfl, hgap⟩ | ⟨gap, rfl, hgap⟩
  · rcases List.append_eq_append_iff.mp hgap with ⟨rest, rfl, -⟩ | ⟨rest, rfl, hrest⟩
    · exact .inl ⟨front, rest, by simp⟩
    · cases rest with
      | nil => exact .inl ⟨front, [], by simp⟩
      | cons d rest =>
          cases hrest
          exact absurd (List.mem_append_right _ List.mem_cons_self) other
  · cases gap with
    | nil =>
        cases sign with
        | nil => exact .inl List.nil_infix
        | cons d sign =>
            cases hgap
            exact absurd List.mem_cons_self other
    | cons d gap =>
        cases hgap
        exact .inr ⟨gap, behind, by simp⟩

/-! ## Parts that are joined -/

/-- A text that ends outside of quotes and brackets, has no blanks around it and shows neither the word
nor the sign. -/
structure Sealed (word sign p : List Char) : Prop where
  outside : EndsOutside p
  nonempty : p ≠ []
  starts : StartsFilled p
  ends : EndsFilled p
  word : word ∉ words (look (mask p))
  sign : ¬ sign <:+: look (mask p)

/-- A word and a sign that have the same meaning between two parts. -/
structure Joints (word sign : List Char) : Prop where
  word_ne : word ≠ []
  word_filled : ∀ c ∈ word, isBlank c = false
  word_ordinary : ∀ c ∈ word, isOrdinary c = true
  sign_ne : sign ≠ []
  sign_filled : ∀ c ∈ sign, isBlank c = false
  sign_ordinary : ∀ c ∈ sign, isOrdinary c = true
  apart : ∀ c ∈ word.head?, c ∉ sign.head?

section

variable {word sign : List Char} (joints : Joints word sign)
include joints

theorem Sealed.lead {lead p : List Char} (blank : Blanks lead) (h : Sealed word sign p) :
    word ∉ words (look (mask (lead ++ p))) ∧ ¬ sign <:+: look (mask (lead ++ p)) := by
  rw [(Closed.blanks blank).endsOutside.mask_append, look_append, look_blanks blank]
  induction lead with
  | nil => exact ⟨h.word, h.sign⟩
  | cons c lead ih =>
      obtain ⟨hc, hlead⟩ := blanks_cons.mp blank
      obtain ⟨hword, hsign⟩ := ih hlead
      have other : c ∉ sign := fun hc' => by
        rw [joints.sign_filled c hc'] at hc
        cases hc
      rw [List.cons_append, words_blank hc]
      refine ⟨hword, fun found => ?_⟩
      have apart : sign <:+: [] ++ c :: (lead ++ look (mask p)) := found
      rcases infix_append_cons other apart with nothing | found
      · exact joints.sign_ne (List.infix_nil.mp nothing)
      · exact hsign found

/-- No separator starts in a sealed text with blanks in front of it, if a blank follows. -/
theorem Sealed.free {lead p : List Char} (blank : Blanks lead) (h : Sealed word sign p) {rest : Masked}
    (follows : StartsBlank (look rest)) : Free (.wordOrSign word sign) (mask (lead ++ p)) rest := by
  obtain ⟨noWord, noSign⟩ := h.lead joints blank
  have ends : EndsFilled (lead ++ p) := (endsFilled_append h.nonempty).mpr h.ends
  intro us vs same nonempty
  rw [same] at noWord noSign
  have last : EndsFilled (look vs) := endsFilled_look_right (same ▸ endsFilled_look ends) nonempty
  have word? : ((afterBlanks? (vs ++ rest)).bind fun ms => (after? word ms).bind afterBlanks?) =
      none := by
    cases hafter : afterBlanks? (vs ++ rest) with
    | none => rfl
    | some behind =>
        obtain ⟨gap, tail, rfl, hgap, blank, -, -, rfl⟩ := exists_gap nonempty last hafter
        rw [← List.append_assoc] at noWord
        refine after?_bind_afterBlanks? joints.word_ne joints.word_filled noWord ?_ follows
        rw [look_append]
        exact blank.append (look_ne_nil hgap)
  have sign? : after? sign (vs ++ rest) = none := by
    cases hafter : after? sign (vs ++ rest) with
    | none => rfl
    | some behind =>
        obtain ⟨mid, tail, rfl, same, -⟩ := exists_mid joints.sign_filled follows hafter
        refine absurd ?_ noSign
        rw [look_append, look_append, same]
        exact ⟨look us, look tail, by simp⟩
  rw [Separator.wordOrSign, word?, sign?]
  rfl

theorem separates_word :
    Separates (.wordOrSign word sign) (Sealed word sign) ⟨[], ' ' :: (word ++ [' ']), []⟩ where
  before := blanks_nil
  behind := blanks_nil
  nonempty := List.cons_ne_nil _ _
  closed := by
    have space := Closed.blanks blanks_space
    exact (space.append ((Closed.ordinary joints.word_ordinary).append space)).endsOutside
  free := by
    intro lead p q blank hp _ rest
    rw [List.append_nil]
    exact hp.free joints blank (startsBlank_cons.mpr (by decide))
  here := by
    intro q hq rest
    have word_outside : EndsOutside word := (Closed.ordinary joints.word_ordinary).endsOutside
    have whole : mask (' ' :: (word ++ [' ']) ++ ([] ++ q)) ++ rest =
        mask [' '] ++ (mask word ++ (mask [' '] ++ (mask q ++ rest))) := by
      rw [show ' ' :: (word ++ [' ']) ++ ([] ++ q) = ' ' :: (word ++ ' ' :: q) by simp,
        mask_space_append (word ++ ' ' :: q), word_outside.mask_append, mask_space_append q]
      simp only [List.append_assoc]
    have word_starts : StartsFilled word := fun c hc =>
      joints.word_filled c (List.mem_of_mem_head? hc)
    rw [whole, Separator.wordOrSign,
      afterBlanks?_space (startsFilled_mask_append joints.word_ne word_starts _), Option.bind_some,
      after?_mask joints.word_ordinary, Option.bind_some,
      afterBlanks?_space (startsFilled_mask_append hq.nonempty hq.starts rest)]
    simp only [List.length_append, List.length_cons, List.length_nil, length_mask]
    omega

/-- The blank in front of a sign does not belong to it. -/
theorem wordOrSign_space (ms : Masked) :
    Separator.wordOrSign word sign (mask [' '] ++ (mask sign ++ ms)) = 0 := by
  have shown : mask sign = sign.map (Glyph.mk · false) := mask_ordinary joints.sign_ordinary
  obtain ⟨d, ds, hsign⟩ := List.exists_cons_of_ne_nil joints.sign_ne
  have starts : StartsFilled sign := fun c hc => joints.sign_filled c (List.mem_of_mem_head? hc)
  have other_word : after? word (mask sign ++ ms) = none := by
    obtain ⟨c, cs, hword⟩ := List.exists_cons_of_ne_nil joints.word_ne
    have apart : d ≠ c := by
      have apart := joints.apart c (by rw [hword]; rfl)
      rw [hsign] at apart
      rintro rfl
      exact apart rfl
    rw [hword, shown, hsign]
    exact after?_eq_none cs (by rintro _ ⟨⟩; exact apart)
  have other_sign : after? sign (mask [' '] ++ (mask sign ++ ms)) = none := by
    have filled : isBlank d = false := joints.sign_filled d (by rw [hsign]; exact List.mem_cons_self)
    rw [hsign]
    refine after?_eq_none ds ?_
    rintro _ ⟨⟩ same
    rw [← show Glyph.shown ⟨' ', false⟩ = d from same] at filled
    revert filled
    decide
  rw [Separator.wordOrSign, afterBlanks?_space (startsFilled_mask_append joints.sign_ne starts _),
    Option.bind_some, other_word, Option.bind_none, other_sign]
  rfl

theorem separates_sign :
    Separates (.wordOrSign word sign) (Sealed word sign) ⟨[' '], sign, [' ']⟩ where
  before := blanks_space
  behind := blanks_space
  nonempty := joints.sign_ne
  closed := (Closed.ordinary joints.sign_ordinary).endsOutside
  free := by
    intro lead p q blank hp _ rest
    have outside : EndsOutside (lead ++ p) := (Closed.blanks blank).endsOutside.append hp.outside
    have sign_outside : EndsOutside sign := (Closed.ordinary joints.sign_ordinary).endsOutside
    rw [outside.mask_append]
    refine .append (hp.free joints blank ?_) ?_
    · rw [look_append, look_blanks blanks_space]
      exact startsBlank_cons.mpr (by decide)
    · intro us vs same nonempty
      obtain ⟨rfl, rfl⟩ : us = [] ∧ vs = mask [' '] := by
        rcases List.singleton_eq_append_iff.mp same with h | ⟨-, h⟩
        · exact ⟨h.1, h.2⟩
        · exact absurd h nonempty
      rw [sign_outside.mask_append, List.append_assoc]
      exact wordOrSign_space joints _
  here := by
    intro q hq rest
    have sign_outside : EndsOutside sign := (Closed.ordinary joints.sign_ordinary).endsOutside
    have sign_starts : StartsFilled sign := fun c hc =>
      joints.sign_filled c (List.mem_of_mem_head? hc)
    rw [sign_outside.mask_append, List.append_assoc, Separator.wordOrSign,
      afterBlanks?_eq_none (startsFilled_mask_append joints.sign_ne sign_starts _), Option.bind_none,
      after?_mask joints.sign_ordinary]
    rfl

end

/-! ## Printed lists -/

section

variable {word sign p q : List Char}

theorem Sealed.spaced (hsign : ' ' ∉ sign) (hp : Sealed word sign p) (hq : Sealed word sign q) :
    Sealed word sign (p ++ ' ' :: q) := by
  have masked : look (mask (p ++ ' ' :: q)) = look (mask p) ++ ' ' :: look (mask q) := by
    rw [hp.outside.mask_append, mask_space_append q, look_append, look_append, look_blanks blanks_space]
    rfl
  refine ⟨hp.outside.append ((Closed.blanks blanks_space).endsOutside.append hq.outside),
    List.append_ne_nil_of_left_ne_nil hp.nonempty _, ?_, ?_, ?_, ?_⟩
  · obtain ⟨c, cs, rfl⟩ := List.exists_cons_of_ne_nil hp.nonempty
    exact hp.starts
  · rw [List.append_cons, endsFilled_append hq.nonempty]
    exact hq.ends
  · have blank : isBlank ' ' = true := by decide
    rw [masked, words_append _ (startsBlank_cons.mpr blank), words_blank blank, List.mem_append]
    exact not_or.mpr ⟨hp.word, hq.word⟩
  · rw [masked]
    exact fun found => (infix_append_cons hsign found).elim hp.sign hq.sign

/-- Another word or sign is sealed. -/
theorem Sealed.plain (nonempty : p ≠ []) (filled : ∀ c ∈ p, isBlank c = false)
    (ordinary : ∀ c ∈ p, isOrdinary c = true) (other : word ≠ p) (apart : ∃ c ∈ sign, c ∉ p) :
    Sealed word sign p where
  outside := (Closed.ordinary ordinary).endsOutside
  nonempty := nonempty
  starts c hc := filled c (List.mem_of_mem_head? hc)
  ends c hc := filled c (List.mem_of_mem_getLast? hc)
  word := by
    rw [look_ordinary ordinary, words_word nonempty filled, List.mem_singleton]
    exact other
  sign shown := by
    obtain ⟨c, hc, other⟩ := apart
    rw [look_ordinary ordinary] at shown
    exact other (shown.subset hc)

end

/-- At least one member, and with each of the others whether the word or the sign stands in front of
it. -/
structure Chain (α : Type) where
  first : α
  others : List (Bool × α)

namespace Chain

variable {α : Type}

def items (chain : Chain α) : List α := chain.first :: chain.others.map Prod.snd

/-- The texts of the members with the words and signs between them. -/
def print (word sign : List Char) (text : α → List Char) (chain : Chain α) : List Char :=
  text chain.first ++ chain.others.flatMap fun (inWords, a) =>
    ' ' :: ((if inWords then word else sign) ++ ' ' :: text a)

variable {text : α → List Char} {chain : Chain α}

theorem split_print {word sign : List Char} (joints : Joints word sign)
    (h : ∀ a ∈ chain.items, Sealed word sign (text a)) :
    split (.wordOrSign word sign) (chain.print word sign text) = chain.items.map text := by
  have trimmed : ∀ a ∈ chain.items, trim (text a) = text a := fun a ha =>
    trim_eq_self (h a ha).starts (h a ha).ends
  obtain ⟨hfirst, hothers⟩ := List.forall_mem_cons.mp h
  let seam : Bool → Seam := fun inWords =>
    if inWords then ⟨[], ' ' :: (word ++ [' ']), []⟩ else ⟨[' '], sign, [' ']⟩
  have separates : ∀ inWords, Separates (.wordOrSign word sign) (Sealed word sign) (seam inWords) := by
    intro inWords
    cases inWords with
    | true => exact separates_word joints
    | false => exact separates_sign joints
  have seams : ∀ inWords a, (seam inWords).text ++ text a =
      ' ' :: ((if inWords then word else sign) ++ ' ' :: text a) := by
    intro inWords a
    cases inWords <;> simp [seam, Seam.text]
  have outside : ∀ p, Sealed word sign p → EndsOutside p := fun p hp => hp.outside
  have lone : ∀ lead p, Blanks lead → Sealed word sign p →
      Free (.wordOrSign word sign) (mask (lead ++ p)) [] :=
    fun lead p blank hp => hp.free joints blank startsBlank_nil
  have parts : ∀ x ∈ chain.others.map fun x => (seam x.1, text x.2),
      Separates (.wordOrSign word sign) (Sealed word sign) x.1 ∧ Sealed word sign x.2 := by
    rw [List.forall_mem_map] at hothers ⊢
    exact fun x hx => ⟨separates x.1, hothers x hx⟩
  have joined := split_joined outside lone hfirst parts
  rw [List.flatMap_map, List.map_map] at joined
  simp only [seams] at joined
  calc split (.wordOrSign word sign) (chain.print word sign text)
      = chain.items.map fun a => trim (text a) := by
        rw [items, List.map_cons, List.map_map]
        exact joined
    _ = chain.items.map text := List.map_congr_left trimmed

/-- What is joined from sealed texts is sealed, if the word and the sign between them are. -/
theorem sealed_print {word sign word' sign' : List Char} (hsign : ' ' ∉ sign')
    (hword : Sealed word' sign' word) (hmark : Sealed word' sign' sign)
    (h : ∀ a ∈ chain.items, Sealed word' sign' (text a)) :
    Sealed word' sign' (chain.print word sign text) := by
  obtain ⟨first, others⟩ := chain
  obtain ⟨hfirst, hothers⟩ := List.forall_mem_cons.mp h
  rw [List.forall_mem_map] at hothers
  rw [print]
  dsimp only at hfirst hothers ⊢
  generalize text first = front at hfirst
  clear h
  induction others generalizing front with
  | nil => rwa [List.flatMap_nil, List.append_nil]
  | cons x others ih =>
      obtain ⟨hx, hothers⟩ := List.forall_mem_cons.mp hothers
      have mark : Sealed word' sign' (if x.1 then word else sign) := by
        split
        · exact hword
        · exact hmark
      rw [List.flatMap_cons, ← List.append_assoc]
      exact ih hothers _ (hfirst.spaced hsign (mark.spaced hsign hx))

end Chain

end TextTemplate.Masked
