import TextTemplate.Proofs.Expression.Offsets

/-!
# Splitting by slices

To split a text, the separators are found in what is shown of it, and the text itself is sliced at their
offsets. The slices hold for every separator that is read off the glyphs as its pattern is found in what
they show (`Marks`), and what they cut out is what the separator cuts (`Marks.slices`).
-/

namespace TextTemplate.Masked

open TextTemplate.Text Pattern

/-! ## Separators and their patterns -/

/-- The pattern is found where the separator stands, and takes the same part of the text. -/
structure Marks (p : Pattern) (separator : Separator) : Prop where
  fill : p.Avoids '_'
  nothing : separator [] = 0
  absent : ∀ (front : Masked) {ms : Masked}, separator ms = 0 → p.at? (placeBehind front ms) = none
  present : ∀ (front : Masked) {ms : Masked} {n : Nat}, separator ms = n + 1 →
    p.at? (placeBehind front ms) = some ⟨spanOf front (ms.take (n + 1)), []⟩

/-- A separator that is one of the given words. -/
def wordsPattern (ws : List (List Char)) : Pattern := anyOf (ws.map word)

/-- A separator that is a word between blanks, or the given sign. -/
def wordOrSignPattern (w sign : List Char) : Pattern :=
  either (sequence [blanks, word w, blanks]) (word sign)

theorem at?_word {w : List Char} (plain : '_' ∉ w) (front rest : Masked) {mid : Masked}
    (same : look mid = w) :
    (word w).at? (placeBehind front (mid ++ rest)) = some ⟨spanOf front mid, []⟩ := by
  rw [at?, run_word plain same]
  rfl

theorem length_of_look {mid : Masked} {w : List Char} (same : look mid = w) : mid.length = w.length := by
  rw [← same, look, List.length_map]

theorem marks_words {ws : List (List Char)} (plain : ∀ w ∈ ws, w ≠ [] ∧ '_' ∉ w) :
    Marks (wordsPattern ws) (.words ws) where
  fill := by
    refine avoids_anyOf fun p hp => ?_
    obtain ⟨w, hw, rfl⟩ := List.mem_map.mp hp
    exact avoids_word (plain w hw).1 (plain w hw).2
  nothing := by
    have absent : ws.find? (fun w => (after? w []).isSome) = none := by
      refine List.find?_eq_none.mpr fun w hw => ?_
      obtain ⟨c, cs, rfl⟩ := List.exists_cons_of_ne_nil (plain w hw).1
      exact Bool.false_ne_true
    rw [Separator.words, absent]
  absent := by
    intro front ms zero
    rw [at?, wordsPattern, run_anyOf, List.findSome?_eq_none_iff]
    intro p hp
    obtain ⟨w, hw, rfl⟩ := List.mem_map.mp hp
    refine run_word_eq_none (plain w hw).2 ?_
    rw [Separator.words] at zero
    split at zero
    · next v found =>
        exact absurd (List.eq_nil_of_length_eq_zero zero) (plain v (List.mem_of_find?_eq_some found)).1
    · next missing => simpa using List.find?_eq_none.mp missing w hw
  present := by
    intro front ms n marked
    rw [Separator.words] at marked
    split at marked
    · next w found =>
        obtain ⟨fits, us, vs, rfl, before⟩ := List.find?_eq_some_iff_append.mp found
        obtain ⟨rest, after⟩ := Option.isSome_iff_exists.mp fits
        obtain ⟨mid, rfl, same⟩ := after?_eq_some after
        have taken : (mid ++ rest).take (n + 1) = mid :=
          List.take_left' ((length_of_look same).trans marked)
        have here := at?_word (plain w (by simp)).2 front rest same
        rw [at?, wordsPattern, run_anyOf, taken]
        refine List.findSome?_eq_some_iff.mpr
          ⟨us.map word, word w, vs.map word, by simp, here, fun p hp => ?_⟩
        obtain ⟨v, hv, rfl⟩ := List.mem_map.mp hp
        exact run_word_eq_none (plain v (by simp [hv])).2 (by simpa using before v hv)
    · cases marked

section

variable {w sign : List Char} (word_ne : w ≠ []) (word_plain : '_' ∉ w)
  (word_filled : ∀ c ∈ w, isBlank c = false)
include word_ne word_plain word_filled

/-- Blanks, the word and blanks again are what the pattern takes. -/
theorem run_spaced (next : Next) (groups : List (Nat × Span)) (front ms : Masked) :
    match (afterBlanks? ms).bind fun ms => (after? w ms).bind afterBlanks? with
    | some rest => (∀ here groups, (next here groups).isSome = true) →
      ∃ mark, mark ≠ [] ∧ ms = mark ++ rest ∧
        (sequence [blanks, word w, blanks]).run next (placeBehind front ms) groups =
          next (placeBehind (front ++ mark) rest) groups
    | none => (sequence [blanks, word w, blanks]).run next (placeBehind front ms) groups = none := by
  cases first : afterBlanks? ms with
  | none => exact run_blanks_absent first
  | some behind =>
      obtain ⟨gap, gap_ne, rfl, blank, starts⟩ := exists_blanks first
      have lead : blanks.run ((word w).run (blanks.run next)) (placeBehind front (gap ++ behind)) groups =
          (word w).run (blanks.run next) (placeBehind (front ++ gap) behind) groups :=
        run_blanks_before (avoids_blank_word word_ne word_filled) gap_ne blank starts
      rw [Option.bind_some]
      cases middle : after? w behind with
      | none => exact lead.trans (run_word_eq_none word_plain middle)
      | some behind =>
          obtain ⟨mid, rfl, same⟩ := after?_eq_some middle
          have further := lead.trans (run_word word_plain same)
          rw [Option.bind_some]
          cases last : afterBlanks? behind with
          | none => exact further.trans (run_blanks_absent last)
          | some rest =>
              intro goesOn
              obtain ⟨gap', gap_ne', rfl, blank', starts'⟩ := exists_blanks last
              have trail := further.trans (run_blanks_gap gap_ne' blank' starts' (.inl (goesOn _ _)))
              have there : front ++ (gap ++ (mid ++ gap')) = front ++ gap ++ mid ++ gap' := by
                simp only [List.append_assoc]
              refine ⟨gap ++ (mid ++ gap'), by simp [gap_ne], by simp, ?_⟩
              rw [there]
              exact trail

theorem marks_wordOrSign (sign_ne : sign ≠ []) (sign_plain : '_' ∉ sign) :
    Marks (wordOrSignPattern w sign) (.wordOrSign w sign) where
  fill := ⟨avoids_blanks, avoids_word sign_ne sign_plain⟩
  nothing := by
    obtain ⟨c, cs, rfl⟩ := List.exists_cons_of_ne_nil sign_ne
    rfl
  absent := by
    intro front ms zero
    have spaced := run_spaced word_ne word_plain word_filled (finish (size front)) [] front ms
    rw [Separator.wordOrSign] at zero
    split at zero
    · next rest found =>
        rw [found] at spaced
        obtain ⟨mark, nonempty, rfl, -⟩ := spaced fun _ _ => rfl
        have := List.length_pos_iff.mpr nonempty
        rw [List.length_append] at zero
        omega
    · next missing =>
        rw [missing] at spaced
        have noSign : after? sign ms = none := by
          refine Option.eq_none_iff_forall_ne_some.mpr fun rest here => sign_ne ?_
          rw [here] at zero
          exact List.eq_nil_of_length_eq_zero zero
        rw [at?, wordOrSignPattern, run_either]
        exact (congrArg (Option.or · _) spaced).trans (run_word_eq_none sign_plain noSign)
  present := by
    intro front ms n marked
    have spaced := run_spaced word_ne word_plain word_filled (finish (size front)) [] front ms
    rw [at?, wordOrSignPattern, run_either]
    rw [Separator.wordOrSign] at marked
    split at marked
    · next rest found =>
        rw [found] at spaced
        obtain ⟨mark, nonempty, rfl, run⟩ := spaced fun _ _ => rfl
        have taken : (mark ++ rest).take (n + 1) = mark := by
          rw [← marked, List.length_append, Nat.add_sub_cancel]
          exact List.take_left
        rw [taken]
        exact congrArg (Option.or · _) run
    · next missing =>
        rw [missing] at spaced
        split at marked
        · next here =>
            obtain ⟨rest, after⟩ := Option.isSome_iff_exists.mp here
            obtain ⟨mid, rfl, same⟩ := after?_eq_some after
            have taken : (mid ++ rest).take (n + 1) = mid :=
              List.take_left' ((length_of_look same).trans marked)
            rw [taken]
            exact (congrArg (Option.or · _) spaced).trans (at?_word sign_plain front rest same)
        · cases marked

end

/-! ## All separators of a text -/

/-- A text from its parts: the one in front, and marks with the parts behind them. -/
def joined (part : List Char) (parts : List (List Char × List Char)) : List Char :=
  part ++ parts.flatMap fun p => p.1 ++ p.2

theorem append_joined_cons (front part mark next : List Char) (parts : List (List Char × List Char)) :
    front ++ joined part ((mark, next) :: parts) = front ++ part ++ mark ++ joined next parts := by
  simp [joined]

/-- Where the marks of a text stand that starts at the offset. -/
def spans (i : Nat) (part : List Char) : List (List Char × List Char) → List Span
  | [] => []
  | (mark, next) :: parts =>
    ⟨i + byteLength part, i + byteLength part + byteLength mark⟩ ::
      spans (i + byteLength part + byteLength mark) next parts

theorem spans_cons (i : Nat) (c : Char) (part : List Char) (parts : List (List Char × List Char)) :
    spans i (c :: part) parts = spans (i + c.utf8Size) part parts := by
  cases parts with
  | nil => rfl
  | cons p parts => simp only [spans, byteLength_cons, Nat.add_assoc]

theorem Cut.chars_joined {separator : Separator} {ms : Masked} {part : List Char}
    {parts : List (List Char × List Char)} (cuts : Cut separator ms part parts) :
    chars ms = joined part parts := by
  induction cuts with
  | nil => rfl
  | char _ _ ih => exact congrArg (_ :: ·) ih
  | @mark g ms n part parts _ _ ih =>
      have whole : chars ms = chars (ms.take n) ++ chars (ms.drop n) := by
        rw [← chars_append, List.take_append_drop]
      show g.char :: chars ms = _
      rw [whole, ih]
      simp [joined]

section

variable {p : Pattern} {separator : Separator} (marks : Marks p separator)
include marks

theorem Marks.at?_fill (i : Nat) (rest : List Char) : p.at? ⟨i, '_' :: rest⟩ = none :=
  run_of_avoids marks.fill _ _ _ _

/-- Inside of a hidden character no separator is found. -/
theorem Marks.findAllFrom_replicate (resume n i : Nat) (rest : List Char) :
    p.findAllFrom resume i (List.replicate n '_' ++ rest) = p.findAllFrom resume (i + n) rest := by
  induction n generalizing i with
  | zero => rfl
  | succ n ih =>
      rw [List.replicate_succ, List.cons_append, findAllFrom, marks.at?_fill, ite_self]
      dsimp only
      rw [show '_'.utf8Size = 1 from rfl, ih, Nat.add_assoc, Nat.add_comm 1 n]

theorem Marks.findAllFrom_glyph {front ms : Masked} {g : Glyph} (resume : Nat)
    (absent : separator (g :: ms) = 0) :
    p.findAllFrom resume (size front) (shown (g :: ms)) =
      p.findAllFrom resume (size (front ++ [g])) (shown ms) := by
  have further : size (front ++ [g]) = size front + g.char.utf8Size := size_append front [g]
  by_cases hidden : g.hidden = true
  · rw [shown_cons, shownOf, if_pos hidden, marks.findAllFrom_replicate, further]
  · have here := marks.absent front absent
    have visible := shown_visible_cons (Bool.eq_false_iff.mpr hidden) ms
    rw [placeBehind, visible] at here
    rw [visible, findAllFrom, here, ite_self, further]

theorem Marks.visible {ms : Masked} {g : Glyph} {n : Nat} (present : separator (g :: ms) = n + 1) :
    g.hidden = false := by
  refine Bool.eq_false_iff.mpr fun hidden => ?_
  have found := marks.present [] present
  rw [at?, run_hidden marks.fill hidden] at found
  cases found

/-- The search goes on behind a separator that it finds. -/
theorem Marks.findAllFrom_present {front ms : Masked} {g : Glyph} {n resume : Nat}
    (early : resume ≤ size front) (present : separator (g :: ms) = n + 1) :
    p.findAllFrom resume (size front) (shown (g :: ms)) =
      spanOf front (g :: ms.take n) ::
        p.findAllFrom (size (front ++ g :: ms.take n)) (size (front ++ g :: ms.take n))
          (shown (ms.drop n)) := by
  have found := marks.present front present
  have visible := shown_visible_cons (marks.visible present) ms
  have whole : shown ms = shown (ms.take n) ++ shown (ms.drop n) := by
    rw [← shown_append, List.take_append_drop]
  have stop : size front + g.char.utf8Size + byteLength (shown (ms.take n)) =
      size (front ++ g :: ms.take n) := by
    rw [byteLength_shown, size_append, Nat.add_assoc]
    rfl
  rw [placeBehind, visible, List.take_succ_cons] at found
  rw [visible, findAllFrom, if_pos early, found, whole]
  show _ :: p.findAllFrom (size (front ++ g :: ms.take n)) _ _ = _
  rw [findAllFrom_skip _ _ _ stop.le, stop]

/-- What is found in what is shown are the separators of the text, with their offsets in it. -/
theorem Marks.findAllFrom_of_cut {ms : Masked} {part : List Char}
    {parts : List (List Char × List Char)} (cuts : Cut separator ms part parts) (front : Masked)
    {resume : Nat} (early : resume ≤ size front) :
    p.findAllFrom resume (size front) (shown ms) = spans (size front) part parts := by
  induction cuts generalizing front resume with
  | nil =>
      have none := marks.absent front marks.nothing
      rw [placeBehind] at none
      show (Option.toList (if resume ≤ size front then p.at? ⟨size front, shown []⟩ else .none)).map
        Captures.whole = []
      rw [none, ite_self]
      rfl
  | @char g ms part parts here _ ih =>
      have further : size (front ++ [g]) = size front + g.char.utf8Size := size_append front [g]
      rw [marks.findAllFrom_glyph resume here, ih _ (by omega), further, spans_cons]
  | @mark g ms n part parts here _ ih =>
      rw [marks.findAllFrom_present early here, ih _ (Nat.le_refl _), spanOf, size_append]
      rfl

end

/-! ## Slices at the separators -/

/-- The parts of a text from an offset on, sliced at the offsets of the marks between them. -/
def pieces? (cs : List Char) (start : Nat) :
    List Span → Option (List Char × List (List Char × List Char))
  | [] => (slice? cs start (byteLength cs)).map fun part => (part, [])
  | s :: spans => do
    let part ← slice? cs start s.start
    let mark ← slice? cs s.start s.stop
    let (next, parts) ← pieces? cs s.stop spans
    return (part, (mark, next) :: parts)

theorem pieces?_spans (front part : List Char) (parts : List (List Char × List Char)) :
    pieces? (front ++ joined part parts) (byteLength front) (spans (byteLength front) part parts) =
      some (part, parts) := by
  induction parts generalizing front part with
  | nil =>
      have whole := slice?_append front part []
      rw [List.append_nil] at whole
      rw [joined, List.flatMap_nil, List.append_nil, spans, pieces?, whole]
      rfl
  | cons p parts ih =>
      obtain ⟨mark, next⟩ := p
      have first := slice?_append front part (mark ++ joined next parts)
      have second := slice?_append (front ++ part) mark (joined next parts)
      have others := ih (front ++ part ++ mark) next
      rw [← List.append_assoc] at first
      simp only [byteLength_append] at first second others
      rw [append_joined_cons, spans, pieces?]
      dsimp only
      rw [first, second, others]
      rfl

theorem le_of_mem_spans {i j : Nat} {part : List Char} {parts : List (List Char × List Char)}
    (h : j ∈ (spans i part parts).flatMap Span.offsets) : i ≤ j := by
  induction parts generalizing i part with
  | nil => cases h
  | cons p parts ih =>
      rw [spans, List.flatMap_cons, List.mem_append] at h
      rcases h with here | later
      · rcases Span.mem_offsets.mp here with rfl | rfl
        · exact Nat.le_add_right _ _
        · exact Nat.le_add_right_of_le (Nat.le_add_right _ _)
      · have := ih later
        omega

theorem inOrder_spans (front part : List Char) (parts : List (List Char × List Char)) :
    InOrder (front ++ joined part parts)
      ((spans (byteLength front) part parts).flatMap Span.offsets) := by
  induction parts generalizing front part with
  | nil => exact ⟨.nil, nofun⟩
  | cons p parts ih =>
      obtain ⟨mark, next⟩ := p
      have others := ih (front ++ part ++ mark) next
      have start := isBoundary_append (front ++ part) (mark ++ joined next parts)
      have stop := isBoundary_append (front ++ part ++ mark) (joined next parts)
      rw [← List.append_assoc] at start
      simp only [byteLength_append] at start stop others
      rw [append_joined_cons, spans, List.flatMap_cons]
      constructor
      · refine List.pairwise_append.mpr ⟨?_, others.ordered, ?_⟩
        · simp [Span.offsets]
        · intro i here j later
          have behind := le_of_mem_spans later
          rcases Span.mem_offsets.mp here with rfl | rfl
          · exact (Nat.le_add_right _ _).trans behind
          · exact behind
      · intro i hi
        rcases List.mem_append.mp hi with here | later
        · rcases Span.mem_offsets.mp here with rfl | rfl
          · exact start
          · exact stop
        · exact others.boundaries i later

/-- The parts of a text between the separators that the pattern finds, trimmed. -/
def splitSliced? (p : Pattern) (cs : List Char) : Option (List (List Char)) :=
  (pieces? cs 0 (p.findAll (shown (mask cs)))).map fun (first, others) =>
    trim first :: others.map fun (_, part) => trim part

/-- The trimmed parts of a text with the separators that the pattern finds between them. -/
def splitKeepSliced? (p : Pattern) (cs : List Char) : Option (List (List Char)) :=
  (pieces? cs 0 (p.findAll (shown (mask cs)))).map fun (first, others) =>
    trim first :: others.flatMap fun (mark, part) => [mark, trim part]

/-- The offsets of the separators hold in the text, and cut it into the parts that are split. -/
theorem Marks.slices {p : Pattern} {separator : Separator} (marks : Marks p separator)
    (cs : List Char) :
    InOrder cs ((p.findAll (shown (mask cs))).flatMap Span.offsets) ∧
      ∃ first others, pieces? cs 0 (p.findAll (shown (mask cs))) = some (first, others) ∧
        cs = joined first others ∧
        split separator cs = trim first :: others.map (fun x => trim x.2) ∧
        splitKeep separator cs = trim first :: others.flatMap fun x => [x.1, trim x.2] := by
  obtain ⟨part, parts, cuts⟩ := exists_cut separator (mask cs)
  have found : p.findAll (shown (mask cs)) = spans 0 part parts :=
    marks.findAllFrom_of_cut cuts [] (Nat.le_refl _)
  have whole := cuts.chars_joined
  rw [chars_mask] at whole
  have inOrder := inOrder_spans [] part parts
  have pieces := pieces?_spans [] part parts
  rw [List.nil_append, ← whole] at inOrder pieces
  rw [found]
  exact ⟨inOrder, part, parts, pieces, whole, split_of_cut cuts, splitKeep_of_cut cuts⟩

theorem Marks.splitSliced? {p : Pattern} {separator : Separator} (marks : Marks p separator)
    (cs : List Char) : splitSliced? p cs = some (split separator cs) := by
  obtain ⟨-, first, others, pieces, -, parts, -⟩ := marks.slices cs
  rw [Masked.splitSliced?, pieces, parts]
  rfl

theorem Marks.splitKeepSliced? {p : Pattern} {separator : Separator} (marks : Marks p separator)
    (cs : List Char) : splitKeepSliced? p cs = some (splitKeep separator cs) := by
  obtain ⟨-, first, others, pieces, -, -, parts⟩ := marks.slices cs
  rw [Masked.splitKeepSliced?, pieces, parts]
  rfl

end TextTemplate.Masked
