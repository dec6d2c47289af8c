import TextTemplate.Proofs.Token.TagMatch

/-!
# The layout of a source

A source is laid out from left to right: texts in which no tag starts, tags, and tags that yield no
token. `Layout` says so as a relation between a source and its tokens, without a scanner, a fuel or
pending characters. Every source has exactly one list of tokens in this sense, and it is the one that
the scanner gives (`Delimiters.tokens_layout`).
-/

namespace TextTemplate

open TextTemplate.Text

theorem trim_eq_nil_iff {cs : List Char} : trim cs = [] ↔ ∀ c ∈ cs, isBlank c := by
  have reversed : ∀ cs : List Char, trimEnd cs = [] ↔ ∀ c ∈ cs, isBlank c := by
    intro cs
    simp [trimEnd, List.dropWhile_eq_nil_iff]
  rw [trim, reversed, trimStart]
  constructor
  · intro behind c hc
    rw [← List.takeWhile_append_dropWhile (p := isBlank) (l := cs), List.mem_append] at hc
    exact hc.elim List.mem_takeWhile_imp (behind c)
  · exact fun all c hc => all c ((List.dropWhile_suffix isBlank).subset hc)

theorem byteLength_pos {cs : List Char} (h : cs ≠ []) : 0 < byteLength cs :=
  Nat.lt_of_lt_of_le (List.length_pos_iff.mpr h) (length_le_byteLength cs)

@[simp] theorem byteLength_reverse (cs : List Char) : byteLength cs.reverse = byteLength cs := by
  induction cs with
  | nil => rfl
  | cons c cs ih =>
      rw [List.reverse_cons, byteLength_append, ih, byteLength_cons, byteLength_cons, byteLength_nil]
      omega

/-- The characters of a tag, delimiters included. -/
def DelimiterPair.raw (p : DelimiterPair) (inside : List Char) : List Char :=
  p.start ++ inside ++ p.stop

theorem DelimiterPair.byteLength_raw (p : DelimiterPair) (inside : List Char) :
    byteLength (p.raw inside) = p.tagLength inside := by
  simp only [raw, byteLength_append, tagLength]

theorem DelimiterPair.Encloses.eq_raw {p : DelimiterPair} {cs inside rest : List Char}
    (h : p.Encloses cs inside rest) : cs = p.raw inside ++ rest := h.text

namespace Delimiters

variable (d : Delimiters)

/-- No pair starts inside of the text and ends anywhere behind its start, be it behind the text. -/
def Plain (text rest : List Char) : Prop :=
  ∀ before behind, text = before ++ behind → behind ≠ [] →
    ∀ kind, ¬ (d.pair kind).Stands (behind ++ rest)

/-- The tag of the winning pair at the start of a text. -/
structure TagAt (kind : TagKind) (cs inside rest : List Char) : Prop where
  wins : d.Wins kind cs
  encloses : (d.pair kind).Encloses cs inside rest

/-- Comments and tags with nothing but blanks inside yield no token. -/
def Blank (kind : TagKind) (inside : List Char) : Prop :=
  kind = .comment ∨ ∀ c ∈ inside, isBlank c

/-- The tokens of a source whose first byte is at `offset`. -/
inductive Layout : Nat → List Char → List Token → Prop
  | nil (offset : Nat) : Layout offset [] []
  | text {offset : Nat} {text rest : List Char} {tokens : List Token} (nonempty : text ≠ [])
      (plain : d.Plain text rest) (ends : rest = [] ∨ ∃ kind, (d.pair kind).Stands rest)
      (behind : Layout (offset + byteLength text) rest tokens) :
      Layout offset (text ++ rest) (⟨.text, text, ⟨offset, offset + byteLength text⟩⟩ :: tokens)
  | tag {offset : Nat} {kind : TagKind} {cs inside rest : List Char} {tokenKind : TokenKind}
      {tokens : List Token} (tag : d.TagAt kind cs inside rest) (filled : ¬ Blank kind inside)
      (yields : kind.token? = some tokenKind)
      (behind : Layout (offset + (d.pair kind).tagLength inside) rest tokens) :
      Layout offset cs
        (⟨tokenKind, trim inside, ⟨offset, offset + (d.pair kind).tagLength inside⟩⟩ :: tokens)
  | blank {offset : Nat} {kind : TagKind} {cs inside rest : List Char} {tokens : List Token}
      (tag : d.TagAt kind cs inside rest) (blank : Blank kind inside)
      (behind : Layout (offset + (d.pair kind).tagLength inside) rest tokens) :
      Layout offset cs tokens

variable {d} {offset : Nat} {cs : List Char} {tokens : List Token}

/-! ## One layout only -/

theorem TagAt.unique {kind kind' : TagKind} {inside rest inside' rest' : List Char}
    (h : d.TagAt kind cs inside rest) (h' : d.TagAt kind' cs inside' rest') :
    kind = kind' ∧ inside = inside' ∧ rest = rest' := by
  obtain rfl := h.wins.unique h'.wins
  exact ⟨rfl, h.encloses.unique h'.encloses⟩

theorem TagAt.ne_nil {kind : TagKind} {inside rest : List Char} (h : d.TagAt kind cs inside rest) :
    cs ≠ [] :=
  List.ne_nil_of_length_pos (Nat.zero_lt_of_lt h.encloses.length_lt)

theorem Plain.nil (d : Delimiters) (rest : List Char) : d.Plain [] rest :=
  fun _ _ same nonempty => absurd (List.append_eq_nil_iff.mp same.symm).2 nonempty

theorem Plain.not_tagAt {text rest inside rest' : List Char} {kind : TagKind}
    (h : d.Plain text rest) (nonempty : text ≠ []) : ¬ d.TagAt kind (text ++ rest) inside rest' :=
  fun tag => h [] text rfl nonempty kind tag.wins.stands

/-- A text goes on up to the next tag. -/
theorem Plain.prefix_unique {text rest text' rest' : List Char} (plain' : d.Plain text' rest')
    (ends : rest = [] ∨ ∃ kind, (d.pair kind).Stands rest) {extra : List Char}
    (htext : text' = text ++ extra) (hrest : rest = extra ++ rest') : extra = [] := by
  by_contra more
  rcases ends with rfl | ⟨kind, stands⟩
  · exact more (List.append_eq_nil_iff.mp hrest.symm).1
  · rw [hrest] at stands
    exact plain' text extra htext more kind stands

theorem Plain.unique {text rest text' rest' : List Char} (plain : d.Plain text rest)
    (plain' : d.Plain text' rest') (ends : rest = [] ∨ ∃ kind, (d.pair kind).Stands rest)
    (ends' : rest' = [] ∨ ∃ kind, (d.pair kind).Stands rest') (same : text ++ rest = text' ++ rest') :
    text = text' ∧ rest = rest' := by
  rcases List.append_eq_append_iff.mp same with ⟨extra, htext, hrest⟩ | ⟨extra, htext, hrest⟩
  · obtain rfl := plain'.prefix_unique ends htext hrest
    simp [htext, hrest]
  · obtain rfl := plain.prefix_unique ends' htext hrest
    simp [htext, hrest]

/-- A source has no two lists of tokens. -/
theorem Layout.unique (h : d.Layout offset cs tokens) {tokens' : List Token}
    (h' : d.Layout offset cs tokens') : tokens = tokens' := by
  induction h generalizing tokens' with
  | nil offset =>
      generalize hcs : ([] : List Char) = cs at h'
      cases h' with
      | nil => rfl
      | text nonempty => exact absurd (List.append_eq_nil_iff.mp hcs.symm).1 nonempty
      | tag tag => exact absurd hcs.symm tag.ne_nil
      | blank tag => exact absurd hcs.symm tag.ne_nil
  | @text offset text rest tokens nonempty plain ends _ ih =>
      generalize hcs : text ++ rest = cs at h'
      cases h' with
      | nil => exact absurd (List.append_eq_nil_iff.mp hcs).1 nonempty
      | text _ plain' ends' behind' =>
          obtain ⟨rfl, rfl⟩ := plain.unique plain' ends ends' hcs
          rw [ih behind']
      | tag tag => exact absurd (hcs ▸ tag) (plain.not_tagAt nonempty)
      | blank tag => exact absurd (hcs ▸ tag) (plain.not_tagAt nonempty)
  | @tag offset kind cs inside rest tokenKind tokens tag filled yields _ ih =>
      cases h' with
      | nil => exact absurd rfl tag.ne_nil
      | text nonempty plain => exact absurd tag (plain.not_tagAt nonempty)
      | tag tag' _ yields' behind' =>
          obtain ⟨rfl, rfl, rfl⟩ := tag.unique tag'
          rw [ih behind', Option.some.inj (yields.symm.trans yields')]
      | blank tag' blank =>
          obtain ⟨rfl, rfl, rfl⟩ := tag.unique tag'
          exact absurd blank filled
  | @blank offset kind cs inside rest tokens tag blank _ ih =>
      cases h' with
      | nil => exact absurd rfl tag.ne_nil
      | text nonempty plain => exact absurd tag (plain.not_tagAt nonempty)
      | tag tag' filled =>
          obtain ⟨rfl, rfl, rfl⟩ := tag.unique tag'
          exact absurd blank filled
      | blank tag' _ behind' =>
          obtain ⟨rfl, rfl, rfl⟩ := tag.unique tag'
          exact ih behind'

/-! ## The scanner -/

theorem Layout.ofText {text rest : List Char} (plain : d.Plain text rest)
    (ends : rest = [] ∨ ∃ kind, (d.pair kind).Stands rest)
    (behind : d.Layout (offset + byteLength text) rest tokens) :
    d.Layout offset (text ++ rest) (Token.ofText offset text.reverse ++ tokens) := by
  unfold Token.ofText
  by_cases empty : text = []
  · simpa [empty] using behind
  · simpa [empty] using Layout.text empty plain ends behind

theorem Layout.ofTag {kind : TagKind} {inside rest : List Char} (tag : d.TagAt kind cs inside rest)
    (behind : d.Layout (offset + (d.pair kind).tagLength inside) rest tokens) :
    d.Layout offset cs
      (Token.ofTag offset ⟨kind, inside, (d.pair kind).tagLength inside, rest⟩ ++ tokens) := by
  unfold Token.ofTag
  split
  · next tokenKind c content yields filled =>
    rw [← filled]
    refine .tag tag ?_ yields behind
    rintro (rfl | blank)
    · cases yields
    · rw [trim_eq_nil_iff.mpr blank] at filled
      cases filled
  · next none =>
    refine .blank tag ?_ behind
    cases hkind : kind.token? with
    | none => exact .inl (by cases kind <;> first | rfl | cases hkind)
    | some tokenKind =>
        cases hinside : trim inside with
        | nil => exact .inr (trim_eq_nil_iff.mp hinside)
        | cons c content => exact absurd hinside (none tokenKind c content hkind)

/-- A character where no tag starts belongs to the text. -/
theorem Plain.concat {text rest : List Char} {c : Char} (plain : d.Plain text (c :: rest))
    (here : ∀ kind, ¬ (d.pair kind).Stands (c :: rest)) : d.Plain (text ++ [c]) rest := by
  intro before behind same nonempty kind
  obtain ⟨behind, last, rfl⟩ := (List.eq_nil_or_concat behind).resolve_left nonempty
  rw [List.concat_eq_append, ← List.append_assoc] at same
  obtain ⟨htext, hlast⟩ := List.append_inj' same rfl
  obtain rfl := (List.cons_eq_cons.mp hlast).1
  rw [List.concat_eq_append, List.append_assoc, List.singleton_append]
  by_cases empty : behind = []
  · simpa [empty] using here kind
  · exact plain before behind htext empty kind

/-- The induction is on the fuel; the pending characters are a text in which no tag starts. -/
theorem layout_scan {fuel : Nat} {pending : List Char} (hfuel : cs.length ≤ fuel)
    (plain : d.Plain pending.reverse cs) (hoffset : byteLength pending ≤ offset) :
    d.Layout (offset - byteLength pending) (pending.reverse ++ cs)
      (Token.scan d.ordered fuel offset pending cs) := by
  -- The pending characters become a text as soon as the source ends or a tag starts.
  have text : ∀ {offset : Nat} {pending rest : List Char} {tokens : List Token},
      d.Plain pending.reverse rest → (rest = [] ∨ ∃ kind, (d.pair kind).Stands rest) →
      byteLength pending ≤ offset → d.Layout offset rest tokens →
      d.Layout (offset - byteLength pending) (pending.reverse ++ rest)
        (Token.ofText (offset - byteLength pending) pending ++ tokens) := by
    intro offset pending rest tokens plain ends hoffset behind
    have behind : d.Layout (offset - byteLength pending + byteLength pending.reverse) rest tokens := by
      rwa [byteLength_reverse, Nat.sub_add_cancel hoffset]
    simpa only [List.reverse_reverse] using Layout.ofText plain ends behind
  induction fuel generalizing offset pending cs with
  | zero =>
      obtain rfl := List.length_eq_zero_iff.mp (Nat.le_zero.mp hfuel)
      simpa [Token.scan] using text plain (.inl rfl) hoffset (.nil offset)
  | succ fuel ih =>
      cases cs with
      | nil => simpa [Token.scan] using text plain (.inl rfl) hoffset (.nil offset)
      | cons c cs =>
          rw [Token.scan]
          cases htag : Token.tag? d.ordered (c :: cs) with
          | none =>
              -- No tag starts here: the character joins the pending ones.
              have plainer : d.Plain (c :: pending).reverse cs := by
                simpa using plain.concat (tag?_eq_none.mp htag)
              have offset_le : byteLength (c :: pending) ≤ offset + c.utf8Size := by
                rw [byteLength_cons]
                omega
              have later := ih (Nat.le_of_succ_le_succ hfuel) plainer offset_le
              rwa [byteLength_cons, Nat.add_comm c.utf8Size, Nat.add_sub_add_right, List.reverse_cons,
                List.append_assoc, List.singleton_append] at later
          | some t =>
              -- The text ends here, and the scan goes on behind the tag with nothing pending.
              obtain ⟨kind, inside, rest, wins, encloses, rfl⟩ := tag?_eq_some.mp htag
              have shorter : rest.length ≤ fuel := by
                have := encloses.length_lt
                omega
              have later : d.Layout (offset + (d.pair kind).tagLength inside) rest
                  (Token.scan d.ordered fuel (offset + (d.pair kind).tagLength inside) [] rest) :=
                ih shorter (show d.Plain ([] : List Char).reverse rest from .nil d rest) (Nat.zero_le _)
              exact text plain (.inr ⟨kind, wins.stands⟩) hoffset (.ofTag ⟨wins, encloses⟩ later)

theorem layout_tokens (d : Delimiters) (source : List Char) : d.Layout 0 source (d.tokens source) := by
  have laid : d.Layout (0 - byteLength []) (([] : List Char).reverse ++ source)
      (Token.scan d.ordered source.length 0 [] source) :=
    layout_scan (Nat.le_refl _) (Plain.nil d source) (Nat.zero_le _)
  exact laid

/-! ## Spans and gaps -/

variable (d)

/-- A text token: its content is what stands at its span, and no tag starts inside of it. -/
structure IsText (source : List Char) (t : Token) : Prop where
  nonempty : t.content ≠ []
  placed : ∃ before behind, source = before ++ t.content ++ behind ∧
    t.span = ⟨byteLength before, byteLength (before ++ t.content)⟩ ∧ d.Plain t.content behind

/-- A tag token: a tag of the winning pair stands at its span, and its content is the trimmed inside. -/
structure IsTag (source : List Char) (t : Token) : Prop where
  nonempty : t.content ≠ []
  placed : ∃ before kind inside rest, source = before ++ ((d.pair kind).raw inside ++ rest) ∧
    t.span = ⟨byteLength before, byteLength (before ++ (d.pair kind).raw inside)⟩ ∧
    d.TagAt kind ((d.pair kind).raw inside ++ rest) inside rest ∧
    kind.token? = some t.kind ∧ t.content = trim inside

/-- A gap in front of the text `behind` that is made of whole tags without a token. -/
inductive Gap : List Char → List Char → Prop
  | nil (behind : List Char) : Gap [] behind
  | cons {kind : TagKind} {inside rest behind : List Char}
      (tag : d.TagAt kind ((d.pair kind).raw inside ++ (rest ++ behind)) inside (rest ++ behind))
      (blank : Blank kind inside) (more : Gap rest behind) :
      Gap ((d.pair kind).raw inside ++ rest) behind

/-- Where the gap behind these tokens begins, if the source begins at `offset`. -/
def gapStart (offset : Nat) (front : List Token) : Nat :=
  (front.getLast?.map (·.span.stop)).getD offset

/-- Where the gap in front of these tokens ends, if the source ends at `stop`. -/
def gapStop (stop : Nat) (back : List Token) : Nat :=
  (back.head?.map (·.span.start)).getD stop

/-- The tokens of the rest of a source: they lie in it one behind the other, the gaps around them
hold tags without a token only, and each of them is a text or a tag. -/
structure Covers (before cs : List Char) (tokens : List Token) : Prop where
  spans : ∀ t ∈ tokens, byteLength before ≤ t.span.start ∧ t.span.start < t.span.stop ∧
    t.span.stop ≤ byteLength (before ++ cs)
  increasing : tokens.Pairwise fun t u => t.span.stop ≤ u.span.start
  gaps : ∀ front back, tokens = front ++ back → ∃ inner gap behind, cs = inner ++ gap ++ behind ∧
    byteLength (before ++ inner) = gapStart (byteLength before) front ∧
    byteLength (before ++ inner ++ gap) = gapStop (byteLength (before ++ cs)) back ∧ d.Gap gap behind
  texts : ∀ t ∈ tokens, t.kind = .text → d.IsText (before ++ cs) t
  tags : ∀ t ∈ tokens, t.kind ≠ .text → d.IsTag (before ++ cs) t

variable {d} {before : List Char}

theorem Covers.nil (d : Delimiters) (before : List Char) : d.Covers before [] [] where
  spans := by simp
  increasing := .nil
  gaps front back same := by
    obtain ⟨rfl, rfl⟩ := List.append_eq_nil_iff.mp same.symm
    exact ⟨[], [], [], rfl, by simp [gapStart], by simp [gapStop], .nil []⟩
  texts := by simp
  tags := by simp

/-- A token in front of the others. -/
theorem Covers.cons {piece rest : List Char} (h : d.Covers (before ++ piece) rest tokens) {t : Token}
    (span : t.span = ⟨byteLength before, byteLength (before ++ piece)⟩) (nonempty : piece ≠ [])
    (text : t.kind = .text → d.IsText (before ++ (piece ++ rest)) t)
    (tag : t.kind ≠ .text → d.IsTag (before ++ (piece ++ rest)) t) :
    d.Covers before (piece ++ rest) (t :: tokens) := by
  have source : before ++ piece ++ rest = before ++ (piece ++ rest) := List.append_assoc ..
  have positive : byteLength before < byteLength (before ++ piece) := by
    rw [byteLength_append]
    have := byteLength_pos nonempty
    omega
  refine ⟨?_, ?_, ?_, ?_, ?_⟩
  · intro u hu
    rcases List.mem_cons.mp hu with rfl | hu
    · rw [span, ← source]
      refine ⟨Nat.le_refl _, positive, ?_⟩
      rw [byteLength_append (before ++ piece)]
      exact Nat.le_add_right ..
    · obtain ⟨low, inside, high⟩ := h.spans u hu
      exact ⟨Nat.le_trans (Nat.le_of_lt positive) low, inside, source ▸ high⟩
  · refine List.pairwise_cons.mpr ⟨fun u hu => ?_, h.increasing⟩
    rw [span]
    exact (h.spans u hu).1
  · intro front back same
    cases front with
    | nil =>
        -- Nothing stands between the start and the new token.
        obtain rfl : t :: tokens = back := same
        refine ⟨[], [], piece ++ rest, rfl, ?_, ?_, .nil _⟩
        · simp [gapStart]
        · simp [gapStop, span]
    | cons u front =>
        -- The gaps behind the new token are those of the others, seen from further in front.
        obtain ⟨rfl, rest_same⟩ := List.cons_eq_cons.mp same
        obtain ⟨inner, gap, behind, hrest, start, stop, hgap⟩ := h.gaps front back rest_same
        refine ⟨piece ++ inner, gap, behind, by rw [hrest]; simp only [List.append_assoc], ?_, ?_, hgap⟩
        · rw [← List.append_assoc, start]
          cases front <;> simp [gapStart, span, List.getLast?_cons]
        · rw [← List.append_assoc, stop, source]
  · intro u hu kind
    rcases List.mem_cons.mp hu with rfl | hu
    · exact text kind
    · exact source ▸ h.texts u hu kind
  · intro u hu kind
    rcases List.mem_cons.mp hu with rfl | hu
    · exact tag kind
    · exact source ▸ h.tags u hu kind

/-- A tag without a token in front of the tokens makes the first gap longer. -/
theorem Covers.blank {kind : TagKind} {inside rest : List Char}
    (h : d.Covers (before ++ (d.pair kind).raw inside) rest tokens)
    (tag : d.TagAt kind ((d.pair kind).raw inside ++ rest) inside rest) (blank : Blank kind inside) :
    d.Covers before ((d.pair kind).raw inside ++ rest) tokens := by
  have source : before ++ (d.pair kind).raw inside ++ rest =
      before ++ ((d.pair kind).raw inside ++ rest) := List.append_assoc ..
  refine ⟨?_, h.increasing, ?_, source ▸ h.texts, source ▸ h.tags⟩
  · intro t ht
    obtain ⟨low, inner, high⟩ := h.spans t ht
    rw [byteLength_append] at low
    exact ⟨by omega, inner, source ▸ high⟩
  · intro front back same
    obtain ⟨inner, gap, behind, hrest, start, stop, hgap⟩ := h.gaps front back same
    cases front with
    | nil =>
        -- The gap begins where the tag does: nothing stands between the tag and the old gap.
        obtain rfl : inner = [] := by
          have empty : byteLength inner = 0 := by
            rw [byteLength_append (before ++ _)] at start
            simp only [gapStart, List.getLast?_nil, Option.map_none, Option.getD_none] at start
            omega
          by_contra nonempty
          exact Nat.ne_of_gt (byteLength_pos nonempty) empty
        obtain rfl : rest = gap ++ behind := hrest
        refine ⟨[], (d.pair kind).raw inside ++ gap, behind, by simp, ?_, ?_, .cons tag blank hgap⟩
        · simp [gapStart]
        · rw [← source, ← stop]
          simp only [List.append_nil, List.append_assoc]
    | cons u front =>
        refine ⟨(d.pair kind).raw inside ++ inner, gap, behind, ?_, ?_, ?_, hgap⟩
        · rw [hrest]
          simp only [List.append_assoc]
        · rw [← List.append_assoc, start]
          simp [gapStart, List.getLast?_cons]
        · rw [← List.append_assoc, stop, source]

/-- A layout covers its source; the induction is on the layout, with all that stands in front. -/
theorem Layout.covers (h : d.Layout offset cs tokens) (hoffset : offset = byteLength before) :
    d.Covers before cs tokens := by
  induction h generalizing before with
  | nil offset => exact .nil d before
  | @text offset text rest tokens nonempty plain ends _ ih =>
      have stop : offset + byteLength text = byteLength (before ++ text) := by
        rw [hoffset, byteLength_append]
      have span : (⟨offset, offset + byteLength text⟩ : Span) =
          ⟨byteLength before, byteLength (before ++ text)⟩ := by
        rw [stop, hoffset]
      refine (ih stop).cons span nonempty (fun _ => ⟨nonempty, before, rest, ?_, span, plain⟩) ?_
      · exact (List.append_assoc ..).symm
      · exact fun kind => absurd rfl kind
  | @tag offset kind cs inside rest tokenKind tokens tag filled yields _ ih =>
      obtain rfl := tag.encloses.eq_raw
      have stop : offset + (d.pair kind).tagLength inside =
          byteLength (before ++ (d.pair kind).raw inside) := by
        rw [hoffset, byteLength_append, DelimiterPair.byteLength_raw]
      have span : (⟨offset, offset + (d.pair kind).tagLength inside⟩ : Span) =
          ⟨byteLength before, byteLength (before ++ (d.pair kind).raw inside)⟩ := by
        rw [stop, hoffset]
      have nonempty : (d.pair kind).raw inside ≠ [] := by
        simp [DelimiterPair.raw, (d.pair kind).start_ne_nil]
      have content : trim inside ≠ [] := fun empty => filled (.inr (trim_eq_nil_iff.mp empty))
      refine (ih stop).cons span nonempty (fun text => ?_) fun _ =>
        ⟨content, before, kind, inside, rest, rfl, span, tag, yields, rfl⟩
      rw [show tokenKind = .text from text] at yields
      cases kind <;> cases yields
  | @blank offset kind cs inside rest tokens tag blank _ ih =>
      obtain rfl := tag.encloses.eq_raw
      have stop : offset + (d.pair kind).tagLength inside =
          byteLength (before ++ (d.pair kind).raw inside) := by
        rw [hoffset, byteLength_append, DelimiterPair.byteLength_raw]
      exact (ih stop).blank tag blank

/-- The tokens of a source are its only layout, for all delimiters: texts without a tag, and tags of
the winning pairs up to their first end. Their spans are not empty, lie in the source one behind the
other, and nothing but comments and blank tags stands between and around them. -/
theorem tokens_layout (d : Delimiters) (source : List Char) :
    (∀ tokens, d.Layout 0 source tokens ↔ tokens = d.tokens source) ∧
      d.Covers [] source (d.tokens source) := by
  have laid := layout_tokens d source
  refine ⟨fun tokens => ⟨fun other => other.unique laid, ?_⟩, laid.covers rfl⟩
  rintro rfl
  exact laid

end Delimiters

end TextTemplate
