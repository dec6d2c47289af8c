import TextTemplate.Error.Picture
import TextTemplate.Proofs.Token.Layout

/-!
# Where the carets stand

The picture of an error finds its line by running through the lines of the source with a byte
offset. Here the place is a part of the source between what stands before and what stands behind
it, and the line is what reaches from the line feed in front of the place to the line feed behind
it. For every token of a source both say the same, and every offset at which the picture cuts a
text lies between two characters of it (`Error.picture_points`).
-/

namespace TextTemplate

open TextTemplate.Text

/-! ## Offsets between characters -/

/-- The offset lies in the text, and not inside of a character. -/
def IsBoundary (cs : List Char) (offset : Nat) : Prop :=
  ∃ before behind, cs = before ++ behind ∧ offset = byteLength before

/-- Where the search for a column cuts a line, it cuts between two characters. -/
def CutsBetween : List (List Char) → Nat → Prop
  | [], _ => True
  | line :: lines, offset =>
    if offset < byteLength line + 1 then IsBoundary line offset
    else CutsBetween lines (offset - (byteLength line + 1))

/-! ## Lines -/

/-- What stands in front of the end of a text on its last line. -/
def lineStart (before : List Char) : List Char := before.rtakeWhile (· ≠ '\n')

/-- What stands in front of the first line feed. -/
def lineRest (behind : List Char) : List Char := behind.takeWhile (· ≠ '\n')

theorem sourceLines_feed {line : List Char} (plain : '\n' ∉ line) (rest : List Char) :
    sourceLines (line ++ '\n' :: rest) = line :: sourceLines rest := by
  induction line with
  | nil => simp [sourceLines]
  | cons c line ih =>
      obtain ⟨hc, hline⟩ := not_or.mp (List.mem_cons.not.mp plain)
      rw [List.cons_append, sourceLines, if_neg (Ne.symm hc), ih hline]

theorem sourceLines_last {line : List Char} (plain : '\n' ∉ line) (nonempty : line ≠ []) :
    sourceLines line = [line] := by
  induction line with
  | nil => exact (nonempty rfl).elim
  | cons c line ih =>
      obtain ⟨hc, hline⟩ := not_or.mp (List.mem_cons.not.mp plain)
      rw [sourceLines, if_neg (Ne.symm hc)]
      cases line with
      | nil => rfl
      | cons d line => rw [ih hline (List.cons_ne_nil d line)]

/-- The first line of a text that goes on. -/
theorem exists_sourceLines {line behind : List Char} (plain : '\n' ∉ line) (goes : behind ≠ []) :
    ∃ lines, sourceLines (line ++ behind) = (line ++ lineRest behind) :: lines := by
  have before : '\n' ∉ line ++ lineRest behind := by
    rw [List.mem_append, not_or]
    refine ⟨plain, fun found => ?_⟩
    simpa using List.mem_takeWhile_imp found
  have parts : lineRest behind ++ behind.dropWhile (· ≠ '\n') = behind :=
    List.takeWhile_append_dropWhile
  cases hrest : behind.dropWhile (· ≠ '\n') with
  | nil =>
      rw [hrest, List.append_nil] at parts
      rw [parts] at before ⊢
      exact ⟨[], sourceLines_last before (by simp [goes])⟩
  | cons c rest =>
      have feed : c = '\n' := by
        have stops := List.head?_dropWhile_not (· ≠ '\n') behind
        rw [hrest] at stops
        simpa using stops
      subst feed
      rw [hrest] at parts
      refine ⟨sourceLines rest, ?_⟩
      rw [← sourceLines_feed before rest, List.append_assoc, parts]

/-! ## Finding a place -/

/-- The offset leads to the line with this number, behind the characters `start` of it. -/
structure LeadsTo (lines : List (List Char)) (offset number : Nat) (start rest : List Char) :
    Prop where
  column : lineColumn lines offset = (number, width start)
  line : lines[number]? = some (start ++ rest)
  cut : CutsBetween lines offset

theorem LeadsTo.first (start rest : List Char) (lines : List (List Char)) :
    LeadsTo ((start ++ rest) :: lines) (byteLength start) 0 start rest := by
  have inside : byteLength start < byteLength (start ++ rest) + 1 := by
    rw [byteLength_append]
    omega
  refine ⟨?_, rfl, ?_⟩
  · rw [lineColumn]
    simp only [if_pos inside, splitBytes_byteLength]
  · rw [CutsBetween, if_pos inside]
    exact ⟨start, rest, rfl, rfl⟩

/-- One more line in front. -/
theorem LeadsTo.below {lines : List (List Char)} {offset number : Nat} {start rest : List Char}
    (h : LeadsTo lines offset number start rest) (line : List Char) :
    LeadsTo (line :: lines) (byteLength line + 1 + offset) (number + 1) start rest := by
  have behind : ¬ byteLength line + 1 + offset < byteLength line + 1 := by omega
  have nonempty : lines.isEmpty = false := by
    cases lines with
    | nil => cases h.line
    | cons => rfl
  refine ⟨?_, h.line, ?_⟩
  · rw [lineColumn]
    simp only [if_neg behind, nonempty, Nat.add_sub_cancel_left, h.column, Bool.false_eq_true,
      if_false]
  · rw [CutsBetween, if_neg behind, Nat.add_sub_cancel_left]
    exact h.cut

theorem lineStart_of_plain {line : List Char} (plain : '\n' ∉ line) : lineStart line = line := by
  rw [lineStart, List.rtakeWhile_eq_self_iff]
  rintro c hc
  have other : c ≠ '\n' := fun same => plain (same ▸ hc)
  simpa using other

theorem lineStart_feed (line before : List Char) :
    lineStart (line ++ '\n' :: before) = lineStart before := by
  have stops : ('\n' :: line.reverse).takeWhile (· ≠ '\n') = [] := by simp
  rw [lineStart, List.rtakeWhile, List.reverse_append, List.reverse_cons, List.append_assoc,
    List.singleton_append, List.takeWhile_append, stops, List.append_nil]
  split
  · next whole => rw [lineStart, List.rtakeWhile, (List.takeWhile_prefix _).eq_of_length whole]
  · rfl

/-- Every offset in front of a character leads to the line of that character. The induction is on the
text in front; `line` is what was read of the current line. -/
theorem leadsTo_sourceLines {behind : List Char} (goes : behind ≠ []) (before : List Char) :
    ∀ {line : List Char}, '\n' ∉ line →
      LeadsTo (sourceLines (line ++ before ++ behind)) (byteLength (line ++ before))
        (before.count '\n') (lineStart (line ++ before)) (lineRest behind) := by
  induction before with
  | nil =>
      intro line plain
      obtain ⟨lines, first⟩ := exists_sourceLines plain goes
      rw [List.append_nil, lineStart_of_plain plain, first]
      exact .first line _ lines
  | cons c before ih =>
      intro line plain
      by_cases feed : c = '\n'
      · subst feed
        have others := (ih (List.not_mem_nil (a := '\n'))).below line
        rw [List.nil_append] at others
        rw [List.append_assoc, List.cons_append, sourceLines_feed plain, lineStart_feed,
          List.count_cons_self]
        convert others using 1
        rw [byteLength_append, byteLength_cons, Nat.add_assoc]
        rfl
      · have longer : '\n' ∉ line ++ [c] := by simp [plain, Ne.symm feed]
        have others := ih longer
        rw [List.append_assoc line [c] before] at others
        rwa [List.count_cons_of_ne feed]

/-- A part of a text starts on the line that its offset leads to. -/
theorem leadsTo_part {source before covered behind : List Char} (nonempty : covered ≠ [])
    (parts : source = before ++ covered ++ behind) :
    LeadsTo (sourceLines source) (byteLength before) (before.count '\n') (lineStart before)
      (lineRest (covered ++ behind)) := by
  have goes : covered ++ behind ≠ [] := by simp [nonempty]
  have leads := leadsTo_sourceLines goes before (List.not_mem_nil (a := '\n'))
  rwa [List.nil_append, ← List.append_assoc, ← parts] at leads

/-! ## Pictures -/

namespace Error

/-- The picture that quotes a line under its number and underlines a text behind its start. -/
def caretPicture (message : String) (name : Option String) (number : Nat)
    (start covered line : List Char) : String :=
  let margin := "\n " ++ spaces (toString number).length
  let header := match name with
    | some name =>
      margin ++ "--> " ++ name ++ ":" ++ toString number ++ ":" ++ toString (width start + 1)
    | none => ""
  let carets := String.ofList (List.replicate (max 1 (width covered)) '^')
  header ++ margin ++ " |" ++ "\n " ++ toString number ++ " | " ++ String.ofList line ++
    margin ++ " | " ++ spaces (width start) ++ carets ++ " " ++ message ++ "\n"

/-- The picture of an error at a part of a source. -/
theorem picture_eq {source : String} {before covered behind : List Char} (nonempty : covered ≠ [])
    (parts : source.toList = before ++ covered ++ behind) (message : String)
    (name : Option String) :
    picture message name ⟨source, ⟨byteLength before, byteLength (before ++ covered)⟩⟩ =
      caretPicture message name (before.count '\n' + 1) (lineStart before) covered
        (lineStart before ++ lineRest (covered ++ behind)) := by
  have leads := leadsTo_part nonempty parts
  have code : (sourceLines source.toList).getD (before.count '\n')
      ((sourceLines source.toList).getLastD []) =
        lineStart before ++ lineRest (covered ++ behind) := by
    rw [List.getD_eq_getElem?_getD, leads.line, Option.getD_some]
  have slice : sliceBytes source.toList (byteLength before) (byteLength (before ++ covered)) =
      covered := by
    rw [parts, sliceBytes_byteLength]
  unfold picture caretPicture
  cases name with
  | none | some name => simp only [leads.column, code, slice]

end Error

/-- A token lies between two parts of the source. -/
theorem Delimiters.Covers.exists_parts {d : Delimiters} {source : List Char} {tokens : List Token}
    (h : d.Covers [] source tokens) {t : Token} (ht : t ∈ tokens) :
    ∃ before covered behind, covered ≠ [] ∧ source = before ++ covered ++ behind ∧
      t.span = ⟨byteLength before, byteLength (before ++ covered)⟩ := by
  by_cases kind : t.kind = .text
  · obtain ⟨nonempty, before, behind, parts, span, -⟩ := h.texts t ht kind
    exact ⟨before, t.content, behind, nonempty, parts, span⟩
  · obtain ⟨-, before, kind, inside, rest, parts, span, -⟩ := h.tags t ht kind
    refine ⟨before, (d.pair kind).raw inside, rest, ?_, ?_, span⟩
    · simp [DelimiterPair.raw, (d.pair kind).start_ne_nil]
    · rw [List.append_assoc]
      exact parts

namespace Error

/-- The picture of an error at a token quotes the line in which the token starts and underlines the
token there. The number of the line is one more than there are line feeds in front, the line reaches
from one line feed to the next, as many columns as the characters in front of the token take stand
empty, and the carets take the columns of the token, or one. Neither the source nor a line of it is
cut anywhere but between two characters. -/
theorem picture_points (d : Delimiters) (source message : String) (name : Option String) {t : Token}
    (ht : t ∈ d.tokens source.toList) :
    ∃ before covered behind, source.toList = before ++ covered ++ behind ∧
      t.span = ⟨byteLength before, byteLength (before ++ covered)⟩ ∧
      sliceBytes source.toList t.span.start t.span.stop = covered ∧
      CutsBetween (sourceLines source.toList) t.span.start ∧
      picture message name ⟨source, t.span⟩ =
        caretPicture message name (before.count '\n' + 1) (lineStart before) covered
          (lineStart before ++ lineRest (covered ++ behind)) := by
  have covers : d.Covers [] source.toList (d.tokens source.toList) :=
    (Delimiters.layout_tokens d _).covers rfl
  obtain ⟨before, covered, behind, nonempty, parts, span⟩ := covers.exists_parts ht
  refine ⟨before, covered, behind, parts, span, ?_, ?_, ?_⟩
  · rw [span, parts, sliceBytes_byteLength]
  · rw [span]
    exact (leadsTo_part nonempty parts).cut
  · rw [span]
    exact picture_eq nonempty parts message name

/-- A start delimiter with a line feed inside. -/
def spreadDelimiters : Delimiters :=
  { Delimiters.standard with print := { start := ['<', '\n'], stop := ['>'] } }

/-- A tag behind wide characters that ends on the next line. -/
def spreadText : String := "日本 <\nx>\nend"

set_option maxRecDepth 10000 in
theorem tokens_spreadText : spreadDelimiters.tokens spreadText.toList =
    [⟨.text, "日本 ".toList, ⟨0, 7⟩⟩, ⟨.print false, ['x'], ⟨7, 11⟩⟩,
      ⟨.text, "\nend".toList, ⟨11, 15⟩⟩] := by
  cbv

theorem picture_points_spread :
    ⟨.print false, ['x'], ⟨7, 11⟩⟩ ∈ spreadDelimiters.tokens spreadText.toList ∧
      picture "oops" (some "page") ⟨spreadText, ⟨7, 11⟩⟩ =
        "\n  --> page:1:6\n   |\n 1 | 日本 <\n   |      ^^^ oops\n" := by
  have found : ⟨.print false, ['x'], ⟨7, 11⟩⟩ ∈ spreadDelimiters.tokens spreadText.toList := by
    rw [tokens_spreadText]
    exact List.mem_cons_of_mem _ List.mem_cons_self
  obtain ⟨before, covered, behind, parts, span, slice, -, drawn⟩ :=
    picture_points spreadDelimiters spreadText "oops" (some "page") found
  have start : byteLength before = 7 := (congrArg Span.start span).symm
  have cut : splitBytes 7 spreadText.toList = (before, covered ++ behind) := by
    rw [parts, ← start, List.append_assoc, splitBytes_byteLength]
  have parted : splitBytes 7 spreadText.toList = ("日本 ".toList, "<\nx>\nend".toList) := by cbv
  obtain ⟨rfl, rest⟩ := Prod.mk.inj (parted.symm.trans cut)
  refine ⟨found, ?_⟩
  rw [drawn, ← rest, ← slice]
  decide +kernel

end Error

end TextTemplate
