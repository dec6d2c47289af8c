import Mathlib
import TextTemplate.Proofs.Filter.Arguments

/-!
# Truncated texts

A text that is longer than the limit loses its end to the ellipsis. The text gives way to the ellipsis,
but the ellipsis gives way to nothing: it is written in full even where it is longer than the limit
(`length_truncateChars_le_iff`). All lengths are numbers of characters, so it makes no difference how many
bytes a character takes (`truncateChars_map`).
-/

namespace TextTemplate.Filter

section

variable {s : List Char} {n : Nat} (ellipsis : List Char)

theorem truncateChars_of_le (fits : s.length ≤ n) : truncateChars s n ellipsis = s := if_pos fits

theorem truncateChars_of_lt (long : n < s.length) :
    truncateChars s n ellipsis = s.take (n - ellipsis.length) ++ ellipsis :=
  if_neg (Nat.not_le.mpr long)

/-- What is left of a text has as many characters as the limit, unless the ellipsis alone has more. -/
theorem length_truncateChars_of_lt (long : n < s.length) :
    (truncateChars s n ellipsis).length = max n ellipsis.length := by
  have kept : (s.take (n - ellipsis.length)).length = n - ellipsis.length := by
    rw [List.length_take]
    omega
  rw [truncateChars_of_lt ellipsis long, List.length_append, kept]
  omega

theorem length_truncateChars_le_iff :
    (truncateChars s n ellipsis).length ≤ n ↔ s.length ≤ n ∨ ellipsis.length ≤ n := by
  by_cases fits : s.length ≤ n
  · rw [truncateChars_of_le ellipsis fits]
    exact ⟨fun _ => .inl fits, fun _ => fits⟩
  · rw [length_truncateChars_of_lt ellipsis (Nat.not_le.mp fits)]
    omega

/-- Other characters in place of the same ones are truncated at the same place, whatever their size. -/
theorem truncateChars_map (f : Char → Char) :
    truncateChars (s.map f) n (ellipsis.map f) = (truncateChars s n ellipsis).map f := by
  by_cases fits : s.length ≤ n
  · rw [truncateChars_of_le ellipsis fits, truncateChars_of_le _ (by rwa [List.length_map])]
  · have long := Nat.not_le.mp fits
    rw [truncateChars_of_lt ellipsis long, truncateChars_of_lt _ (by rwa [List.length_map]),
      List.map_append, List.map_take, List.length_map]

end

/-- The arguments of the filter: the limit, and the ellipsis if one is given. -/
def truncation (limit : Int64) (ellipsis : Option String) : List Value :=
  .integer limit :: (ellipsis.map Value.string).toList

/-- What is written for what is cut off: three dots, if nothing else is given. -/
def ellipsisText (ellipsis : Option String) : String := ellipsis.getD "..."

theorem truncatechars_run (s : String) (n : Nat) (ellipsis : Option String) :
    truncatechars.run s (n : Int) ellipsis =
      .ok (.string (String.ofList (truncateChars s.toList n (ellipsisText ellipsis).toList))) := rfl

/-- A limit that is not negative passes the checks of the filter. -/
theorem truncatechars_apply (s : String) {limit : Int64} {n : Nat} (same : limit.toInt = n)
    (ellipsis : Option String) :
    truncatechars.apply (.string s) (truncation limit ellipsis) =
      truncatechars.run s (n : Int) ellipsis := by
  have inside : IntegerType.usize.InRange limit.toInt := by
    have small := limit.toInt_lt
    show 0 ≤ limit.toInt ∧ limit.toInt < 18446744073709551616
    omega
  have takes : TakesAll truncatechars.parameters (truncation limit ellipsis) (limit.toInt, ellipsis, ()) := by
    refine ⟨convert_integer_eq_ok.mpr ⟨limit, rfl, inside, rfl⟩, ?_, trivial⟩
    cases ellipsis with
    | none => exact rfl
    | some e => exact rfl
  have count : (truncation limit ellipsis).length ≤ truncatechars.parameters.length := by
    cases ellipsis with
    | none => exact Nat.le_succ 1
    | some e => exact Nat.le_refl 2
  have text : truncatechars.value.convert (.string s) = .ok s := rfl
  rw [← same]
  exact enters_of_takesAll count text takes truncatechars.run

/-- For every text, every limit and every ellipsis, given or not: a text with no more characters than the
limit is left as it is, and of a longer one a prefix is kept, with the ellipsis behind it. The result has
at most as many characters as the limit if and only if the text or the ellipsis has. Only the numbers of
characters matter: with other characters in place of the same ones, of whatever size, the result is the
same with these characters. -/
theorem truncatechars_limit (s : String) (n : Nat) (ellipsis : Option String) :
    ∃ t : String, truncatechars.run s (n : Int) ellipsis = .ok (.string t) ∧
      (∀ limit : Int64, limit.toInt = n →
        truncatechars.apply (.string s) (truncation limit ellipsis) = .ok (.string t)) ∧
      (s.length ≤ n → t = s) ∧
      (n < s.length → ∃ kept, kept <+: s.toList ∧ kept.length = n - (ellipsisText ellipsis).length ∧
        t.toList = kept ++ (ellipsisText ellipsis).toList ∧
        t.length = max n (ellipsisText ellipsis).length) ∧
      (t.length ≤ n ↔ s.length ≤ n ∨ (ellipsisText ellipsis).length ≤ n) ∧
      ∀ f : Char → Char, truncatechars.run (s.map f) (n : Int) (some ((ellipsisText ellipsis).map f)) =
        .ok (.string (t.map f)) := by
  refine ⟨String.ofList (truncateChars s.toList n (ellipsisText ellipsis).toList),
    truncatechars_run s n ellipsis, fun limit same => ?applied, fun fits => ?whole, fun long => ?cut,
    ?bound, fun f => ?renamed⟩
  case applied =>
    rw [truncatechars_apply s same, truncatechars_run]
  case whole =>
    rw [truncateChars_of_le _ (by rwa [String.length_toList]), String.ofList_toList]
  case cut =>
    have long' : n < s.toList.length := by rwa [String.length_toList]
    refine ⟨s.toList.take (n - (ellipsisText ellipsis).length), List.take_prefix _ _, ?_, ?_, ?_⟩
    · rw [List.length_take]
      omega
    · rw [String.toList_ofList, truncateChars_of_lt _ long', String.length_toList]
    · rw [String.length_ofList, length_truncateChars_of_lt _ long', String.length_toList]
  case bound =>
    rw [String.length_ofList, length_truncateChars_le_iff, String.length_toList, String.length_toList]
  case renamed =>
    rw [truncatechars_run, ellipsisText, Option.getD_some, String.toList_map, String.toList_map, truncateChars_map]
    congr 2
    rw [← String.toList_inj, String.toList_map, String.toList_ofList, String.toList_ofList]

/-- Without room for it the whole ellipsis is written still. -/
theorem truncatechars_limit_zero :
    0 < "größe".length ∧ (0 : Int64).toInt = (0 : Nat) ∧
      truncatechars.apply (.string "größe") (truncation 0 none) = .ok (.string "...") ∧
      ¬ "...".length ≤ 0 := by
  have long : 0 < "größe".length := by decide
  obtain ⟨t, run, applied, -, cut, bound, -⟩ := truncatechars_limit "größe" 0 none
  obtain ⟨kept, -, nothing, text, -⟩ := cut long
  have dots : t = "..." := by
    rw [← String.toList_inj, text, List.eq_nil_of_length_eq_zero nothing]
    rfl
  rw [dots] at applied bound
  exact ⟨long, rfl, applied 0 rfl, fun fits => absurd (bound.mp fits) (by decide)⟩

end TextTemplate.Filter
