import TextTemplate.Proofs.Result
import TextTemplate.Render.Function

/-!
# Ranges

A range is the list of the terms `start, start + step, …` that lie before its end. `TermsBefore` says
so of integers without a bound. The function computes the number of the terms without a bound, too,
but the terms in machine integers. The terms themselves are machine integers; the multiple of the step
that is added to the start need not be one, and then the computation breaks off
(`NativeFunction.range_terms`).
-/

namespace TextTemplate

namespace NativeFunction

/-! ## What a range is -/

/-- Whether a term lies before the end, in the direction of the step. -/
def Before (stop step term : Int) : Prop := if 0 < step then term < stop else stop < term

instance (stop step term : Int) : Decidable (Before stop step term) :=
  inferInstanceAs (Decidable (if 0 < step then term < stop else stop < term))

/-- The terms from `term` on that lie before the end. -/
inductive TermsBefore (stop step : Int) : Int → List Int → Prop
  | nil {term : Int} (past : ¬ Before stop step term) : TermsBefore stop step term []
  | cons {term : Int} {terms : List Int} (here : Before stop step term)
      (rest : TermsBefore stop step (term + step) terms) :
      TermsBefore stop step term (term :: terms)

/-- The number is a machine integer. -/
def Fits (n : Int) : Prop := Int64.minValue.toInt ≤ n ∧ n ≤ Int64.maxValue.toInt

instance (n : Int) : Decidable (Fits n) :=
  inferInstanceAs (Decidable (Int64.minValue.toInt ≤ n ∧ n ≤ Int64.maxValue.toInt))

theorem fits_toInt (i : Int64) : Fits i.toInt := ⟨i.minValue_le_toInt, i.toInt_le⟩

section

variable {start stop step : Int}

theorem TermsBefore.unique {terms terms' : List Int} (h : TermsBefore stop step start terms)
    (h' : TermsBefore stop step start terms') : terms = terms' := by
  induction h generalizing terms' with
  | nil past =>
      cases h' with
      | nil => rfl
      | cons here => exact absurd here past
  | cons here _ ih =>
      cases h' with
      | nil past => exact absurd here past
      | cons _ rest => rw [ih rest]

/-- The terms of an arithmetic progression. -/
def terms (start step : Int) (count : Nat) : List Int :=
  (List.range count).map fun (index : Nat) => start + index * step

@[simp] theorem length_terms (start step : Int) (count : Nat) :
    (terms start step count).length = count := by
  simp [terms]

theorem terms_succ (start step : Int) (count : Nat) :
    terms start step (count + 1) = start :: terms (start + step) step count := by
  rw [terms, terms, List.range_succ_eq_map, List.map_cons, List.map_map]
  congr 1
  · simp
  · refine List.map_congr_left fun index _ => ?_
    simp only [Function.comp, Nat.succ_eq_add_one]
    push_cast
    ring

/-- The terms up to the first that does not lie before the end. -/
theorem termsBefore_terms {count : Nat}
    (h : ∀ index : Nat, index < count ↔ Before stop step (start + index * step)) :
    TermsBefore stop step start (terms start step count) := by
  induction count generalizing start with
  | zero =>
      refine .nil fun here => ?_
      have first := h 0
      simp only [Nat.cast_zero, Int.zero_mul, Int.add_zero] at first
      exact absurd (first.mpr here) (Nat.lt_irrefl 0)
  | succ count ih =>
      have first := (h 0).mp (Nat.succ_pos count)
      rw [Nat.cast_zero, Int.zero_mul, Int.add_zero] at first
      rw [terms_succ]
      refine .cons first (ih fun index => ?_)
      have next := h (index + 1)
      rw [Nat.add_lt_add_iff_right] at next
      rw [next]
      push_cast
      ring_nf

/-! ## How many terms there are -/

/-- A rounded quotient counts the multiples of the divisor that are less than a number. -/
theorem lt_rounded_iff {divisor : Int} (positive : 0 < divisor) (distance : Int) (index : Nat) :
    (index : Int) < (max distance 0 + divisor - 1) / divisor ↔ index * divisor < distance := by
  have multiple : 0 ≤ index * divisor := Int.mul_nonneg (Int.natCast_nonneg _) positive.le
  rw [← Int.add_one_le_iff, Int.le_ediv_iff_mul_le positive, Int.add_mul, Int.one_mul]
  omega

theorem lt_rangeLength_iff (h : step ≠ 0) (index : Nat) :
    (index : Int) < rangeLength start stop step ↔ Before stop step (start + index * step) := by
  rw [rangeLength, Before]
  split
  · next up =>
      rw [lt_rounded_iff up]
      omega
  · next down =>
      have positive : 0 < -step := by omega
      have rounded := lt_rounded_iff positive (start - stop) index
      rw [← sub_eq_add_neg] at rounded
      rw [rounded, Int.mul_neg]
      omega

theorem rangeLength_nonneg (h : step ≠ 0) : 0 ≤ rangeLength start stop step := by
  rw [rangeLength]
  split
  · next up => exact Int.ediv_nonneg (by omega) up.le
  · next down => exact Int.ediv_nonneg (by omega) (by omega)

end

/-! ## Machine integers -/

section

variable {start stop step : Int64}

/-- A term before the end lies between the start and the end. -/
theorem fits_of_before {index : Nat}
    (h : Before stop.toInt step.toInt (start.toInt + index * step.toInt)) :
    Fits (start.toInt + index * step.toInt) := by
  obtain ⟨startLow, startHigh⟩ := fits_toInt start
  obtain ⟨stopLow, stopHigh⟩ := fits_toInt stop
  have natural : (0 : Int) ≤ index := Int.natCast_nonneg index
  rw [Before] at h
  split at h
  · next up =>
      have forward : 0 ≤ index * step.toInt := Int.mul_nonneg natural up.le
      exact ⟨by omega, by omega⟩
  · next down =>
      have backward : index * step.toInt ≤ 0 :=
        Int.mul_nonpos_of_nonneg_of_nonpos natural (by omega)
      exact ⟨by omega, by omega⟩

theorem machineInteger_of_fits {n : Int} (h : Fits n) : machineInteger n = .ok (Int64.ofInt n) :=
  if_pos h

theorem machineInteger_of_not_fits {n : Int} (h : ¬ Fits n) : machineInteger n = .error .aborted :=
  if_neg h

theorem toInt_ofInt_of_fits {n : Int} (h : Fits n) : (Int64.ofInt n).toInt = n := by
  have greatest : Int64.maxValue.toInt = 2 ^ 63 - 1 := rfl
  exact Int64.toInt_ofInt_of_le h.1 (by have := h.2; omega)

/-- A list of results of which some break off breaks off. -/
theorem mapM_breaking {α β : Type} {f : α → Except Failure β} {g : α → β} {P : α → Prop}
    [DecidablePred P] {items : List α}
    (h : ∀ a ∈ items, f a = if P a then .ok (g a) else .error .aborted) :
    items.mapM f = if ∀ a ∈ items, P a then .ok (items.map g) else .error .aborted := by
  induction items with
  | nil => rfl
  | cons a rest ih =>
      obtain ⟨first, others⟩ := List.forall_mem_cons.mp h
      rw [List.mapM_cons, first, ih others]
      by_cases here : P a
      · by_cases behind : ∀ b ∈ rest, P b
        · rw [if_pos here, if_pos behind, if_pos (List.forall_mem_cons.mpr ⟨here, behind⟩)]
          rfl
        · rw [if_pos here, if_neg behind, if_neg fun all => behind (List.forall_mem_cons.mp all).2]
          rfl
      · rw [if_neg here, if_neg fun all => here (List.forall_mem_cons.mp all).1]
        rfl

/-- Terms that are machine integers come out exactly, unless a multiple of the step is none. -/
theorem progression_eq {count : Nat}
    (h : ∀ index : Nat, index < count → Fits (start.toInt + index * step.toInt)) :
    progression start step count =
      if ∀ index < count, Fits (index * step.toInt) then
        .ok ((terms start.toInt step.toInt count).map Int64.ofInt)
      else .error .aborted := by
  have each : ∀ index ∈ List.range count,
      (do
        let offset ← machineInteger (index * step.toInt)
        machineInteger (start.toInt + offset.toInt)) =
      if Fits (index * step.toInt) then .ok (Int64.ofInt (start.toInt + index * step.toInt))
      else .error .aborted := by
    intro index hindex
    by_cases offset : Fits (index * step.toInt)
    · rw [if_pos offset, machineInteger_of_fits offset]
      change machineInteger (start.toInt + (Int64.ofInt (index * step.toInt)).toInt) = _
      rw [toInt_ofInt_of_fits offset, machineInteger_of_fits (h index (List.mem_range.mp hindex))]
    · rw [if_neg offset, machineInteger_of_not_fits offset]
      rfl
  rw [progression, mapM_breaking each, terms, List.map_map]
  simp only [List.mem_range]
  rfl

theorem getLast?_terms (start step : Int) (count : Nat) :
    (terms start step (count + 1)).getLast? = some (start + count * step) := by
  rw [terms, List.range_succ, List.map_append]
  simp

/-- The multiples of the step up to the last one fit if the last one does. -/
theorem fits_multiples_iff (start step : Int) (count : Nat) :
    (∀ index < count, Fits (index * step)) ↔
      ∀ last ∈ (terms start step count).getLast?, Fits (last - start) := by
  cases count with
  | zero => simp [terms]
  | succ count =>
      have distance : start + count * step - start = count * step := by omega
      rw [getLast?_terms]
      simp only [Option.mem_some_iff, forall_eq', distance]
      constructor
      · exact fun all => all count (Nat.lt_succ_self count)
      · intro last index hindex
        have less : (index : Int) ≤ count := by omega
        have natural : (0 : Int) ≤ index := Int.natCast_nonneg index
        obtain ⟨low, high⟩ := last
        obtain ⟨zeroLow, zeroHigh⟩ := fits_toInt 0
        rcases Int.le_total 0 step with up | down
        · have above : 0 ≤ index * step := Int.mul_nonneg natural up
          have below : index * step ≤ count * step := Int.mul_le_mul_of_nonneg_right less up
          exact ⟨Int.le_trans zeroLow above, Int.le_trans below high⟩
        · have below : index * step ≤ 0 := Int.mul_nonpos_of_nonneg_of_nonpos natural down
          have above : count * step ≤ index * step := Int.mul_le_mul_of_nonpos_right less down
          exact ⟨Int.le_trans low above, Int.le_trans below zeroHigh⟩

end

/-! ## The function -/

theorem range_run (scopes : Scopes) (start stop step : Int64) :
    range scopes [.integer start, .integer stop, .integer step] =
      (rangeOf start stop step).map .value := by
  have arguments : [Value.integer start, .integer stop, .integer step].mapM integerArgument =
      .ok [start, stop, step] := rfl
  rw [range, arguments]
  change (rangeOf start stop step >>= fun items => pure (Returned.value items)) = _
  cases rangeOf start stop step <;> rfl

/-- A range holds exactly the terms before its end, unless they are more than a million, and then it
fails, or a multiple of the step is no machine integer, and then it breaks off. All terms are machine
integers. The multiples of the step that are added to the start are machine integers if and only if
the distance from the first term to the last is one. -/
theorem range_terms (scopes : Scopes) (start stop : Int64) {step : Int64} (h : step ≠ 0) :
    ∃ terms, (∀ other, TermsBefore stop.toInt step.toInt start.toInt other ↔ other = terms) ∧
      (∀ term ∈ terms, Fits term) ∧
      range scopes [.integer start, .integer stop, .integer step] =
        (if 1000000 < terms.length then
          .error (.reason s!"range of {terms.length} items is too large")
        else if ∀ index < terms.length, Fits (index * step.toInt) then
          .ok (.value (.list (terms.map fun term => .integer (Int64.ofInt term))))
        else .error .aborted) ∧
      ((∀ index < terms.length, Fits (index * step.toInt)) ↔
        ∀ last ∈ terms.getLast?, Fits (last - start.toInt)) := by
  have moves : step.toInt ≠ 0 := fun zero => h (Int64.toInt_inj.mp zero)
  have nonneg : 0 ≤ rangeLength start.toInt stop.toInt step.toInt := rangeLength_nonneg moves
  obtain ⟨count, counted⟩ := Int.eq_ofNat_of_zero_le nonneg
  have before : ∀ index : Nat, index < count ↔
      Before stop.toInt step.toInt (start.toInt + index * step.toInt) := by
    intro index
    rw [← lt_rangeLength_iff moves, counted, Int.ofNat_lt]
  have listed := termsBefore_terms before
  have fits : ∀ index : Nat, index < count → Fits (start.toInt + index * step.toInt) :=
    fun index hindex => fits_of_before ((before index).mp hindex)
  refine ⟨terms start.toInt step.toInt count, ?only, ?fits, ?run, ?multiples⟩
  case only => exact fun other => ⟨fun also => also.unique listed, fun same => same ▸ listed⟩
  case fits => exact List.forall_mem_map.mpr fun index hindex => fits index (List.mem_range.mp hindex)
  case run =>
    rw [range_run, rangeOf, if_neg h, length_terms]
    simp only [counted, maxRange, Int.toNat_natCast, progression_eq fits]
    by_cases many : 1000000 < count
    · rw [if_pos many, if_pos (by omega)]
      rfl
    · rw [if_neg many, if_neg (by omega)]
      split
      · simp only [Except.map, List.map_map]
        rfl
      · rfl
  case multiples =>
    rw [length_terms]
    exact fits_multiples_iff ..

/-- From the least to the greatest machine integer in steps as long as possible: all three terms are
machine integers, but twice the step is none, and the function breaks off. Up to 0 there are two terms,
which come out. -/
theorem range_terms_wide :
    Int64.maxValue ≠ 0 ∧
      TermsBefore Int64.maxValue.toInt Int64.maxValue.toInt Int64.minValue.toInt
        [-9223372036854775808, -1, 9223372036854775806] ∧
      ¬ (∀ index : Nat, index < 3 → Fits (index * Int64.maxValue.toInt)) ∧
      range [] [.integer Int64.minValue, .integer Int64.maxValue, .integer Int64.maxValue] =
        .error .aborted ∧
      range [] [.integer Int64.minValue, .integer 0, .integer Int64.maxValue] =
        .ok (.value (.list [.integer (-9223372036854775808), .integer (-1)])) := by
  have moves : Int64.maxValue ≠ 0 := by decide
  have listed : TermsBefore Int64.maxValue.toInt Int64.maxValue.toInt Int64.minValue.toInt
      [-9223372036854775808, -1, 9223372036854775806] :=
    .cons (by decide) (.cons (by decide) (.cons (by decide) (.nil (by decide))))
  have few : TermsBefore (0 : Int64).toInt Int64.maxValue.toInt Int64.minValue.toInt
      [-9223372036854775808, -1] :=
    .cons (by decide) (.cons (by decide) (.nil (by decide)))
  have wide : ¬ ∀ index : Nat, index < 3 → Fits (index * Int64.maxValue.toInt) := by decide
  obtain ⟨terms, only, -, run, -⟩ := range_terms [] Int64.minValue Int64.maxValue moves
  obtain ⟨terms', only', -, run', -⟩ := range_terms [] Int64.minValue 0 moves
  obtain rfl := (only _).mp listed
  obtain rfl := (only' _).mp few
  exact ⟨moves, listed, wide, run.trans ((if_neg (by decide)).trans (if_neg wide)),
    run'.trans ((if_neg (by decide)).trans (if_pos (by decide)))⟩

end NativeFunction

end TextTemplate
