import Mathlib
import TextTemplate.Filter.Standard

/-!
# The checks of a filter

The function of a filter is entered if all checks pass, and then with the converted values; otherwise the
first check that fails decides, and the function has no influence on the result. Both are said for one
signature and all functions of it at once: to be entered is to come to what the function comes to, whatever
the function is.
-/

namespace TextTemplate

/-! ## Functions of several parameters -/

/-- One value for each parameter. -/
abbrev Arguments : List Parameter → Type
  | [] => Unit
  | p :: ps => p.Carrier × Arguments ps

namespace Curried

variable {result : Type}

/-- What the function gives for these values. -/
def applyTo : (ps : List Parameter) → Curried result ps → Arguments ps → result
  | [], r, _ => r
  | _ :: ps, f, xs => applyTo ps (f xs.1) xs.2

/-- The function that takes the values one after the other. -/
def collect : (ps : List Parameter) → (Arguments ps → result) → Curried result ps
  | [], f => f ()
  | _ :: ps, f => fun x => collect ps fun xs => f (x, xs)

theorem applyTo_collect (ps : List Parameter) (f : Arguments ps → result) (xs : Arguments ps) :
    applyTo ps (collect ps f) xs = f xs := by
  induction ps with
  | nil => rfl
  | cons p ps ih => exact ih (fun rest => f (xs.1, rest)) xs.2

end Curried

/-! ## Single parameters -/

namespace Parameter

def IsOptional (p : Parameter) : Prop := ∃ t, p = .optional t

/-- The value that a parameter has with this argument, or without any. -/
def Takes (p : Parameter) : Option Value → p.Carrier → Prop
  | some v, x => p.convert v = .ok x
  | none, x => p.missing? = some x

/-- The argument can be converted; if there is none, the parameter may be left out. -/
def Fits (p : Parameter) : Option Value → Prop
  | some v => ∃ x, p.convert v = .ok x
  | none => p.IsOptional

/-- The argument cannot be converted, or there is none although the parameter may not be left out. -/
def Refuses (p : Parameter) (expected found : Nat) : Option Value → Failure → Prop
  | some v, failure => ∃ e, p.convert v = .error e ∧ failure = .reason (e.message "argument")
  | none, failure => ¬ p.IsOptional ∧ failure = .reason (Filter.wrongCount expected found)

theorem exists_missing?_iff {p : Parameter} : (∃ x, p.missing? = some x) ↔ p.IsOptional := by
  cases p with
  | required t =>
      constructor
      · rintro ⟨x, h⟩
        cases h
      · rintro ⟨t', h⟩
        cases h
  | optional t => exact ⟨fun _ => ⟨t, rfl⟩, fun _ => ⟨none, rfl⟩⟩

theorem fits_iff {p : Parameter} {argument : Option Value} :
    p.Fits argument ↔ ∃ x, p.Takes argument x := by
  cases argument with
  | some v => rfl
  | none => exact exists_missing?_iff.symm

theorem fits_or_refuses (p : Parameter) (expected found : Nat) (argument : Option Value) :
    p.Fits argument ∨ ∃ failure, p.Refuses expected found argument failure := by
  cases argument with
  | some v =>
      cases converted : p.convert v with
      | ok x => exact .inl ⟨x, converted⟩
      | error e => exact .inr ⟨_, e, converted, rfl⟩
  | none => exact (Classical.em p.IsOptional).imp_right fun required => ⟨_, required, rfl⟩

/-- To give an optional parameter an absent value is to give it none. -/
theorem takes_absent {p : Parameter} (h : p.IsOptional) (x : p.Carrier) :
    p.Takes (some .none) x ↔ p.Takes none x := by
  obtain ⟨t, rfl⟩ := h
  change Except.ok none = Except.ok x ↔ some none = some x
  rw [Except.ok.injEq, Option.some.injEq]

end Parameter

/-! ## Types -/

namespace IntegerType

/-- The size in memory. -/
def bits : IntegerType → Nat
  | .u8 | .i8 => 8
  | .u16 | .i16 => 16
  | .u32 | .i32 => 32
  | .u64 | .usize | .i64 => 64

def isSigned : IntegerType → Bool
  | .i8 | .i16 | .i32 | .i64 => true
  | .u8 | .u16 | .u32 | .u64 | .usize => false

/-- The integers that so many bits can hold, with one of them for the sign if there is a sign. -/
def InRange (t : IntegerType) (i : Int) : Prop :=
  if t.isSigned then -2 ^ (t.bits - 1) ≤ i ∧ i < 2 ^ (t.bits - 1) else 0 ≤ i ∧ i < 2 ^ t.bits

theorem holds_iff {t : IntegerType} {i : Int} : t.holds i = true ↔ t.InRange i := by
  rw [holds, Bool.and_eq_true, decide_eq_true_eq, decide_eq_true_eq]
  cases t with
  | u8 => change 0 ≤ i ∧ i ≤ 255 ↔ 0 ≤ i ∧ i < 256; omega
  | u16 => change 0 ≤ i ∧ i ≤ 65535 ↔ 0 ≤ i ∧ i < 65536; omega
  | u32 => change 0 ≤ i ∧ i ≤ 4294967295 ↔ 0 ≤ i ∧ i < 4294967296; omega
  | u64 | usize =>
      change 0 ≤ i ∧ i ≤ 18446744073709551615 ↔ 0 ≤ i ∧ i < 18446744073709551616
      omega
  | i8 => change -128 ≤ i ∧ i ≤ 127 ↔ -128 ≤ i ∧ i < 128; omega
  | i16 => change -32768 ≤ i ∧ i ≤ 32767 ↔ -32768 ≤ i ∧ i < 32768; omega
  | i32 => change -2147483648 ≤ i ∧ i ≤ 2147483647 ↔ -2147483648 ≤ i ∧ i < 2147483648; omega
  | i64 =>
      change -9223372036854775808 ≤ i ∧ i ≤ 9223372036854775807 ↔
        -9223372036854775808 ≤ i ∧ i < 9223372036854775808
      omega

end IntegerType

namespace ArgumentType

/-- The value is of the type and stands for this. Integers may stand for floats, and else the kinds are
the same. -/
inductive Accepts : (t : ArgumentType) → Value → t.Carrier → Prop
  | value (v : Value) : Accepts .value v v
  | bool (b : Bool) : Accepts .bool (.bool b) b
  | integer {t : IntegerType} {i : Int64} (inside : t.InRange i.toInt) :
      Accepts (.integer t) (.integer i) i.toInt
  | float (x : Float) : Accepts .float (.float x) x
  | floatOfInteger (i : Int64) : Accepts .float (.integer i) (Value.toDouble i)
  | string (s : String) : Accepts .string (.string s) s
  | list (items : List Value) : Accepts .list (.list items) items
  | map (entries : NameMap Value) : Accepts .map (.map entries) entries

/-- What a type is called in an error. -/
def label : ArgumentType → String
  | .value => "value"
  | .bool => "bool"
  | .integer _ => "integer"
  | .float => "float"
  | .string => "string"
  | .list => "list"
  | .map => "map"

/-- Why a value is not of the type: it is an integer out of range, or a value of another kind. -/
inductive Refuses : ArgumentType → Value → ArgumentError → Prop
  | outOfRange {t : IntegerType} {i : Int64} (outside : ¬ t.InRange i.toInt) :
      Refuses (.integer t) (.integer i) (.outOfRange t i.toInt)
  | wrongType {t : ArgumentType} {v : Value} (noInteger : ∀ u i, t = .integer u → v ≠ .integer i)
      (other : ∀ x, ¬ Accepts t v x) : Refuses t v (.wrongType t.label v.kind)

/-- A conversion accepts or refuses the value, as the type says. -/
theorem convert_spec (t : ArgumentType) (v : Value) :
    match t.convert v with
    | .ok x => Accepts t v x
    | .error e => Refuses t v e := by
  cases t with
  | value => exact .value v
  | integer t =>
      cases v with
      | integer i =>
          by_cases inside : t.InRange i.toInt
          · rw [convert, if_pos (IntegerType.holds_iff.mpr inside)]
            exact .integer inside
          · rw [convert, if_neg (mt IntegerType.holds_iff.mp inside)]
            exact .outOfRange inside
      | _ => exact .wrongType (fun _ _ _ => nofun) fun _ accepted => nomatch accepted
  | bool =>
      cases v with
      | bool b => exact .bool b
      | _ => exact .wrongType (fun _ _ => nofun) fun _ accepted => nomatch accepted
  | float =>
      cases v with
      | float x => exact .float x
      | integer i => exact .floatOfInteger i
      | _ => exact .wrongType (fun _ _ => nofun) fun _ accepted => nomatch accepted
  | string =>
      cases v with
      | string s => exact .string s
      | _ => exact .wrongType (fun _ _ => nofun) fun _ accepted => nomatch accepted
  | list =>
      cases v with
      | list items => exact .list items
      | _ => exact .wrongType (fun _ _ => nofun) fun _ accepted => nomatch accepted
  | map =>
      cases v with
      | map entries => exact .map entries
      | _ => exact .wrongType (fun _ _ => nofun) fun _ accepted => nomatch accepted

theorem Accepts.unique {t : ArgumentType} {v : Value} {x y : t.Carrier} (h : Accepts t v x)
    (h' : Accepts t v y) : x = y := by
  cases h <;> cases h' <;> rfl

theorem Refuses.not_accepts {t : ArgumentType} {v : Value} {e : ArgumentError} (h : Refuses t v e)
    (x : t.Carrier) : ¬ Accepts t v x := by
  cases h with
  | outOfRange outside =>
      intro accepted
      cases accepted with
      | integer inside => exact outside inside
  | wrongType noInteger other => exact other x

theorem Refuses.unique {t : ArgumentType} {v : Value} {e e' : ArgumentError} (h : Refuses t v e)
    (h' : Refuses t v e') : e = e' := by
  cases h with
  | outOfRange outside =>
      cases h' with
      | outOfRange => rfl
      | wrongType noInteger => exact absurd rfl (noInteger _ _ rfl)
  | wrongType noInteger other =>
      cases h' with
      | outOfRange => exact absurd rfl (noInteger _ _ rfl)
      | wrongType => rfl

/-- A value is converted if and only if it is of the type, and then to what it stands for. -/
theorem convert_eq_ok {t : ArgumentType} {v : Value} {x : t.Carrier} :
    t.convert v = .ok x ↔ Accepts t v x := by
  have spec := t.convert_spec v
  cases converted : t.convert v with
  | ok y =>
      rw [converted] at spec
      exact ⟨fun same => Except.ok.inj same ▸ spec, fun accepted => congrArg _ (spec.unique accepted)⟩
  | error e =>
      rw [converted] at spec
      exact ⟨nofun, fun accepted => absurd accepted (spec.not_accepts x)⟩

/-- A conversion fails if and only if the value is not of the type, and says why. -/
theorem convert_eq_error {t : ArgumentType} {v : Value} {e : ArgumentError} :
    t.convert v = .error e ↔ Refuses t v e := by
  have spec := t.convert_spec v
  cases converted : t.convert v with
  | ok y =>
      rw [converted] at spec
      exact ⟨nofun, fun refused => absurd spec (refused.not_accepts y)⟩
  | error e' =>
      rw [converted] at spec
      exact ⟨fun same => Except.error.inj same ▸ spec, fun refused => congrArg _ (spec.unique refused)⟩

end ArgumentType

/-- An integer is converted if it is in the range of the type, and then keeps its value. -/
theorem convert_integer_eq_ok {t : IntegerType} {v : Value} {x : Int} :
    (ArgumentType.integer t).convert v = .ok x ↔
      ∃ i : Int64, v = .integer i ∧ t.InRange i.toInt ∧ x = i.toInt := by
  rw [ArgumentType.convert_eq_ok]
  constructor
  · intro accepted
    cases accepted with
    | integer inside => exact ⟨_, rfl, inside, rfl⟩
  · rintro ⟨i, rfl, inside, rfl⟩
    exact .integer inside

theorem convert_integer_out_of_range {t : IntegerType} {i : Int64} (h : ¬ t.InRange i.toInt) :
    (ArgumentType.integer t).convert (.integer i) = .error (.outOfRange t i.toInt) :=
  ArgumentType.convert_eq_error.mpr (.outOfRange h)

namespace Filter

/-! ## The arguments from left to right -/

/-- The values that the parameters have with these arguments. -/
def TakesAll : (ps : List Parameter) → List Value → Arguments ps → Prop
  | [], _, _ => True
  | p :: ps, arguments, xs => p.Takes arguments.head? xs.1 ∧ TakesAll ps arguments.tail xs.2

/-- The parameter in this place, if there is one, fits the argument there. -/
def FitsAt (ps : List Parameter) (arguments : List Value) (i : Nat) : Prop :=
  ∀ p, ps[i]? = some p → p.Fits arguments[i]?

variable {expected found : Nat} {p : Parameter} {ps : List Parameter} {arguments : List Value}

theorem exists_takesAll_iff :
    (∃ xs, TakesAll ps arguments xs) ↔ ∀ i, FitsAt ps arguments i := by
  induction ps generalizing arguments with
  | nil =>
      constructor
      · intro _ i p here
        cases here
      · exact fun _ => ⟨(), trivial⟩
  | cons q ps ih =>
      constructor
      · rintro ⟨xs, first, rest⟩ i p here
        cases i with
        | zero =>
            cases here
            rw [← List.head?_eq_getElem?]
            exact Parameter.fits_iff.mpr ⟨xs.1, first⟩
        | succ i =>
            rw [← List.getElem?_tail]
            exact ih.mp ⟨xs.2, rest⟩ i p here
      · intro fits
        have first : q.Fits arguments.head? := List.head?_eq_getElem? ▸ fits 0 q rfl
        obtain ⟨x, takes⟩ := Parameter.fits_iff.mp first
        have others : ∀ i, FitsAt ps arguments.tail i := by
          intro i p here
          rw [List.getElem?_tail]
          exact fits (i + 1) p here
        obtain ⟨xs, rest⟩ := ih.mpr others
        exact ⟨(x, xs), takes, rest⟩

/-- A check that passes hands the value on. -/
theorem supply_cons_of_takes {x : p.Carrier} (h : p.Takes arguments.head? x)
    (f : Curried (Except Failure Value) (p :: ps)) :
    supply expected found (p :: ps) f arguments = supply expected found ps (f x) arguments.tail := by
  cases arguments with
  | nil =>
      have missing : p.missing? = some x := h
      rw [supply, missing, List.tail_nil]
  | cons v rest =>
      have converted : p.convert v = .ok x := h
      rw [supply, converted, List.tail_cons]

theorem supply_cons_of_refuses {failure : Failure}
    (h : p.Refuses expected found arguments.head? failure)
    (f : Curried (Except Failure Value) (p :: ps)) :
    supply expected found (p :: ps) f arguments = .error failure := by
  cases arguments with
  | nil =>
      obtain ⟨required, rfl⟩ := h
      have missing : p.missing? = none :=
        Option.eq_none_iff_forall_ne_some.mpr fun x some =>
          required (Parameter.exists_missing?_iff.mp ⟨x, some⟩)
      rw [supply, missing]
  | cons v rest =>
      obtain ⟨e, refused, rfl⟩ := h
      rw [supply, refused]

theorem supply_of_takesAll {xs : Arguments ps} (h : TakesAll ps arguments xs)
    (f : Curried (Except Failure Value) ps) :
    supply expected found ps f arguments = Curried.applyTo ps f xs := by
  induction ps generalizing arguments with
  | nil => rfl
  | cons p ps ih =>
      obtain ⟨first, rest⟩ := h
      rw [supply_cons_of_takes first, ih rest]
      rfl

/-- The first check that fails decides. -/
theorem supply_of_refuses {i : Nat} {failure : Failure}
    (before : ∀ j < i, FitsAt ps arguments j) (here : ps[i]? = some p)
    (refuses : p.Refuses expected found arguments[i]? failure)
    (f : Curried (Except Failure Value) ps) :
    supply expected found ps f arguments = .error failure := by
  induction i generalizing ps arguments with
  | zero =>
      obtain ⟨rest, rfl⟩ := List.head?_eq_some_iff.mp (List.head?_eq_getElem?.trans here)
      exact supply_cons_of_refuses (List.head?_eq_getElem? ▸ refuses) f
  | succ i ih =>
      cases ps with
      | nil => cases here
      | cons q ps =>
          have first : q.Fits arguments.head? :=
            List.head?_eq_getElem? ▸ before 0 (Nat.zero_lt_succ i) q rfl
          obtain ⟨x, takes⟩ := Parameter.fits_iff.mp first
          rw [supply_cons_of_takes takes]
          refine ih (fun j lt r param => ?_) here (List.getElem?_tail ▸ refuses) (f x)
          rw [List.getElem?_tail]
          exact before (j + 1) (Nat.succ_lt_succ lt) r param

/-- Behind arguments for all but optional parameters, an absent argument is as good as none, whatever the
number of arguments is taken to be. -/
theorem supply_append_absent (found' count : Nat)
    (optional : ∀ p ∈ ps.drop arguments.length, p.IsOptional)
    (f : Curried (Except Failure Value) ps) :
    supply expected found ps f (arguments ++ List.replicate count .none) =
      supply expected found' ps f arguments := by
  induction ps generalizing arguments count with
  | nil => rfl
  | cons p ps ih =>
      cases arguments with
      | nil =>
          obtain ⟨here, others⟩ := List.forall_mem_cons.mp optional
          obtain ⟨x, missing⟩ := Parameter.exists_missing?_iff.mpr here
          have none : p.Takes (List.head? []) x := missing
          have given : p.Takes (List.replicate count Value.none).head? x := by
            cases count with
            | zero => exact none
            | succ count => exact (Parameter.takes_absent here x).mpr none
          rw [List.nil_append, supply_cons_of_takes given, supply_cons_of_takes none,
            List.tail_replicate]
          exact @ih [] (count - 1) others (f x)
      | cons v rest =>
          rw [List.cons_append, supply, supply]
          cases p.convert v with
          | error e => rfl
          | ok x => exact ih count optional (f x)

/-! ## All checks -/

section

variable (value : Parameter) (ps : List Parameter) (v : Value) (arguments : List Value)

/-- The function is entered with these values: whatever it is, the filter comes to what it gives. -/
def Enters (x : value.Carrier) (xs : Arguments ps) : Prop :=
  ∀ run, apply ⟨value, ps, run⟩ v arguments = Curried.applyTo ps (run x) xs

/-- The function is not called: whatever it is, the result is this failure. -/
def Rejects (failure : Failure) : Prop := ∀ run, apply ⟨value, ps, run⟩ v arguments = .error failure

/-- The first check that fails: the number of arguments, then the value, then the arguments from left to
right. -/
inductive FirstFailure : Failure → Prop
  | count (tooMany : ps.length < arguments.length) :
      FirstFailure (.reason (wrongCount ps.length arguments.length))
  | value {e : ArgumentError} (count : arguments.length ≤ ps.length)
      (refused : value.convert v = .error e) : FirstFailure (.reason (e.message "value"))
  | argument {x : value.Carrier} {i : Nat} {p : Parameter} {failure : Failure}
      (count : arguments.length ≤ ps.length) (converted : value.convert v = .ok x)
      (before : ∀ j < i, FitsAt ps arguments j) (here : ps[i]? = some p)
      (refuses : p.Refuses ps.length arguments.length arguments[i]? failure) : FirstFailure failure

end

variable {value : Parameter} {v : Value}

theorem apply_of_converted {x : value.Carrier} (count : arguments.length ≤ ps.length)
    (converted : value.convert v = .ok x)
    (run : value.Carrier → Curried (Except Failure Value) ps) :
    apply ⟨value, ps, run⟩ v arguments =
      supply ps.length arguments.length ps (run x) arguments := by
  rw [apply, if_neg (Nat.not_lt.mpr count)]
  dsimp only
  rw [converted]

theorem enters_of_takesAll {x : value.Carrier} {xs : Arguments ps}
    (count : arguments.length ≤ ps.length) (converted : value.convert v = .ok x)
    (takes : TakesAll ps arguments xs) : Enters value ps v arguments x xs := by
  intro run
  rw [apply_of_converted count converted, supply_of_takesAll takes]

theorem FirstFailure.rejects {failure : Failure} (h : FirstFailure value ps v arguments failure) :
    Rejects value ps v arguments failure := by
  intro run
  cases h with
  | count tooMany => rw [apply, if_pos tooMany]
  | value count refused =>
      rw [apply, if_neg (Nat.not_lt.mpr count)]
      dsimp only
      rw [refused]
  | argument count converted before here refuses =>
      rw [apply_of_converted count converted]
      exact supply_of_refuses before here refuses (run _)

/-- The checks pass, or there is a first one that fails. -/
theorem passes_or_fails (value : Parameter) (ps : List Parameter) (v : Value)
    (arguments : List Value) :
    (∃ x xs, arguments.length ≤ ps.length ∧ value.convert v = .ok x ∧ TakesAll ps arguments xs) ∨
      ∃ failure, FirstFailure value ps v arguments failure := by
  rcases Nat.lt_or_ge ps.length arguments.length with tooMany | count
  · exact .inr ⟨_, .count tooMany⟩
  cases converted : value.convert v with
  | error e => exact .inr ⟨_, .value count converted⟩
  | ok x =>
      by_cases fits : ∀ i, FitsAt ps arguments i
      · obtain ⟨xs, takes⟩ := exists_takesAll_iff.mpr fits
        exact .inl ⟨x, xs, count, rfl, takes⟩
      · -- The first of the parameters that do not fit is the one that fails.
        classical
        have unfit : ∃ i, ¬ FitsAt ps arguments i := not_forall.mp fits
        have before : ∀ j < Nat.find unfit, FitsAt ps arguments j :=
          fun j lt => not_not.mp (Nat.find_min unfit lt)
        obtain ⟨p, first⟩ := not_forall.mp (Nat.find_spec unfit)
        obtain ⟨here, wrong⟩ := Classical.not_imp.mp first
        obtain ⟨failure, refuses⟩ :=
          (p.fits_or_refuses ps.length arguments.length _).resolve_left wrong
        exact .inr ⟨failure, .argument count converted before here refuses⟩

/-- A function sees which values it is entered with. -/
theorem Enters.unique {x y : value.Carrier} {xs ys : Arguments ps}
    (h : Enters value ps v arguments x xs) (h' : Enters value ps v arguments y ys) :
    x = y ∧ xs = ys := by
  classical
  let run : value.Carrier → Curried (Except Failure Value) ps := fun z =>
    Curried.collect ps fun zs => if (z, zs) = (x, xs) then .ok .none else .error .aborted
  have same := (h run).symm.trans (h' run)
  rw [Curried.applyTo_collect, Curried.applyTo_collect, if_pos rfl] at same
  by_cases equal : (y, ys) = (x, xs)
  · exact ⟨(congrArg Prod.fst equal).symm, (congrArg Prod.snd equal).symm⟩
  · rw [if_neg equal] at same
    cases same

theorem Enters.not_rejects {x : value.Carrier} {xs : Arguments ps} {failure : Failure}
    (h : Enters value ps v arguments x xs) : ¬ Rejects value ps v arguments failure := by
  intro rejects
  have same := (h fun _ => Curried.collect ps fun _ => .ok .none).symm.trans (rejects _)
  rw [Curried.applyTo_collect] at same
  cases same

theorem enters_iff {x : value.Carrier} {xs : Arguments ps} :
    Enters value ps v arguments x xs ↔
      arguments.length ≤ ps.length ∧ value.convert v = .ok x ∧ TakesAll ps arguments xs := by
  constructor
  · intro h
    rcases passes_or_fails value ps v arguments with
      ⟨y, ys, count, converted, takes⟩ | ⟨failure, fails⟩
    · obtain ⟨rfl, rfl⟩ := h.unique (enters_of_takesAll count converted takes)
      exact ⟨count, converted, takes⟩
    · exact absurd fails.rejects h.not_rejects
  · rintro ⟨count, converted, takes⟩
    exact enters_of_takesAll count converted takes

theorem rejects_iff {failure : Failure} :
    Rejects value ps v arguments failure ↔ FirstFailure value ps v arguments failure := by
  constructor
  · intro h
    rcases passes_or_fails value ps v arguments with
      ⟨x, xs, count, converted, takes⟩ | ⟨failure', fails⟩
    · exact absurd h (enters_of_takesAll count converted takes).not_rejects
    · let run : value.Carrier → Curried (Except Failure Value) ps := fun _ =>
        Curried.collect ps fun _ => .ok .none
      cases (h run).symm.trans (fails.rejects run)
      exact fails
  · exact FirstFailure.rejects

theorem apply_append_absent {count : Nat} (fits : arguments.length + count ≤ ps.length)
    (optional : ∀ p ∈ ps.drop arguments.length, p.IsOptional)
    (run : value.Carrier → Curried (Except Failure Value) ps) :
    apply ⟨value, ps, run⟩ v (arguments ++ List.replicate count .none) =
      apply ⟨value, ps, run⟩ v arguments := by
  have long : (arguments ++ List.replicate count Value.none).length ≤ ps.length := by
    rw [List.length_append, List.length_replicate]
    exact fits
  have short : arguments.length ≤ ps.length := Nat.le_of_add_right_le fits
  rw [apply, apply, if_neg (Nat.not_lt.mpr long), if_neg (Nat.not_lt.mpr short)]
  dsimp only
  cases value.convert v with
  | error e => rfl
  | ok x => exact supply_append_absent arguments.length count optional (run x)

/-- For every signature, value and arguments: the function of a filter is entered if and only if there are
no more arguments than parameters, the value can be converted, so can every given argument, and every
omitted one is optional; then it is entered with the converted values. Otherwise the result is the failure
of the first check that fails, and the function is not called. An integer is converted if and only if it is
in the range of the type, and keeps its value. Giving `none` for any of the last parameters, where these are
optional, is the same as giving nothing. -/
theorem checks_in_order (value : Parameter) (ps : List Parameter) (v : Value)
    (arguments : List Value) :
    ((∃ x xs, Enters value ps v arguments x xs) ↔
      arguments.length ≤ ps.length ∧ (∃ x, value.convert v = .ok x) ∧
        ∀ i, FitsAt ps arguments i) ∧
    (∀ x xs, Enters value ps v arguments x xs ↔
      arguments.length ≤ ps.length ∧ value.convert v = .ok x ∧ TakesAll ps arguments xs) ∧
    (∀ failure, Rejects value ps v arguments failure ↔ FirstFailure value ps v arguments failure) ∧
    ((∃ x xs, Enters value ps v arguments x xs) ∨
      ∃ failure, Rejects value ps v arguments failure) ∧
    (∀ (t : IntegerType) (w : Value) (x : Int), (ArgumentType.integer t).convert w = .ok x ↔
      ∃ i : Int64, w = .integer i ∧ t.InRange i.toInt ∧ x = i.toInt) ∧
    (∀ (t : IntegerType) (i : Int64), ¬ t.InRange i.toInt →
      (ArgumentType.integer t).convert (.integer i) = .error (.outOfRange t i.toInt)) ∧
    ∀ count run, arguments.length + count ≤ ps.length →
      (∀ p ∈ ps.drop arguments.length, p.IsOptional) →
      apply ⟨value, ps, run⟩ v (arguments ++ List.replicate count .none) =
        apply ⟨value, ps, run⟩ v arguments := by
  refine ⟨?entered, fun x xs => enters_iff, fun failure => rejects_iff, ?decided,
    fun t w x => convert_integer_eq_ok, fun t i => convert_integer_out_of_range,
    fun count run fits optional => apply_append_absent fits optional run⟩
  case entered =>
    constructor
    · rintro ⟨x, xs, enters⟩
      obtain ⟨count, converted, takes⟩ := enters_iff.mp enters
      exact ⟨count, ⟨x, converted⟩, exists_takesAll_iff.mp ⟨xs, takes⟩⟩
    · rintro ⟨count, ⟨x, converted⟩, fits⟩
      obtain ⟨xs, takes⟩ := exists_takesAll_iff.mpr fits
      exact ⟨x, xs, enters_iff.mpr ⟨count, converted, takes⟩⟩
  case decided =>
    rcases passes_or_fails value ps v arguments with ⟨x, xs, passes⟩ | ⟨failure, fails⟩
    · exact .inl ⟨x, xs, enters_iff.mpr passes⟩
    · exact .inr ⟨failure, fails.rejects⟩

/-- The ellipsis is left out or absent, and an integer is too large for a byte. -/
theorem checks_in_order_truncatechars :
    let arguments : List Value := [.integer 2]
    arguments.length + 1 ≤ truncatechars.parameters.length ∧
      (∀ p ∈ truncatechars.parameters.drop arguments.length, p.IsOptional) ∧
      truncatechars.apply (.string "abc") [.integer 2, .none] =
        truncatechars.apply (.string "abc") [.integer 2] ∧
      ¬ IntegerType.u8.InRange (300 : Int64).toInt ∧
      (ArgumentType.integer .u8).convert (.integer 300) = .error (.outOfRange .u8 300) := by
  intro arguments
  have optional : ∀ p ∈ truncatechars.parameters.drop arguments.length, p.IsOptional :=
    List.forall_mem_cons.mpr ⟨⟨.string, rfl⟩, nofun⟩
  have large : ¬ IntegerType.u8.InRange (300 : Int64).toInt := by
    rw [← IntegerType.holds_iff]
    decide
  obtain ⟨-, -, -, -, -, outside, absent⟩ :=
    checks_in_order truncatechars.value truncatechars.parameters (.string "abc") arguments
  exact ⟨by decide, optional, absent 1 truncatechars.run (by decide) optional, large,
    outside .u8 300 large⟩

end Filter

end TextTemplate
