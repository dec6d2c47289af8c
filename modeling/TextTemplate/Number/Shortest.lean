import TextTemplate.Number.Double

/-!
# The shortest decimal that reads back

Among all decimals that round to a given double, `shortest` takes one with the fewest digits, and
among those the nearest. A double owns the reals between the midpoints to its neighbours, the
midpoints themselves when its mantissa is even. On the grid of decimals with `n` digits only the
two neighbours of the double need testing: if any point of the grid lies in the interval, one of
these two does.
-/

namespace TextTemplate.Number

/-- The reals that round to a positive double: `value`, `low` and `high` are numerators over
`den`. -/
structure Rounding where
  value : Nat
  low : Nat
  high : Nat
  den : Nat
  /-- Whether the two ends belong to the interval. -/
  closed : Bool

/-- The interval of `mantissa * 2 ^ exponent`. Below a power of two the neighbour is only half as
far away, except at the least exponent. -/
def Rounding.of (mantissa : Nat) (exponent : Int) : Rounding :=
  let below := if mantissa = leadingDigit && exponent != -1074 then 1 else 2
  let unit := if 2 ≤ exponent then 1 <<< (exponent - 2).toNat else 1
  { value := 4 * mantissa * unit
    low := (4 * mantissa - below) * unit
    high := (4 * mantissa + 2) * unit
    den := if 2 ≤ exponent then 1 else 1 <<< (2 - exponent).toNat
    closed := mantissa % 2 == 0 }

/-- Whether the decimal `digits * 10 ^ place` lies in the interval. -/
def Rounding.holds (r : Rounding) (digits : Nat) (place : Int) : Bool :=
  let up := Nat.pow 10 place.toNat
  let down := Nat.pow 10 (-place).toNat
  let x := digits * up * r.den
  if r.closed then r.low * down ≤ x && x ≤ r.high * down
  else r.low * down < x && x < r.high * down

/-- The least `k ≤ bound` with `den ≤ num * 10 ^ k`. -/
def leadingZeros (num den : Nat) : Nat → Nat
  | 0 => 0
  | bound + 1 => if den ≤ num then 0 else leadingZeros (num * 10) den bound + 1

/-- The place of the first digit of a positive ratio: it is at least `10 ^ place` and less than
`10 ^ (place + 1)`. -/
def firstPlace (num den : Nat) : Int :=
  if den ≤ num then ((Nat.toDigits 10 (num / den)).length : Int) - 1
  else -(leadingZeros num den 400 : Int)

/-- The decimal with `count` digits nearest to the double among those in its interval; an exact tie
goes up. -/
def Rounding.nearest? (r : Rounding) (count : Nat) : Option (Nat × Int) :=
  let place : Int := firstPlace r.value r.den - (count - 1)
  let num := r.value * Nat.pow 10 (-place).toNat
  let den := r.den * Nat.pow 10 place.toNat
  let under := num / den
  let roundUp := den ≤ 2 * (num % den)
  match r.holds under place, r.holds (under + 1) place with
  | true, true => some (if roundUp then under + 1 else under, place)
  | true, false => some (under, place)
  | false, true => some (under + 1, place)
  | false, false => none

/-- Drops trailing zeros of `digits * 10 ^ place`. -/
def dropZeros : Nat → Nat × Int → Nat × Int
  | 0, d => d
  | bound + 1, (digits, place) =>
    if digits % 10 = 0 && digits != 0 then dropZeros bound (digits / 10, place + 1)
    else (digits, place)

/-- The decimal `digits * 10 ^ place` with the fewest digits that rounds to the positive double
`mantissa * 2 ^ exponent`; seventeen digits always suffice. -/
def shortest (mantissa : Nat) (exponent : Int) : Nat × Int :=
  let r := Rounding.of mantissa exponent
  let found := (List.range 17).findSome? fun i => r.nearest? (i + 1)
  dropZeros 20 (found.getD (0, 0))

end TextTemplate.Number
