/-!
# Double-precision numbers as exact rationals

A finite double is a whole number times a power of two. Everything that must be exact about a
double (its decimal text, reading a decimal text back) goes through this view: `magnitude` takes a
double apart and `ofRatio` rounds a ratio of whole numbers to the nearest double, ties to the even
neighbour.
-/

namespace TextTemplate.Number

/-- The magnitude of a double. -/
inductive Magnitude where
  | nan
  | infinite
  /-- The number `mantissa * 2 ^ exponent`. -/
  | finite (mantissa : Nat) (exponent : Int)
deriving DecidableEq, Repr

/-- The sign bit of a double. -/
def isNegative (x : Float) : Bool := x.toBits.toNat.testBit 63

/-- The leading digit of a mantissa, which the bits of a double leave out. -/
def leadingDigit : Nat := 1 <<< 52

def magnitude (x : Float) : Magnitude :=
  let bits := x.toBits.toNat
  let biased : Nat := bits / leadingDigit % 2048
  let fraction : Nat := bits % leadingDigit
  if biased = 2047 then if fraction = 0 then .infinite else .nan
  else if biased = 0 then .finite fraction (-1074)
  else .finite (fraction + leadingDigit) ((biased : Int) - 1075)

/-- The quotient rounded to the nearest whole number, a tie to the even one. -/
def divNearestEven (num den : Nat) : Nat :=
  let q := num / den
  let r := num % den
  if 2 * r > den || (2 * r == den && q % 2 == 1) then q + 1 else q

/-- A binary floating-point format: the number of digits of the mantissa, the exponent of the last
place of the smallest numbers, and the exponent that all numbers stay below. -/
structure Precision where
  digits : Nat
  least : Int
  bound : Nat
deriving DecidableEq, Repr

def Precision.double : Precision := ⟨53, -1074, 1024⟩

def Precision.single : Precision := ⟨24, -149, 128⟩

/-- The ratio `num / den` as a fraction of `2 ^ q`. -/
def scaleRatio (num den : Nat) (q : Int) : Nat × Nat :=
  if 0 ≤ q then (num, den <<< q.toNat) else (num <<< (-q).toNat, den)

/-- The exponent of the last place of the number nearest to `num / den`. -/
def Precision.lastPlace (p : Precision) (num den : Nat) : Int :=
  let low : Int := (num.log2 : Int) - den.log2 - p.digits
  let (n, d) := scaleRatio num den low
  max p.least (if n / d < 1 <<< p.digits then low else low + 1)

/-- The number `mantissa * 2 ^ exponent` of the format that is nearest to a positive ratio, none if
the ratio rounds to infinity. -/
def Precision.round? (p : Precision) (num den : Nat) : Option (Nat × Int) :=
  let q := p.lastPlace num den
  let (n, d) := scaleRatio num den q
  let m := divNearestEven n d
  let (m, q) := if m = 1 <<< p.digits then (1 <<< (p.digits - 1), q + 1) else (m, q)
  if (p.bound : Int) < q + p.digits then none else some (m, q)

/-- The bits of the double `mantissa * 2 ^ exponent`, whose mantissa has exactly 53 digits or whose
exponent is the least. -/
def bitsOf (mantissa : Nat) (exponent : Int) : Nat :=
  if mantissa < leadingDigit then mantissa
  else (exponent + 1075).toNat * leadingDigit + (mantissa - leadingDigit)

def infinityBits : Nat := 2047 * leadingDigit

/-- The double nearest to `num / den`. -/
def ofRatio (negative : Bool) (num den : Nat) : Float :=
  let bits :=
    if num = 0 then 0
    else match Precision.double.round? num den with
      | some (m, q) => bitsOf m q
      | none => infinityBits
  Float.ofBits (UInt64.ofNat (bits + if negative then 1 <<< 63 else 0))

/-- The double equal to the number of a smaller format nearest to `x`. -/
def roundTo (p : Precision) (x : Float) : Float :=
  match magnitude x with
  | .finite 0 _ => x
  | .finite m e =>
    let (n, d) := if 0 ≤ e then (m <<< e.toNat, 1) else (m, 1 <<< (-e).toNat)
    match p.round? n d with
    | some (m, q) =>
      if 0 ≤ q then ofRatio (isNegative x) (m <<< q.toNat) 1
      else ofRatio (isNegative x) m (1 <<< (-q).toNat)
    | none => ofRatio (isNegative x) (1 <<< 1024) 1
  | _ => x

/-- The whole part of a double, limited to 64 bits; zero for not-a-number. -/
def truncate (x : Float) : Int :=
  let whole : Nat := match magnitude x with
    | .nan => 0
    | .infinite => UInt64.size
    | .finite m e => if 0 ≤ e then m <<< e.toNat else m >>> (-e).toNat
  max Int64.minValue.toInt (min Int64.maxValue.toInt (if isNegative x then -whole else whole : Int))

/-- The double nearest to `digits * 10 ^ exponent`. Exponents that are certainly out of range are
settled first, so that no power of ten grows beyond the range of doubles. -/
def ofDecimal (negative : Bool) (digits : Nat) (exponent : Int) : Float :=
  let size : Int := (Nat.toDigits 10 digits).length + exponent
  if digits = 0 || size < -330 then ofRatio negative 0 1
  else if 310 < size then ofRatio negative (1 <<< 1024) 1
  else if 0 ≤ exponent then ofRatio negative (digits * Nat.pow 10 exponent.toNat) 1
  else ofRatio negative digits (Nat.pow 10 (-exponent).toNat)

end TextTemplate.Number
