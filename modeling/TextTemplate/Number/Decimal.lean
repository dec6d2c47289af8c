import TextTemplate.Number.Shortest

/-!
# Decimal texts of numbers

Writing a double: `plain` is positional with no exponent and no trailing `.0`, `marked` always shows
that the number is a double. Reading: `readDouble` takes an optional sign, digits with an optional
point and an optional exponent, or one of the words for infinity and not-a-number.
-/

namespace TextTemplate.Number

/-- The decimal digits of a natural number. -/
def digitsOf (n : Nat) : List Char := Nat.toDigits 10 n

/-- The text of an integer. -/
def integerText (i : Int) : List Char :=
  if i < 0 then '-' :: digitsOf i.natAbs else digitsOf i.natAbs

/-- The positional form of `digits * 10 ^ place`, with at least `fraction` digits behind the
point. -/
def positional (digits : List Char) (place : Int) (fraction : Nat) : List Char :=
  let point (whole part : List Char) : List Char :=
    let part := part ++ List.replicate (fraction - part.length) '0'
    if part.isEmpty then whole else whole ++ '.' :: part
  if 0 ≤ place then point (digits ++ List.replicate place.toNat '0') []
  else
    let behind := (-place).toNat
    if behind < digits.length then
      point (digits.take (digits.length - behind)) (digits.drop (digits.length - behind))
    else point ['0'] (List.replicate (behind - digits.length) '0' ++ digits)

/-- One digit, a point and the others, and the exponent. -/
def exponential (digits : List Char) (place : Int) : List Char :=
  let exponent := place + (digits.length : Int) - 1
  let mantissa := match digits with
    | [] => []
    | [d] => [d]
    | d :: rest => d :: '.' :: rest
  mantissa ++ 'e' :: integerText exponent

/-- How the magnitude of a double is written: `whole` is the least number of digits behind the
point, and `usesExponent` tells from the place of the first digit when an exponent is used. -/
structure FloatFormat where
  fraction : Nat
  usesExponent : Int → Bool

/-- Digits only: never an exponent, and no point for a whole number. -/
def FloatFormat.plain : FloatFormat := ⟨0, fun _ => false⟩

/-- A point or an exponent always; an exponent from `10 ^ 16` on and below `10 ^ -4`. -/
def FloatFormat.marked : FloatFormat := ⟨1, fun first => first < -4 || 16 ≤ first⟩

def FloatFormat.write (format : FloatFormat) (x : Float) : List Char :=
  let sign := if isNegative x then ['-'] else []
  match magnitude x with
  | .nan => ['N', 'a', 'N']
  | .infinite => sign ++ ['i', 'n', 'f']
  | .finite 0 _ => sign ++ positional ['0'] 0 format.fraction
  | .finite mantissa exponent =>
    let (n, place) := shortest mantissa exponent
    let digits := digitsOf n
    let first := place + (digits.length : Int) - 1
    sign ++
      if format.usesExponent first then exponential digits place
      else positional digits place format.fraction

/-! ## Reading -/

/-- The value of a run of decimal digits. -/
def natOfDigits (cs : List Char) : Nat :=
  cs.foldl (fun n c => 10 * n + (c.toNat - '0'.toNat)) 0

/-- A sign in front of a number: whether it is a minus, and the rest. -/
def takeSign : List Char → Bool × List Char
  | '-' :: rest => (true, rest)
  | '+' :: rest => (false, rest)
  | rest => (false, rest)

/-- The exponent behind a mantissa: nothing, or `e`, an optional sign and digits. -/
def readExponent : List Char → Option Int
  | [] => some 0
  | c :: rest =>
    let (negative, digits) := takeSign rest
    if (c = 'e' || c = 'E') && !digits.isEmpty && digits.all Char.isDigit then
      let n : Int := natOfDigits digits
      some (if negative then -n else n)
    else none

/-- Reads digits with at most one point and an exponent, at least one digit in front of it. -/
def readMagnitude (negative : Bool) (cs : List Char) : Option Float :=
  let whole := cs.takeWhile Char.isDigit
  let afterWhole := cs.dropWhile Char.isDigit
  let (part, rest) := match afterWhole with
    | '.' :: rest => (rest.takeWhile Char.isDigit, rest.dropWhile Char.isDigit)
    | rest => ([], rest)
  if whole.isEmpty && part.isEmpty then none
  else (readExponent rest).map fun exponent =>
    ofDecimal negative (natOfDigits (whole ++ part)) (exponent - part.length)

/-- Reads a double. -/
def readDouble (cs : List Char) : Option Float :=
  let (negative, rest) := takeSign cs
  match rest.map Char.toLower with
  | ['i', 'n', 'f'] | ['i', 'n', 'f', 'i', 'n', 'i', 't', 'y'] =>
    some (ofRatio negative (1 <<< 1024) 1)
  | ['n', 'a', 'n'] => some (Float.ofBits 0x7ff8000000000000)
  | _ => readMagnitude negative rest

/-- Reads an integer: an optional sign and at least one digit. -/
def readInteger (cs : List Char) : Option Int :=
  let (negative, digits) := takeSign cs
  if digits.isEmpty || !digits.all Char.isDigit then none
  else
    let n : Int := natOfDigits digits
    some (if negative then -n else n)

end TextTemplate.Number
