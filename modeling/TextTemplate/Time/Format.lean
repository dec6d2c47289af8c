import TextTemplate.Failure
import TextTemplate.Number.Decimal
import TextTemplate.Time.Calendar

/-!
# Formatting of moments

A format is a text with specifiers of the form `%x`. Reading a format gives a list of items or
fails. Writing the items of a moment succeeds unless one of them is only for reading moments. A
padding modifier (`-`, `0` or `_`) may stand in front of a specifier that is a single number.
-/

namespace TextTemplate.Time

open TextTemplate.Number

inductive Pad where
  | none
  | zero
  | space
deriving DecidableEq, Repr

/-- The numbers that can be written. -/
inductive NumberField where
  | year | century | yearOfCentury | isoYear | isoYearOfCentury | quarter | month | day
  | weekFromSunday | weekFromMonday | isoWeek | weekdayFromSunday | weekdayFromMonday | ordinal
  | hour | hour12 | minute | second | nanosecond | timestamp
deriving DecidableEq, Repr

/-- Names and other texts that take no padding. -/
inductive TextField where
  | shortMonth | longMonth | shortWeekday | longWeekday | lowerHalf | upperHalf
  /-- The fraction of the second with its point, as short as it is exact in groups of three. -/
  | fraction
  | fractionDigits (point : Bool) (digits : Nat)
  | zoneName | zoneOffset | zoneOffsetColon | zoneOffsetSeconds | zoneOffsetHours
  /-- Date, time and offset in the internet format. -/
  | internet
deriving DecidableEq, Repr

inductive Item where
  | literal (text : List Char)
  | number (field : NumberField) (pad : Pad)
  | text (field : TextField)
  /-- The offset of the zone with or without its minutes, which is only for reading. -/
  | looseOffset
deriving DecidableEq, Repr

/-! ## Reading a format -/

/-- The items of a specifier of one letter. -/
def specifier? (c : Char) : Option (List Item) :=
  let zero (f : NumberField) : Item := .number f .zero
  let lit (c : Char) : Item := .literal [c]
  match c with
  | 'A' => some [.text .longWeekday]
  | 'B' => some [.text .longMonth]
  | 'C' => some [zero .century]
  | 'D' | 'x' => some [zero .month, lit '/', zero .day, lit '/', zero .yearOfCentury]
  | 'F' => some [zero .year, lit '-', zero .month, lit '-', zero .day]
  | 'G' => some [zero .isoYear]
  | 'H' => some [zero .hour]
  | 'I' => some [zero .hour12]
  | 'M' => some [zero .minute]
  | 'P' => some [.text .lowerHalf]
  | 'R' => some [zero .hour, lit ':', zero .minute]
  | 'S' => some [zero .second]
  | 'T' | 'X' => some [zero .hour, lit ':', zero .minute, lit ':', zero .second]
  | 'U' => some [zero .weekFromSunday]
  | 'V' => some [zero .isoWeek]
  | 'W' => some [zero .weekFromMonday]
  | 'Y' => some [zero .year]
  | 'Z' => some [.text .zoneName]
  | 'a' => some [.text .shortWeekday]
  | 'b' | 'h' => some [.text .shortMonth]
  | 'c' =>
    some [.text .shortWeekday, lit ' ', .text .shortMonth, lit ' ', .number .day .space, lit ' ',
      zero .hour, lit ':', zero .minute, lit ':', zero .second, lit ' ', zero .year]
  | 'd' => some [zero .day]
  | 'e' => some [.number .day .space]
  | 'f' => some [zero .nanosecond]
  | 'g' => some [zero .isoYearOfCentury]
  | 'j' => some [zero .ordinal]
  | 'k' => some [.number .hour .space]
  | 'l' => some [.number .hour12 .space]
  | 'm' => some [zero .month]
  | 'n' => some [lit '\n']
  | 'p' => some [.text .upperHalf]
  | 'q' => some [.number .quarter .none]
  | 'r' =>
    some [zero .hour12, lit ':', zero .minute, lit ':', zero .second, lit ' ', .text .upperHalf]
  | 's' => some [.number .timestamp .none]
  | 't' => some [lit '\t']
  | 'u' => some [.number .weekdayFromMonday .none]
  | 'v' => some [.number .day .space, lit '-', .text .shortMonth, lit '-', zero .year]
  | 'w' => some [.number .weekdayFromSunday .none]
  | 'y' => some [zero .yearOfCentury]
  | 'z' => some [.text .zoneOffset]
  | '+' => some [.text .internet]
  | '%' => some [lit '%']
  | _ => none

/-- The items of the specifier behind a percent sign, and the rest of the format. -/
def takeSpecifier : List Char → Option (List Item × List Char)
  | '-' :: c :: rest => (padded .none c).map (·, rest)
  | '0' :: c :: rest => (padded .zero c).map (·, rest)
  | '_' :: c :: rest => (padded .space c).map (·, rest)
  | '#' :: 'z' :: rest => some ([.looseOffset], rest)
  | ':' :: ':' :: ':' :: 'z' :: rest => some ([.text .zoneOffsetHours], rest)
  | ':' :: ':' :: 'z' :: rest => some ([.text .zoneOffsetSeconds], rest)
  | ':' :: 'z' :: rest => some ([.text .zoneOffsetColon], rest)
  | '.' :: 'f' :: rest => some ([.text .fraction], rest)
  | '.' :: '3' :: 'f' :: rest => some ([.text (.fractionDigits true 3)], rest)
  | '.' :: '6' :: 'f' :: rest => some ([.text (.fractionDigits true 6)], rest)
  | '.' :: '9' :: 'f' :: rest => some ([.text (.fractionDigits true 9)], rest)
  | '3' :: 'f' :: rest => some ([.text (.fractionDigits false 3)], rest)
  | '6' :: 'f' :: rest => some ([.text (.fractionDigits false 6)], rest)
  | '9' :: 'f' :: rest => some ([.text (.fractionDigits false 9)], rest)
  | c :: rest => (specifier? c).map (·, rest)
  | [] => none
where
  /-- A specifier with a padding of its own, which must be a single number. -/
  padded (pad : Pad) (c : Char) : Option (List Item) :=
    match specifier? c with
    | some [.number field _] => some [.number field pad]
    | _ => none

/-- Reads a format of at most `fuel` items. -/
def readItems : Nat → List Char → Option (List Item)
  | 0, _ => some []
  | _, [] => some []
  | fuel + 1, '%' :: rest =>
    (takeSpecifier rest).bind fun (items, rest) => (readItems fuel rest).map (items ++ ·)
  | fuel + 1, c :: rest => (readItems fuel rest).map (.literal [c] :: ·)

/-- Reads a format; every item takes at least one character of it. -/
def Item.ofFormat? (format : List Char) : Option (List Item) := readItems format.length format

/-! ## Writing a moment -/

/-- Two digits of a number below 100; of a larger number the tens are written as one character. -/
def twoDigits (n : Nat) (pad : Pad) : List Char :=
  let ones := Char.ofNat ('0'.toNat + n % 10)
  if n / 10 = 0 then
    match pad with
    | .none => [ones]
    | .space => [' ', ones]
    | .zero => ['0', ones]
  else [Char.ofNat ('0'.toNat + n / 10), ones]

/-- A number with at least `width` digits, or with a sign and at least `width` digits. -/
def paddedNumber (width : Nat) (n : Int) (pad : Pad) (alwaysSigned : Bool) : List Char :=
  let digits := digitsOf n.natAbs
  let sign := if n < 0 then ['-'] else if alwaysSigned then ['+'] else []
  let total := if alwaysSigned then width + 1 else width
  let missing := total - (sign.length + digits.length)
  match pad with
  | .none => sign ++ digits
  | .zero => sign ++ List.replicate missing '0' ++ digits
  | .space => List.replicate missing ' ' ++ sign ++ digits

/-- A year has at least four digits, and a sign when it needs more or is negative. -/
def yearText (year : Int) (pad : Pad) : List Char :=
  paddedNumber 4 year pad (year < 0 || 10000 ≤ year)

/-- The lowest eight bits of a number. -/
def lowByte (n : Int) : Nat := (n % 256).toNat

def NumberField.write (m : Moment) (pad : Pad) : NumberField → List Char
  | .year => yearText m.year pad
  | .century => twoDigits (lowByte (m.year / 100)) pad
  | .yearOfCentury => twoDigits (m.year % 100).toNat pad
  | .isoYear => yearText m.isoYear pad
  | .isoYearOfCentury => twoDigits (m.isoYear % 100).toNat pad
  | .quarter => digitsOf ((m.month - 1) / 3 + 1)
  | .month => twoDigits m.month pad
  | .day => twoDigits m.day pad
  | .weekFromSunday => twoDigits (m.weeksFrom 6) pad
  | .weekFromMonday => twoDigits (m.weeksFrom 0) pad
  | .isoWeek => twoDigits m.isoWeek pad
  | .weekdayFromSunday => digitsOf ((m.weekday + 1) % 7)
  | .weekdayFromMonday => digitsOf (m.weekday + 1)
  | .ordinal => paddedNumber 3 m.ordinal pad false
  | .hour => twoDigits m.hour pad
  | .hour12 => twoDigits m.hour12 pad
  | .minute => twoDigits m.minute pad
  | .second => twoDigits m.second pad
  | .nanosecond => paddedNumber 9 m.nanosecond pad false
  | .timestamp => paddedNumber 9 m.timestamp pad false

def monthNames : List String :=
  ["January", "February", "March", "April", "May", "June", "July", "August", "September", "October",
    "November", "December"]

def weekdayNames : List String :=
  ["Monday", "Tuesday", "Wednesday", "Thursday", "Friday", "Saturday", "Sunday"]

def monthName (m : Moment) : List Char := (monthNames.getD (m.month - 1) "").toList

def weekdayName (m : Moment) : List Char := (weekdayNames.getD m.weekday "").toList

/-- The first digits of the fraction of a second. -/
def fractionText (m : Moment) (digits : Nat) : List Char :=
  paddedNumber digits (m.nanosecond / Nat.pow 10 (9 - digits)) .zero false

/-- The shortest exact fraction in groups of three digits, nothing for a whole second. -/
def shortFraction (m : Moment) : List Char :=
  if m.nanosecond = 0 then []
  else if m.nanosecond % 1000000 = 0 then '.' :: fractionText m 3
  else if m.nanosecond % 1000 = 0 then '.' :: fractionText m 6
  else '.' :: fractionText m 9

def TextField.write (m : Moment) : TextField → List Char
  | .shortMonth => (monthName m).take 3
  | .longMonth => monthName m
  | .shortWeekday => (weekdayName m).take 3
  | .longWeekday => weekdayName m
  | .lowerHalf => if m.hour < 12 then ['a', 'm'] else ['p', 'm']
  | .upperHalf => if m.hour < 12 then ['A', 'M'] else ['P', 'M']
  | .fraction => shortFraction m
  | .fractionDigits point digits => (if point then ['.'] else []) ++ fractionText m digits
  | .zoneName | .zoneOffsetColon => "+00:00".toList
  | .zoneOffset => "+0000".toList
  | .zoneOffsetSeconds => "+00:00:00".toList
  | .zoneOffsetHours => "+00".toList
  | .internet =>
    yearText m.year .zero ++ '-' :: twoDigits m.month .zero ++ '-' :: twoDigits m.day .zero ++
      'T' :: twoDigits m.hour .zero ++ ':' :: twoDigits m.minute .zero ++
      ':' :: twoDigits m.second .zero ++ shortFraction m ++ "+00:00".toList

/-- The text of an item, unless the item is only for reading. -/
def Item.write? (m : Moment) : Item → Option (List Char)
  | .literal cs => some cs
  | .number field pad => some (field.write m pad)
  | .text field => some (field.write m)
  | .looseOffset => none

/-- The moment in the given format. Writing an item that is only for reading breaks off. -/
def Moment.format (m : Moment) (format : String) : Except Failure String :=
  match Item.ofFormat? format.toList with
  | none => .error (.reason ("invalid format string '" ++ format ++ "'"))
  | some items =>
    match items.mapM (·.write? m) with
    | none => .error .aborted
    | some texts => .ok (String.ofList texts.flatten)

/-- Date and time with a space between them. -/
def Moment.standardFormat : String := "%Y-%m-%d %H:%M:%S"

end TextTemplate.Time
