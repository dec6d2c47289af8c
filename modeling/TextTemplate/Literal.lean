import TextTemplate.Text.Letter
import TextTemplate.Value.Text

/-!
# Literals

The constants that may be written in a template: numbers, strings, booleans, none, lists, tuples
(which become lists) and dicts. `Literal.parse` reads a whole text as one literal; where it fails,
the text is a variable or a call.

A reader takes a value off the front of a text. The item reader recurses on the number of brackets
that may still be opened, the loops over the members of a bracket on the number of characters left,
since every member takes at least one.
-/

namespace TextTemplate.Literal

open TextTemplate.Text TextTemplate.Number

/-- Reads a part off the front of a text and leaves the rest. -/
abbrev Reader (α : Type) := List Char → Option (α × List Char)

/-- The deepest that brackets may nest. -/
def maxNesting : Nat := 128

/-- Consumes `c`, which blanks may precede. -/
def eat (c : Char) (cs : List Char) : Option (List Char) :=
  match trimStart cs with
  | d :: rest => if d = c then some rest else none
  | [] => none

/-! ## Strings -/

/-- What a backslash and `c` stand for; a backslash in front of any other character stays. -/
def unescape (c : Char) : List Char :=
  match c with
  | 'n' => ['\n']
  | 'r' => ['\r']
  | 't' => ['\t']
  | '0' => ['\x00']
  | '\\' => ['\\']
  | '\'' => ['\'']
  | '"' => ['"']
  | c => ['\\', c]

/-- Reads the characters of a string up to its closing quote. -/
def stringBody (quote : Char) : Reader (List Char)
  | [] => none
  | c :: rest =>
    if c = quote then some ([], rest)
    else if c = '\\' then
      match rest with
      | [] => none
      | e :: rest => (stringBody quote rest).map fun (s, rest) => (unescape e ++ s, rest)
    else (stringBody quote rest).map fun (s, rest) => (c :: s, rest)

/-! ## Numbers -/

/-- Splits off the characters of an unsigned number. A sign belongs to it directly behind an `e`,
unless the number is hexadecimal. -/
def numberChars (hexadecimal : Bool) (previous : Char) : List Char → List Char × List Char
  | [] => ([], [])
  | c :: rest =>
    let exponentSign :=
      (c = '-' || c = '+') && (previous = 'e' || previous = 'E') && !hexadecimal
    if c.isAlphanum || c = '_' || c = '.' || exponentSign then
      let (raw, rest) := numberChars hexadecimal c rest
      (c :: raw, rest)
    else ([], c :: rest)

/-- The value of a digit in the given radix. -/
def digitValue (radix : Nat) (c : Char) : Option Nat :=
  let n :=
    if c.isDigit then c.toNat - '0'.toNat
    else if 'a' ≤ c && c ≤ 'z' then c.toNat - 'a'.toNat + 10
    else if 'A' ≤ c && c ≤ 'Z' then c.toNat - 'A'.toNat + 10
    else radix
  if n < radix then some n else none

/-- The radix that a number is written in and the digits behind its mark. -/
def radixOf : List Char → Nat × List Char
  | '0' :: 'b' :: digits | '0' :: 'B' :: digits => (2, digits)
  | '0' :: 'o' :: digits | '0' :: 'O' :: digits => (8, digits)
  | '0' :: 'x' :: digits | '0' :: 'X' :: digits => (16, digits)
  | digits => (10, digits)

/-- The integer with the given value, if it fits into 64 bits. -/
def fitting? (n : Int) : Option Int64 :=
  if Int64.minValue.toInt ≤ n && n ≤ Int64.maxValue.toInt then some (Int64.ofInt n) else none

/-- Takes one more digit into a number: the number so far times the radix, plus the digit, or minus it
in a negative number. Neither result may leave the 64 bits. -/
def addDigit (radix : Nat) (negative : Bool) (n : Int64) (c : Char) : Option Int64 :=
  (digitValue radix c).bind fun d =>
    (fitting? (n.toInt * radix)).bind fun scaled =>
      fitting? (if negative then scaled.toInt - d else scaled.toInt + d)

/-- Digits with underscores that count for nothing; the last one may not be an underscore. -/
def integer? (negative : Bool) (raw : List Char) : Option Int64 :=
  let (radix, digits) := radixOf raw
  if digits.isEmpty || digits.getLast? == some '_' then none
  else (digits.filter (· != '_')).foldlM (addDigit radix negative) 0

/-- A finite double; underscores count for nothing. -/
def double? (negative : Bool) (raw : List Char) : Option Float :=
  match raw with
  | [] => none
  | c :: _ =>
    if c.isDigit || c = '.' then
      (readMagnitude negative (raw.filter (· != '_'))).filter fun x =>
        match magnitude x with
        | .finite .. => true
        | _ => false
    else none

/-- Reads a number: an integer if it is one that fits, else a double. -/
def number : Reader Value := fun cs =>
  let (negative, digits) := takeSign cs
  let hexadecimal := ['0', 'x'].isPrefixOf digits
  let (raw, rest) := numberChars hexadecimal ' ' digits
  match integer? negative raw with
  | some i => some (.integer i, rest)
  | none => (double? negative raw).map fun x => (.float x, rest)

/-! ## Constants -/

def constant? (word : String) : Option Value :=
  match word with
  | "True" | "true" => some (.bool true)
  | "False" | "false" => some (.bool false)
  | "None" | "none" | "null" => some .none
  | _ => none

def isWordPart (c : Char) : Bool := isAlphanumeric c || c = '_'

/-- Reads a constant, which extends as far as word characters do. -/
def constant : Reader Value := fun cs =>
  (constant? (String.ofList (cs.takeWhile isWordPart))).map fun v => (v, cs.dropWhile isWordPart)

/-! ## Brackets -/

/-- Reads members up to the closing character, or to the end of the text if there is none. A comma
may follow the last member. Also tells whether there was a comma. -/
def sequence (item : Reader Value) (close : Option Char) : Nat → Reader (List Value × Bool)
  | 0, cs => some (([], false), cs)
  | fuel + 1, cs =>
    let cs := trimStart cs
    if cs.head? = none || cs.head? = close then some (([], false), cs)
    else (item cs).bind fun (v, rest) =>
      match eat ',' rest with
      | none => some (([v], false), rest)
      | some rest =>
        (sequence item close fuel rest).map fun ((vs, _), rest) => ((v :: vs, true), rest)

/-- A sequence of one member without a comma is that member; an empty sequence is a list only
between brackets. -/
def sequenceValue (close : Option Char) : List Value × Bool → Option Value
  | ([v], false) => some v
  | ([], _) => if close.isNone then none else some (.list [])
  | (vs, _) => some (.list vs)

/-- Reads the members of a list behind its opening bracket. -/
def listItems (item : Reader Value) : Nat → Reader (List Value)
  | 0, _ => none
  | fuel + 1, cs =>
    match eat ']' cs with
    | some rest => some ([], rest)
    | none => (item cs).bind fun (v, rest) =>
      match eat ',' rest with
      | some rest => (listItems item fuel rest).map fun (vs, rest) => (v :: vs, rest)
      | none => (eat ']' rest).map fun rest => ([v], rest)

/-- The text of a key: strings, integers and booleans can be keys. -/
def keyText : Value → Option String
  | .string s => some s
  | .integer i => some (String.ofList (integerText i.toInt))
  | .bool b => some (String.ofList (Value.boolText b))
  | _ => none

/-- Reads the entries of a dict behind its opening bracket, in the order in which they stand. -/
def dictEntries (item : Reader Value) : Nat → Reader (List (String × Value))
  | 0, _ => none
  | fuel + 1, cs =>
    match eat '\x7d' cs with
    | some rest => some ([], rest)
    | none => (item cs).bind fun (k, rest) =>
      (keyText k).bind fun key => (eat ':' rest).bind fun rest =>
        (item rest).bind fun (v, rest) =>
          match eat ',' rest with
          | some rest =>
            (dictEntries item fuel rest).map fun (es, rest) => ((key, v) :: es, rest)
          | none => (eat '\x7d' rest).map fun rest => ([(key, v)], rest)

/-- Reads what stands between brackets, behind the opening one. -/
def bracketed (item : Reader Value) (opening : Char) : Reader Value := fun cs =>
  if opening = '[' then
    (listItems item (cs.length + 1) cs).map fun (vs, rest) => (.list vs, rest)
  else if opening = '(' then
    (sequence item (some ')') (cs.length + 1) cs).bind fun (members, rest) =>
      (sequenceValue (some ')') members).bind fun v => (eat ')' rest).map fun rest => (v, rest)
  else
    (dictEntries item (cs.length + 1) cs).map fun (es, rest) =>
      (.map (NameMap.ofEntries es), rest)

/-- Reads one item in which at most `depth` brackets are open at the same time. -/
def item (depth : Nat) : Reader Value := fun cs =>
  match trimStart cs with
  | [] => none
  | c :: rest =>
    if c = '\'' || c = '"' then
      (stringBody c rest).map fun (s, rest) => (.string (String.ofList s), rest)
    else if c = '[' || c = '(' || c = '\x7b' then
      match depth with
      | 0 => none
      | depth + 1 => bracketed (item depth) c rest
    else if c.isDigit || c = '-' || c = '+' || c = '.' then number (c :: rest)
    else constant (c :: rest)

/-- Reads a whole text as a literal. Members separated by commas outside of brackets are a tuple. -/
def parseChars (cs : List Char) : Option Value :=
  (sequence (item maxNesting) none (cs.length + 1) cs).bind fun (members, rest) =>
    (sequenceValue none members).bind fun v =>
      if (trimStart rest).isEmpty then some v else none

def parse (text : String) : Option Value := parseChars text.toList

end TextTemplate.Literal
