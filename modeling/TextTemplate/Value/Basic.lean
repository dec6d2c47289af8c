import TextTemplate.NameMap
import TextTemplate.Number.Decimal
import TextTemplate.Text.Blank

/-!
# Values

The data that templates work on. Besides the usual scalars and containers there are objects, whose
attributes are looked up by name, and callables, which run when an expression resolves to them. A
failed lookup yields `undefined`, which is empty and false and equal to nothing.

Objects and callables have an identity: two of them are equal only if one is a copy of the other.
-/

namespace TextTemplate

/-- Tells one object or callable from another. -/
inductive Identity where
  /-- Shared by all renders. -/
  | shared (name : String)
  /-- Supplied with the data of a render. -/
  | supplied (serial : Nat)
  /-- Made in the course of a render. -/
  | made (serial : Nat)
deriving DecidableEq, Repr, Inhabited

/-- What a callable does when it is called. -/
inductive Function where
  /-- Whether a path is defined. -/
  | defined
  /-- The next less derived definition of the block that is being rendered. -/
  | super
  | now
  | range
  /-- A function of the program that uses the library. -/
  | host (name : String)
deriving DecidableEq, Repr, Inhabited

inductive Value where
  | undefined
  | none
  | bool (b : Bool)
  | integer (i : Int64)
  | float (x : Float)
  | string (s : String)
  | list (items : List Value)
  /-- Entries in increasing order of their keys. -/
  | map (entries : List (String × Value))
  /-- A record with a text for display, one for diagnostics, a truth value and attributes. -/
  | object (id : Identity) (display : String) (debug : String) (truth : Bool)
      (attributes : List (String × Value))
  | callable (id : Identity) (function : Function)
deriving Inhabited

namespace Value

instance : Coe String Value := ⟨.string⟩

/-- The name of the kind of a value, for error messages. -/
def kind : Value → String
  | .undefined => "undefined"
  | .none => "none"
  | .bool _ => "bool"
  | .integer _ => "integer"
  | .float _ => "float"
  | .string _ => "string"
  | .list _ => "list"
  | .map _ => "map"
  | .object .. => "object"
  | .callable .. => "callable"

/-- An integer from a natural number, the largest integer if it is too large. -/
def ofNat (n : Nat) : Value := .integer (Int64.ofInt (min (n : Int) Int64.maxValue.toInt))

def string? : Value → Option String
  | .string s => some s
  | _ => Option.none

def isUndefined : Value → Bool
  | .undefined => true
  | _ => false

/-- Whether a value counts as true in a condition or an or-chain. -/
def isTruthy : Value → Bool
  | .undefined | .none => false
  | .bool b => b
  | .integer i => i != 0
  | .float x => x != 0
  | .string s => s != ""
  | .list items => !items.isEmpty
  | .map entries => !entries.isEmpty
  | .object _ _ _ truth _ => truth
  | .callable .. => true

/-- The items that a value iterates over, if it is iterable: a map yields its keys, a string its
characters. -/
def iterate : Value → Option (List Value)
  | .undefined => some []
  | .string s => some (s.toList.map fun c => .string (String.singleton c))
  | .list items => some items
  | .map entries => some (entries.map fun e => .string e.1)
  | _ => Option.none

/-- The number of items, characters or entries. -/
def length : Value → Option Nat
  | .undefined => some 0
  | .string s => some s.toList.length
  | .list items => some items.length
  | .map entries => some entries.length
  | _ => Option.none

/-- A list position: decimal digits, which a plus sign may precede. -/
def position? (key : List Char) : Option Nat :=
  let digits := match key with
    | '+' :: rest => rest
    | rest => rest
  if digits.isEmpty || !digits.all Char.isDigit then Option.none
  else some (Number.natOfDigits digits)

/-- Follows one segment of a path: a key of a map, a position in a list or an attribute of an
object. -/
def lookup (key : String) : Value → Option Value
  | .map entries => NameMap.find? entries key
  | .list items => (position? key.toList).bind (items[·]?)
  | .object _ _ _ _ attributes => NameMap.find? attributes key
  | _ => Option.none

/-- Follows the segments of a path one after the other. -/
def follow (value : Value) : List String → Value
  | [] => value
  | key :: rest =>
    match value.lookup key with
    | some next => next.follow rest
    | Option.none => .undefined

end Value

end TextTemplate
