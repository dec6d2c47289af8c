import TextTemplate.Failure
import TextTemplate.Value.Order

/-!
# Typed filters

A filter takes the piped value and up to a fixed number of literal arguments, each of a declared
type. `Filter.apply` checks a use against the signature before the function of the filter runs:
first the number of arguments, then the value, then the arguments from left to right. An optional
parameter may be left out, and an absent value stands for leaving it out.
-/

namespace TextTemplate

/-- The integer types that a parameter may have. -/
inductive IntegerType where
  | u8 | u16 | u32 | u64 | usize | i8 | i16 | i32 | i64
deriving DecidableEq, Repr

namespace IntegerType

def name : IntegerType → String
  | .u8 => "u8"
  | .u16 => "u16"
  | .u32 => "u32"
  | .u64 => "u64"
  | .usize => "usize"
  | .i8 => "i8"
  | .i16 => "i16"
  | .i32 => "i32"
  | .i64 => "i64"

/-- The least and the greatest integer of the type. -/
def bounds : IntegerType → Int × Int
  | .u8 => (0, UInt8.size - 1)
  | .u16 => (0, UInt16.size - 1)
  | .u32 => (0, UInt32.size - 1)
  | .u64 | .usize => (0, UInt64.size - 1)
  | .i8 => (Int8.minValue.toInt, Int8.maxValue.toInt)
  | .i16 => (Int16.minValue.toInt, Int16.maxValue.toInt)
  | .i32 => (Int32.minValue.toInt, Int32.maxValue.toInt)
  | .i64 => (Int64.minValue.toInt, Int64.maxValue.toInt)

def holds (t : IntegerType) (i : Int) : Bool := t.bounds.1 ≤ i && i ≤ t.bounds.2

end IntegerType

/-- The types of the values that a filter works on. -/
inductive ArgumentType where
  /-- Any value as it is. -/
  | value
  | bool
  | integer (type : IntegerType)
  | float
  | string
  | list
  | map
deriving DecidableEq, Repr

/-- The type that the function of a filter sees. -/
abbrev ArgumentType.Carrier : ArgumentType → Type
  | .value => Value
  | .bool => Bool
  | .integer _ => Int
  | .float => Float
  | .string => String
  | .list => List Value
  | .map => NameMap Value

/-- Why a value or an argument does not fit its parameter, or the arguments their number. -/
inductive ArgumentError where
  | wrongType (expected found : String)
  | outOfRange (type : IntegerType) (i : Int)
deriving DecidableEq, Repr

/-- The text of an error about the part called `what`. -/
def ArgumentError.message (what : String) : ArgumentError → String
  | .wrongType expected found => s!"filter expected {expected} {what}, found {found}"
  | .outOfRange type i => s!"filter expected {type.name} {what}, but {i} is out of range"

/-- Converts a value to a type. Integers convert to floats, nothing else changes its kind. -/
def ArgumentType.convert : (t : ArgumentType) → Value → Except ArgumentError t.Carrier
  | .value, v => .ok v
  | .bool, .bool b => .ok b
  | .bool, v => .error (.wrongType "bool" v.kind)
  | .integer t, .integer i =>
    if t.holds i.toInt then .ok i.toInt else .error (.outOfRange t i.toInt)
  | .integer _, v => .error (.wrongType "integer" v.kind)
  | .float, .float x => .ok x
  | .float, .integer i => .ok (Value.toDouble i)
  | .float, v => .error (.wrongType "float" v.kind)
  | .string, .string s => .ok s
  | .string, v => .error (.wrongType "string" v.kind)
  | .list, .list items => .ok items
  | .list, v => .error (.wrongType "list" v.kind)
  | .map, .map entries => .ok entries
  | .map, v => .error (.wrongType "map" v.kind)

/-- A parameter of a filter. -/
inductive Parameter where
  | required (type : ArgumentType)
  | optional (type : ArgumentType)
deriving DecidableEq, Repr

namespace Parameter

abbrev Carrier : Parameter → Type
  | .required t => t.Carrier
  | .optional t => Option t.Carrier

/-- Converts a value that is given. For an optional parameter an absent value is none at all. -/
def convert : (p : Parameter) → Value → Except ArgumentError p.Carrier
  | .required t, v => t.convert v
  | .optional _, .none => .ok none
  | .optional _, .undefined => .ok none
  | .optional t, v => (t.convert v).map some

/-- What stands for a parameter that is left out, if it may be. -/
def missing? : (p : Parameter) → Option p.Carrier
  | .required _ => none
  | .optional _ => some none

end Parameter

/-- A function of the given parameters, one after the other. -/
abbrev Curried (result : Type) : List Parameter → Type
  | [] => result
  | p :: rest => p.Carrier → Curried result rest

/-- A filter: its parameters and its function, which may fail. -/
structure Filter where
  value : Parameter
  parameters : List Parameter
  run : value.Carrier → Curried (Except Failure Value) parameters

namespace Filter

def wrongCount (expected found : Nat) : String :=
  s!"filter expected {expected} arguments, found {found}"

/-- Supplies the arguments of a function from left to right; the number of parameters and of
arguments are for the message about a missing one. -/
def supply (expected found : Nat) : (ps : List Parameter) → Curried (Except Failure Value) ps →
    List Value → Except Failure Value
  | [], result, _ => result
  | p :: ps, f, [] =>
    match p.missing? with
    | some x => supply expected found ps (f x) []
    | none => .error (.reason (wrongCount expected found))
  | p :: ps, f, v :: vs =>
    match p.convert v with
    | .ok x => supply expected found ps (f x) vs
    | .error e => .error (.reason (e.message "argument"))

/-- Checks the use of a filter and runs it. -/
def apply (filter : Filter) (value : Value) (arguments : List Value) : Except Failure Value :=
  if filter.parameters.length < arguments.length then
    .error (.reason (wrongCount filter.parameters.length arguments.length))
  else
    match filter.value.convert value with
    | .error e => .error (.reason (e.message "value"))
    | .ok x =>
      supply filter.parameters.length arguments.length filter.parameters (filter.run x) arguments

end Filter

end TextTemplate
