import TextTemplate.Error.Basic
import TextTemplate.Value.Basic

/-!
# Serial descriptions

Data of a program reaches a template as a description of its parts in the usual model of
serialization: numbers of all widths, options, tuples, structs and enum variants. `Serial.toValue`
maps a description to a value. Structs and maps become maps, everything that is a sequence becomes a
list, and a variant with content becomes a map with the name of the variant as its only key.

Parts are visited in order, and the first that cannot be represented is the error.
-/

namespace TextTemplate

/-- The widths of integers in a description. -/
inductive IntegerWidth where
  | i8 | i16 | i32 | i64 | i128 | u8 | u16 | u32 | u64 | u128
deriving DecidableEq, Repr

def IntegerWidth.name : IntegerWidth → String
  | .i8 => "i8"
  | .i16 => "i16"
  | .i32 => "i32"
  | .i64 => "i64"
  | .i128 => "i128"
  | .u8 => "u8"
  | .u16 => "u16"
  | .u32 => "u32"
  | .u64 => "u64"
  | .u128 => "u128"

/-- Whether integers of this width can be described at all. -/
def IntegerWidth.isSupported : IntegerWidth → Bool
  | .i128 | .u128 => false
  | _ => true

/-- The two parts of an entry of a map. -/
inductive MapPart where
  | key
  | value
deriving DecidableEq, Repr

inductive Serial where
  | bool (b : Bool)
  | integer (width : IntegerWidth) (n : Int)
  /-- A number in single precision. -/
  | single (x : Float)
  | double (x : Float)
  | char (c : Char)
  | string (s : String)
  | bytes (bytes : List UInt8)
  /-- An absent option. -/
  | absent
  | present (content : Serial)
  | unit
  | unitStruct
  | unitVariant (name : String)
  | newtypeStruct (content : Serial)
  | newtypeVariant (name : String) (content : Serial)
  | sequence (items : List Serial)
  | tupleVariant (name : String) (items : List Serial)
  /-- A map, whose keys and values are handed over one by one. -/
  | mapParts (parts : List (MapPart × Serial))
  | struct (fields : List (String × Serial))
  | structVariant (name : String) (fields : List (String × Serial))
  /-- Data that fails to describe itself. -/
  | failure (reason : String)
deriving Inhabited

namespace Serial

/-- A map whose entries are handed over with the key in front of the value. -/
abbrev map (entries : List (Serial × Serial)) : Serial :=
  .mapParts (entries.flatMap fun (key, value) => [(.key, key), (.value, value)])

/-- A map whose first value comes without a key. -/
abbrev mapValueFirst (value : Serial) : Serial := .mapParts [(.value, value)]

def refuse {α : Type} (reason : String) : Except Cause α := .error (.unserializable reason)

def unsupported (width : IntegerWidth) : String := s!"{width.name} is not supported"

/-- The text of a map key: scalars with an obvious text can be keys. -/
def keyText : Serial → Except Cause String
  | .bool b => .ok (if b then "true" else "false")
  | .integer width n =>
    if width.isSupported then .ok (String.ofList (Number.integerText n))
    else refuse (unsupported width)
  | .char c => .ok (String.singleton c)
  | .string s => .ok s
  | .present content => content.keyText
  | .newtypeStruct content => content.keyText
  | .unitVariant name => .ok name
  | .failure reason => refuse reason
  | _ => refuse "map key must be a string"

/-- A value under the name of a variant. -/
def variant (name : String) (v : Value) : Value := .map [(name, v)]

/-- The value of an integer. -/
def integerValue (width : IntegerWidth) (n : Int) : Except Cause Value :=
  if !width.isSupported then refuse (unsupported width)
  else if Int64.minValue.toInt ≤ n && n ≤ Int64.maxValue.toInt then .ok (.integer (Int64.ofInt n))
  else refuse "out of range integral type conversion attempted"

mutual

def toValue : Serial → Except Cause Value
  | .bool b => .ok (.bool b)
  | .integer width n => integerValue width n
  | .single x => .ok (.float (Number.roundTo .single x))
  | .double x => .ok (.float x)
  | .char c => .ok (.string (String.singleton c))
  | .string s => .ok (.string s)
  | .bytes data => .ok (.list (data.map fun b => .integer (Int64.ofInt b.toNat)))
  | .absent | .unit | .unitStruct => .ok .none
  | .present content => content.toValue
  | .unitVariant name => .ok (.string name)
  | .newtypeStruct content => content.toValue
  | .newtypeVariant name content => content.toValue.map (variant name)
  | .sequence items => (itemValues items).map .list
  | .tupleVariant name items => (itemValues items).map fun vs => variant name (.list vs)
  | .mapParts parts => (partValues none [] parts).map .map
  | .struct fields => (fieldValues [] fields).map .map
  | .structVariant name fields => (fieldValues [] fields).map fun m => variant name (.map m)
  | .failure reason => refuse reason

def itemValues : List Serial → Except Cause (List Value)
  | [] => .ok []
  | item :: rest => item.toValue.bind fun v => (itemValues rest).map fun vs => v :: vs

/-- Adds the entries to `m` one after the other. A key waits for the value that comes next; another
key takes its place. -/
def partValues (waiting : Option String) (m : NameMap Value) :
    List (MapPart × Serial) → Except Cause (NameMap Value)
  | [] => .ok m
  | (.key, key) :: rest => key.keyText.bind fun k => partValues (some k) m rest
  | (.value, value) :: rest =>
    match waiting with
    | none => refuse "map value serialized before its key"
    | some k => value.toValue.bind fun v => partValues none (m.insert k v) rest

def fieldValues (m : NameMap Value) : List (String × Serial) → Except Cause (NameMap Value)
  | [] => .ok m
  | (name, value) :: rest => value.toValue.bind fun v => fieldValues (m.insert name v) rest

end

end Serial

namespace Value

mutual

/-- A value as data: an object is its text, absent values and callables are nothing. -/
def serial : Value → Serial
  | .undefined | .none | .callable .. => .unit
  | .bool b => .bool b
  | .integer i => .integer .i64 i.toInt
  | .float x => .double x
  | .string s => .string s
  | .list items => .sequence (itemSerials items)
  | .map entries => .map (entrySerials entries)
  | .object _ display _ _ _ => .string display

def itemSerials : List Value → List Serial
  | [] => []
  | v :: rest => v.serial :: itemSerials rest

def entrySerials : List (String × Value) → List (Serial × Serial)
  | [] => []
  | (k, v) :: rest => (.string k, v.serial) :: entrySerials rest

end

/-- A value after it was taken apart and put together again as data. -/
def reserialized (v : Value) : Except Cause Value := v.serial.toValue

end Value

end TextTemplate
