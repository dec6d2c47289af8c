import TextTemplate.Text.Quoted
import TextTemplate.Value.Basic

/-!
# Texts of values

A value has three texts. `display` is what a print tag writes: a string as it is, nothing for an
absent value. `literal` is the text inside a list or a map, which reads back as a literal. `debug`
names the kind of every part and is meant for diagnostics.
-/

namespace TextTemplate

/-- Joins texts with a separator between them. -/
def joinChars (separator : List Char) : List (List Char) → List Char
  | [] => []
  | [text] => text
  | text :: rest => text ++ separator ++ joinChars separator rest

namespace Value

open TextTemplate.Number

def boolText (b : Bool) : List Char :=
  if b then ['t', 'r', 'u', 'e'] else ['f', 'a', 'l', 's', 'e']

/-- A string literal in single quotes. -/
def stringLiteral (cs : List Char) : List Char :=
  let escaped := cs.flatMap fun c => if c = '\\' || c = '\'' then ['\\', c] else [c]
  '\'' :: escaped ++ ['\'']

mutual

/-- The text of a value inside a container. -/
def literal : Value → List Char
  | .undefined => []
  | .none => ['N', 'o', 'n', 'e']
  | .bool b => boolText b
  | .integer i => integerText i.toInt
  | .float x => FloatFormat.plain.write x
  | .string s => stringLiteral s.toList
  | .list items => '[' :: joinChars [',', ' '] (itemLiterals items) ++ [']']
  | .map entries => '\x7b' :: joinChars [',', ' '] (entryLiterals entries) ++ ['\x7d']
  | .object _ display _ _ _ => display.toList
  | .callable .. => ['<', 'c', 'a', 'l', 'l', 'a', 'b', 'l', 'e', '>']

def itemLiterals : List Value → List (List Char)
  | [] => []
  | v :: rest => v.literal :: itemLiterals rest

/-- A key stands between single quotes as it is. -/
def entryLiterals : List (String × Value) → List (List Char)
  | [] => []
  | (k, v) :: rest => ('\'' :: k.toList ++ ['\'', ':', ' '] ++ v.literal) :: entryLiterals rest

end

/-- The text that a print tag writes. -/
def displayChars : Value → List Char
  | .undefined | .none => []
  | .string s => s.toList
  | v => v.literal

def display (v : Value) : String := String.ofList v.displayChars

/-- The text of a value in an error message. -/
def literalText (v : Value) : String := String.ofList v.literal

instance : ToString Value := ⟨display⟩

/-! ## Text for diagnostics -/

/-- The name of a kind applied to one part. -/
def tagged (name : String) (part : List Char) : List Char := name.toList ++ '(' :: part ++ [')']

mutual

def debugChars : Value → List Char
  | .undefined => "Undefined".toList
  | .none => "None".toList
  | .bool b => tagged "Bool" (boolText b)
  | .integer i => tagged "Integer" (integerText i.toInt)
  | .float x => tagged "Float" (FloatFormat.marked.write x)
  | .string s => tagged "String" (Text.quote s.toList)
  | .list items => tagged "List" ('[' :: joinChars [',', ' '] (itemDebugs items) ++ [']'])
  | .map entries =>
    tagged "Map" ('\x7b' :: joinChars [',', ' '] (entryDebugs entries) ++ ['\x7d'])
  | .object _ _ debug _ _ => tagged "Object" debug.toList
  | .callable .. => "Fn(..)".toList

def itemDebugs : List Value → List (List Char)
  | [] => []
  | v :: rest => v.debugChars :: itemDebugs rest

def entryDebugs : List (String × Value) → List (List Char)
  | [] => []
  | (k, v) :: rest => (Text.quote k.toList ++ [':', ' '] ++ v.debugChars) :: entryDebugs rest

end

def debug (v : Value) : String := String.ofList v.debugChars

/-- The diagnostic text of a map. -/
def debugEntries (entries : List (String × Value)) : String :=
  String.ofList ('\x7b' :: joinChars [',', ' '] (entryDebugs entries) ++ ['\x7d'])

end Value

end TextTemplate
