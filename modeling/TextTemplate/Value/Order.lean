import TextTemplate.Value.Basic

/-!
# Equality, order and membership

Numbers of the two kinds compare by value. `undefined` equals nothing, itself included. Only values
of matching kinds are ordered; lists are ordered by their first difference and then by length.
-/

namespace TextTemplate.Value

open TextTemplate.Number

/-- The double nearest to an integer. -/
def toDouble (i : Int64) : Float := ofRatio (i.toInt < 0) i.toInt.natAbs 1

mutual

def same : Value → Value → Bool
  | .none, .none => true
  | .bool a, .bool b => a == b
  | .integer a, .integer b => a == b
  | .float a, .float b => a == b
  | .integer a, .float b => toDouble a == b
  | .float a, .integer b => toDouble b == a
  | .string a, .string b => a == b
  | .list a, .list b => sameItems a b
  | .map a, .map b => sameEntries a b
  | .object a _ _ _ _, .object b _ _ _ _ => a == b
  | .callable a _, .callable b _ => a == b
  | _, _ => false

def sameItems : List Value → List Value → Bool
  | [], [] => true
  | a :: as, b :: bs => a.same b && sameItems as bs
  | _, _ => false

def sameEntries : List (String × Value) → List (String × Value) → Bool
  | [], [] => true
  | (k, a) :: as, (l, b) :: bs => k == l && a.same b && sameEntries as bs
  | _, _ => false

end

/-- The order of two doubles, none if one is not a number. -/
def compareDoubles (a b : Float) : Option Ordering :=
  if a < b then some .lt
  else if a == b then some .eq
  else if b < a then some .gt
  else Option.none

def incomparable (a b : Value) : String := s!"cannot compare {a.kind} with {b.kind}"

mutual

/-- Orders two values of matching kinds. -/
def compare : Value → Value → Except String Ordering
  | .integer a, .integer b => .ok (Ord.compare a.toInt b.toInt)
  | .float a, .float b =>
    (compareDoubles a b).elim (.error (incomparable (.float a) (.float b))) .ok
  | .integer a, .float b =>
    (compareDoubles (toDouble a) b).elim (.error (incomparable (.integer a) (.float b))) .ok
  | .float a, .integer b =>
    (compareDoubles a (toDouble b)).elim (.error (incomparable (.float a) (.integer b))) .ok
  | .bool a, .bool b => .ok (Ord.compare a.toNat b.toNat)
  | .string a, .string b => .ok (compareOfLessAndEq a b)
  | .list a, .list b => compareItems a b
  | a, b => .error (incomparable a b)

def compareItems : List Value → List Value → Except String Ordering
  | [], [] => .ok .eq
  | [], _ :: _ => .ok .lt
  | _ :: _, [] => .ok .gt
  | a :: as, b :: bs =>
    match a.compare b with
    | .ok .eq => compareItems as bs
    | other => other

end

/-- Whether `part` occurs in `whole` as consecutive characters. -/
def occursIn (part : List Char) : List Char → Bool
  | [] => part.isEmpty
  | c :: rest => part.isPrefixOf (c :: rest) || occursIn part rest

/-- Membership of `item` in a container. -/
def member (container item : Value) : Except String Bool :=
  match container, item with
  | .undefined, _ => .ok false
  | .string s, .string part => .ok (occursIn part.toList s.toList)
  | .string _, item => .error s!"cannot search for {item.kind} in a string"
  | .list items, item => .ok (items.any fun v => v.same item)
  | .map entries, .string key => .ok (NameMap.contains entries key)
  | .map _, _ => .ok false
  | v, _ => .error s!"argument of type {v.kind} is not iterable"

end TextTemplate.Value
