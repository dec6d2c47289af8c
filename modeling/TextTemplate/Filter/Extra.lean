import TextTemplate.Filter.Standard

/-!
# Further filters

Filters that no engine has at the start. A program registers the ones it wants under names of its
choice; `extra?` finds them by their own names.
-/

namespace TextTemplate.Filter

open TextTemplate.Text TextTemplate.Number

def strings (items : List (List Char)) : Value :=
  .list (items.map fun s => .string (String.ofList s))

/-- The parts of a text between the occurrences of a separator. `skip` characters still belong to
the last occurrence. -/
def splitOn (separator : List Char) (skip : Nat) : List Char → List (List Char)
  | [] => [[]]
  | c :: rest =>
    match skip with
    | skip + 1 => splitOn separator skip rest
    | 0 =>
      if separator.isPrefixOf (c :: rest) then
        [] :: splitOn separator (separator.length - 1) rest
      else match splitOn separator 0 rest with
        | [] => [[c]]
        | part :: parts => (c :: part) :: parts

/-- The parts of a text; the empty separator stands at both ends and between all characters. -/
def splitText (s separator : List Char) : List (List Char) :=
  if separator.isEmpty then [] :: s.map (fun c => [c]) ++ [[]] else splitOn separator 0 s

def repeated (times : Nat) (s : String) : Value :=
  .string (String.ofList (List.replicate times s.toList).flatten)

/-- A filter that takes an integer of one type and gives it back. -/
def onInteger (t : IntegerType) : Filter :=
  ⟨.required (.integer t), [], fun (i : Int) => .ok (.integer (Int64.ofInt i))⟩

def shout : Filter := onString fun s => .string (String.ofList (upper s.toList ++ ['!']))

def repeatMany : Filter :=
  ⟨.required .string, [.required (.integer .usize)], fun (s : String) (n : Int) =>
    .ok (repeated (min n.toNat 100) s)⟩

def repeatFew : Filter :=
  ⟨.required .string, [.required (.integer .u8)], fun (s : String) (n : Int) =>
    .ok (repeated n.toNat s)⟩

/-- Fills up a text in front to at most 100 characters. -/
def pad : Filter :=
  ⟨.required .string, [.required (.integer .usize), .optional .string],
    fun (s : String) (width : Int) (fill : Option String) =>
      let missing := min width.toNat 100 - s.toList.length
      .ok (.string (String.ofList
        ((List.replicate missing (fill.getD " ").toList).flatten ++ s.toList)))⟩

def parse : Filter :=
  ⟨.required .string, [], fun (s : String) =>
    match readInteger s.toList with
    | some i =>
      if IntegerType.i64.holds i then .ok (.integer (Int64.ofInt i))
      else .error (.reason "not an integer")
    | none => .error (.reason "not an integer")⟩

def count : Filter := ⟨.required .list, [], fun (items : List Value) => .ok (.ofNat items.length)⟩

def keys : Filter :=
  ⟨.required .map, [], fun (entries : NameMap Value) => .ok (.list (entries.names.map .string))⟩

def negate : Filter := ⟨.required .bool, [], fun (b : Bool) => .ok (.bool !b)⟩

def half : Filter := ⟨.required .float, [], fun (x : Float) => .ok (.float (x / 2))⟩

def append : Filter :=
  ⟨.required .string, [.required .string], fun (s t : String) => .ok (.string (s ++ t))⟩

def split : Filter :=
  ⟨.required .string, [.required .string], fun (s separator : String) =>
    .ok (strings (splitText s.toList separator.toList))⟩

def decimal : Filter :=
  ⟨.required (.integer .u64), [], fun (i : Int) =>
    .ok (.string (String.ofList (integerText i)))⟩

def single : Filter :=
  ⟨.required .float, [], fun (x : Float) => .ok (.float (roundTo .single x))⟩

def char : Filter := onString fun s =>
  match s.toList with
  | [] => .none
  | c :: _ => .string (String.singleton c)

/-- The value in a map beside a constant. -/
def inMap (v : Value) : Value := .map (NameMap.ofEntries [("k", v), ("a", .integer 1)])

def maybe : Filter :=
  ⟨.optional .string, [], fun (s : Option String) =>
    match s with
    | some s => .ok (.ofNat s.utf8ByteSize)
    | none => .ok .none⟩

def three : Filter :=
  ⟨.required .value, [.required (.integer .i64), .optional .bool, .optional .float],
    fun (v : Value) (i : Int) (b : Option Bool) (x : Option Float) =>
      .ok (.list [v, .integer (Int64.ofInt i), (b.map Value.bool).getD .none,
        (x.map Value.float).getD .none])⟩

def four : Filter :=
  ⟨.required .value,
    [.required .value, .optional .value, .optional (.integer .i64), .optional .list],
    fun (v a : Value) (b : Option Value) (i : Option Int) (items : Option (List Value)) =>
      .ok (.list [v, a, b.getD .none, (i.map fun i => Value.integer (Int64.ofInt i)).getD .none,
        (items.map Value.list).getD .none])⟩

def extra : NameMap Filter := NameMap.ofEntries [
  ("shout", shout),
  ("repeat", repeatMany),
  ("repeat_u8", repeatFew),
  ("pad", pad),
  ("parse", parse),
  ("count", count),
  ("keys", keys),
  ("negate", negate),
  ("half", half),
  ("append", append),
  ("split", split),
  ("custom", onValue fun _ => .ok (.string "custom")),
  ("identity", onValue .ok),
  ("nothing", onValue fun _ => .ok .none),
  ("u8", onInteger .u8),
  ("u16", onInteger .u16),
  ("u32", onInteger .u32),
  ("u64", decimal),
  ("usize", onInteger .usize),
  ("i8", onInteger .i8),
  ("i16", onInteger .i16),
  ("i32", onInteger .i32),
  ("i64", onInteger .i64),
  ("f32", single),
  ("char", char),
  ("cow", onString .string),
  ("pair", onValue fun v => .ok (.list [v, v])),
  ("hash", onValue fun v => .ok (inMap v)),
  ("btree", onValue fun v => .ok (inMap v)),
  ("maybe", maybe),
  ("three", three),
  ("four", four)]

/-- The filter of the given name, among the standard ones and those of this module. -/
def extra? (name : String) : Option Filter := extra.find? name

end TextTemplate.Filter
