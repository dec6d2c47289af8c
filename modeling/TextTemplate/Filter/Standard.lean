import TextTemplate.Filter.Basic
import TextTemplate.Filter.Markup
import TextTemplate.Text.Casing
import TextTemplate.Time.Format
import TextTemplate.Value.Text

/-!
# The standard filters

The filters that every engine starts with. Lengths are counted in characters throughout.
-/

namespace TextTemplate.Filter

open TextTemplate.Text TextTemplate.Time

/-! ## Their meaning on values -/

/-- The value if it is truthy, else the fallback. -/
def orDefault (value fallback : Value) : Value := if value.isTruthy then value else fallback

def unsupported (value : Value) : String := "unsupported value \x60" ++ value.kind ++ "\x60"

/-- The items of a value, for the filters that pick one of them. -/
def itemsOf (value : Value) : Except Failure (List Value) :=
  match value.iterate with
  | some items => .ok items
  | none => .error (.reason (unsupported value))

/-- One item of a value, drawn at random. There is no source of randomness here, so the first item
stands for the one that is drawn. -/
def random (value : Value) : Except Failure Value :=
  match value.iterate with
  | none => .error (.reason s!"cannot choose from {value.kind}")
  | some [] => .error (.reason "cannot choose from an empty sequence")
  | some (item :: _) => .ok item

def reversed : Value → Except Failure Value
  | .string s => .ok (.string (String.ofList s.toList.reverse))
  | .list items => .ok (.list items.reverse)
  | value => .error (.reason (unsupported value))

/-- What a value counts as: a number itself, a container its length. -/
def countOf : Value → Except Failure Int
  | .integer i => .ok i.toInt
  | .float x => .ok (Number.truncate x)
  | value =>
    match value.length with
    | some n => .ok n
    | none => .error (.reason s!"cannot count {value.kind}")

/-- At most `n` characters; a text that is longer loses its end to the ellipsis. -/
def truncateChars (s : List Char) (n : Nat) (ellipsis : List Char) : List Char :=
  if s.length ≤ n then s else s.take (n - ellipsis.length) ++ ellipsis

/-- The first `n` words with single spaces between them and the ellipsis behind, or the whole text
if it has no more words. -/
def truncateWords (s : List Char) (n : Nat) (ellipsis : List Char) : List Char :=
  if (words s).length ≤ n then s else joinChars [' '] ((words s).take n) ++ ellipsis

/-- The moment that a value stands for: an integer is a timestamp, an object has one. -/
def timestampOf : Value → Except Failure Int
  | .integer t => .ok t.toInt
  | .object _ _ _ _ attributes =>
    match NameMap.find? attributes "timestamp" with
    | some (.integer t) => .ok t.toInt
    | _ => .error (.reason "object has no timestamp")
  | value => .error (.reason s!"cannot format {value.kind} as a date")

/-! ## The filters -/

/-- A filter on any value without arguments. -/
def onValue (f : Value → Except Failure Value) : Filter := ⟨.required .value, [], f⟩

/-- A filter on strings without arguments. -/
def onString (f : String → Value) : Filter := ⟨.required .string, [], fun s => .ok (f s)⟩

/-- A filter that maps the characters of a string. -/
def onChars (f : List Char → List Char) : Filter :=
  onString fun s => .string (String.ofList (f s.toList))

/-- A filter that maps the characters of the text of any value. -/
def onText (f : List Char → List Char) : Filter :=
  onValue fun v => .ok (.string (String.ofList (f v.displayChars)))

/-- A filter that tests a string against another. -/
def stringTest (f : List Char → List Char → Bool) : Filter :=
  ⟨.required .string, [.required .string], fun (s t : String) => .ok (.bool (f s.toList t.toList))⟩

def default : Filter :=
  ⟨.required .value, [.required .value], fun (v fallback : Value) => .ok (orDefault v fallback)⟩

def first : Filter := onValue fun v => (itemsOf v).map fun items => items.headD .none

def last : Filter := onValue fun v => (itemsOf v).map fun items => items.getLastD .none

def len : Filter := onValue fun v =>
  match v.length with
  | some n => .ok (.ofNat n)
  | none => .error (.reason s!"value of type {v.kind} has no length")

def join : Filter :=
  ⟨.required .list, [.optional .string], fun (items : List Value) (separator : Option String) =>
    .ok (.string (String.ofList
      (joinChars (separator.getD "").toList (items.map Value.displayChars))))⟩

/-- The entries of a map as pairs of key and value. -/
def items : Filter :=
  ⟨.required .map, [], fun (entries : NameMap Value) =>
    .ok (.list (entries.map fun (k, v) => .list [.string k, v]))⟩

def pluralize : Filter :=
  ⟨.required .value, [.optional .string, .optional .string],
    fun (v : Value) (plural singular : Option String) =>
      (countOf v).map fun n =>
        if n = 1 then .string (singular.getD "") else .string (plural.getD "s")⟩

def truncatechars : Filter :=
  ⟨.required .string, [.required (.integer .usize), .optional .string],
    fun (s : String) (n : Int) (ellipsis : Option String) =>
      .ok (.string (String.ofList
        (truncateChars s.toList n.toNat (ellipsis.getD "...").toList)))⟩

def truncatewords : Filter :=
  ⟨.required .string, [.required (.integer .usize), .optional .string],
    fun (s : String) (n : Int) (ellipsis : Option String) =>
      .ok (.string (String.ofList
        (truncateWords s.toList n.toNat (ellipsis.getD " ...").toList)))⟩

def even : Filter := ⟨.required (.integer .i64), [], fun (i : Int) => .ok (.bool (i % 2 == 0))⟩

def odd : Filter := ⟨.required (.integer .i64), [], fun (i : Int) => .ok (.bool (i % 2 != 0))⟩

/-- The text of a value inside a markup element. -/
def wrap : Filter :=
  ⟨.required .value, [.required .string], fun (v : Value) (tag : String) =>
    .ok (.string ("<" ++ tag ++ ">" ++ v.display ++ "</" ++ tag ++ ">"))⟩

def dtformat : Filter :=
  ⟨.required .value, [.optional .string], fun (v : Value) (format : Option String) =>
    match timestampOf v with
    | .error e => .error e
    | .ok timestamp =>
      match Moment.ofTimestamp? timestamp with
      | none => .error (.reason s!"invalid timestamp {timestamp}")
      | some moment => (moment.format (format.getD Moment.standardFormat)).map .string⟩

/-- The filters of a new engine. -/
def standard : NameMap Filter := NameMap.ofEntries [
  ("escape", onText Markup.escape),
  ("spaceless", onText Markup.spaceless),
  ("default", default),
  ("random", onValue random),
  ("first", first),
  ("last", last),
  ("len", len),
  ("lower", onChars lower),
  ("upper", onChars upper),
  ("title", onChars title),
  ("join", join),
  ("reversed", onValue reversed),
  ("items", items),
  ("pluralize", pluralize),
  ("truncatechars", truncatechars),
  ("truncatewords", truncatewords),
  ("startswith", stringTest fun s start => start.isPrefixOf s),
  ("endswith", stringTest fun s stop => stop.isSuffixOf s),
  ("even", even),
  ("odd", odd),
  ("wrap", wrap),
  ("dtformat", dtformat)]

end TextTemplate.Filter
