import TextTemplate.Failure
import TextTemplate.Render.Scopes
import TextTemplate.Time.Format
import TextTemplate.Value.Text

/-!
# Functions

What the callables of a template compute, apart from `super`, which renders a block. A function sees
the scopes and its arguments. It may return something new that needs an identity of its own, which
the renderer supplies.
-/

namespace TextTemplate

/-- What a function returns. -/
inductive Returned where
  | value (value : Value)
  | newCallable (function : Function)
  | newObject (display debug : String) (truth : Bool) (attributes : NameMap Value)

/-- The value that is returned, with an identity for something new. -/
def Returned.toValue (identity : Identity) : Returned → Value
  | .value v => v
  | .newCallable function => .callable identity function
  | .newObject display debug truth attributes => .object identity display debug truth attributes

abbrev NativeFunction := Scopes → List Value → Except Failure Returned

namespace NativeFunction

/-- Whether a path is defined. -/
def defined : NativeFunction := fun scopes arguments =>
  match arguments with
  | [.string path] => .ok (.value (.bool (scopes.defined path)))
  | _ => .error (.reason "expected a single string argument")

/-! ## Ranges -/

def maxRange : Int := 1000000

/-- The number of terms of `start, start + step, …` that lie before `stop`. -/
def rangeLength (start stop step : Int) : Int :=
  if 0 < step then (max (stop - start) 0 + step - 1) / step
  else (max (start - stop) 0 - step - 1) / -step

/-- The result of an arithmetic operation on machine integers. Where no machine integer is the
result, the computation breaks off. -/
def machineInteger (n : Int) : Except Failure Int64 :=
  if Int64.minValue.toInt ≤ n ∧ n ≤ Int64.maxValue.toInt then .ok (Int64.ofInt n)
  else .error .aborted

/-- The terms of an arithmetic progression, in machine integers: the start plus a multiple of the
step each. -/
def progression (start step : Int64) (count : Nat) : Except Failure (List Int64) :=
  (List.range count).mapM fun (index : Nat) => do
    let offset ← machineInteger (index * step.toInt)
    machineInteger (start.toInt + offset.toInt)

def integerArgument : Value → Except Failure Int64
  | .integer i => .ok i
  | v => .error (.reason s!"expected integer argument, found {v.kind}")

/-- The list of all terms before the end, unless they are too many. Their number is computed
without a bound. -/
def rangeOf (start stop step : Int64) : Except Failure Value :=
  if step = 0 then .error (.reason "step must not be zero")
  else
    let length := rangeLength start.toInt stop.toInt step.toInt
    if maxRange < length then .error (.reason s!"range of {length} items is too large")
    else (progression start step length.toNat).map fun terms => .list (terms.map .integer)

/-- Counts from a start, 0 if it is not given, to an end that is left out, by a step. -/
def range : NativeFunction := fun _ arguments => do
  match ← arguments.mapM integerArgument with
  | [stop] => return .value (← rangeOf 0 stop 1)
  | [start, stop] => return .value (← rangeOf start stop 1)
  | [start, stop, step] => return .value (← rangeOf start stop step)
  | others => throw (.reason s!"expected 1 to 3 arguments, found {others.length}")

/-! ## The time -/

/-- The attributes of a moment. -/
def momentAttributes (m : Time.Moment) : NameMap Value :=
  let text (format : String) : Value := .string ((m.format format).toOption.getD "")
  let number (i : Int) : Value := .integer (Int64.ofInt i)
  NameMap.ofEntries [
    ("year", number m.year),
    ("month", number m.month),
    ("day", number m.day),
    ("hour", number m.hour),
    ("minute", number m.minute),
    ("second", number m.second),
    ("weekday", text "%A"),
    ("date", text "%Y-%m-%d"),
    ("time", text "%H:%M:%S"),
    ("timestamp", number m.timestamp)]

/-- The current time as an object, or as a text in the given format. -/
def now (clock : Time.Moment) : NativeFunction := fun _ arguments =>
  match arguments with
  | [] =>
    let text := (clock.format Time.Moment.standardFormat).toOption.getD ""
    .ok (.newObject text text true (momentAttributes clock))
  | [.string format] => (clock.format format).map fun text => .value (.string text)
  | _ => .error (.reason "expected an optional format string")

/-! ## Further functions

Functions that no engine has at the start. A program makes those it wants available under names of
its choice. -/

/-- The sum of integers. -/
def sum : NativeFunction := fun _ arguments =>
  let add (total : Option Int) (v : Value) : Option Int :=
    match total, v with
    | some total, .integer i =>
      let total := total + i.toInt
      if Int64.minValue.toInt ≤ total && total ≤ Int64.maxValue.toInt then some total else none
    | _, _ => none
  match arguments.foldl add (some 0) with
  | some total => .ok (.value (.integer (Int64.ofInt total)))
  | none => .error (.reason "expected integers")

def greet : NativeFunction := fun _ arguments =>
  match arguments with
  | [name] => .ok (.value (.string ("Hello " ++ name.display ++ "!")))
  | _ => .ok (.value (.string "Hello!"))

/-- A function that looks something up by a name. -/
def onName (f : Scopes → String → Value) : NativeFunction := fun scopes arguments =>
  match arguments with
  | .string name :: _ => .ok (.value (f scopes name))
  | _ => .error (.reason "expected a name")

def extra : NameMap NativeFunction := NameMap.ofEntries [
  ("sum", sum),
  ("args", fun _ arguments => .ok (.value (.list arguments))),
  ("greet", greet),
  ("boom", fun _ _ => .error (.reason "boom")),
  ("undef", fun _ _ => .ok (.value .undefined)),
  ("make_fn", fun _ _ => .ok (.newCallable (.host "inner"))),
  ("inner", fun _ _ => .ok (.value (.string "inner"))),
  ("make_map", fun _ arguments => .ok (.value (.map [("args", .list arguments)]))),
  ("ctx_get", onName fun scopes name => (scopes.get name).getD (.string "<unbound>")),
  ("ctx_contains", onName fun scopes name => .bool (scopes.contains name)),
  ("ctx_resolve", onName fun scopes path => scopes.resolve path),
  ("ctx_defined", onName fun scopes path => .bool (scopes.defined path))]

end NativeFunction

end TextTemplate
