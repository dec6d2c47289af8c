import TextTemplate.Error.Basic
import TextTemplate.Expression.Basic
import TextTemplate.Expression.Masked
import TextTemplate.Literal
import TextTemplate.Text.Segments

/-!
# Reading expressions

The grammar of what stands in a tag, from the inside out: calls `name(a, b)` or `name:a:b`,
expressions `head | filter | filter`, conditions, tests and the bodies of print tags. Each level
splits its text outside of quotes and brackets and leaves the parts to the level below, so an
operator binds the weaker the further out it is split off.

Filters are looked up while reading, and filters on a literal are applied at once.
-/

namespace TextTemplate

open TextTemplate.Text Masked

/-! ## Separators -/

def pipe : Separator := .words [['|']]

def comma : Separator := .words [[',']]

def colon : Separator := .words [[':']]

def choiceMark : Separator := .words [['?', '?'], [':', ':']]

def orWord : Separator := .wordOrSign ['o', 'r'] ['|', '|']

def andWord : Separator := .wordOrSign ['a', 'n', 'd'] ['&', '&']

/-! ## Calls -/

def isNameStart (c : Char) : Bool := c.isAlpha || c = '_'

def isNamePart (c : Char) : Bool := c.isAlphanum || c = '_' || c = '.'

/-- Name and inside of a text of the form `name(inside)`. -/
def bracketCall? (cs : List Char) : Option (List Char × List Char) :=
  let name := cs.takeWhile isNamePart
  match name, cs.dropWhile isNamePart with
  | c :: _, '(' :: rest =>
    if isNameStart c && rest.getLast? == some ')' then some (name, rest.dropLast) else none
  | _, _ => none

/-- Name and argument texts of a call. Between brackets empty arguments are skipped; behind colons
they are kept. -/
def callParts (cs : List Char) : List Char × List (List Char) :=
  match bracketCall? cs with
  | some (name, inside) => (name, (split comma inside).filter (!·.isEmpty))
  | none =>
    match split colon cs with
    | [] => ([], [])
    | name :: arguments => (name, arguments)

/-- Reads the arguments of a call, which are literals. -/
def parseArguments (raw : List Char) (texts : List (List Char)) : Except Cause (List Value) :=
  texts.mapM fun text =>
    match Literal.parseChars text with
    | some v => .ok v
    | none => .error (.unparsableArgument (String.ofList text) (String.ofList raw))

/-- Reads a call: its name and its arguments. -/
def parseCall (raw text : List Char) : Except Cause (List Char × List Value) :=
  let (name, texts) := callParts (trim text)
  (parseArguments raw texts).map fun arguments => (name, arguments)

/-! ## Expressions -/

/-- A path is a sequence of identifiers and list positions with dots between them. -/
def isPath (cs : List Char) : Bool :=
  (segments '.' cs).all fun segment =>
    isIdent segment || (!segment.isEmpty && segment.all Char.isDigit)

def parseFilter (filters : NameMap Filter) (raw text : List Char) : Except Cause FilterCall := do
  let (name, arguments) ← parseCall raw text
  let name := String.ofList name
  match filters.find? name with
  | some filter => .ok { name, filter, arguments }
  | none => .error (.unknownFilter name)

/-- Applies filters one after the other. -/
def applyFilters (raw : String) (calls : List FilterCall) (value : Value) : Except Cause Value :=
  calls.foldlM (fun value call =>
    match call.filter.apply value call.arguments with
    | .ok value => .ok value
    | .error failure => .error (.ofFailure (.filterFailed call.name raw) failure)) value

/-- Reads an expression. -/
def parseExpr (filters : NameMap Filter) (text : List Char) : Except Cause Expr := do
  let raw := trim text
  let (head, rest) := match split pipe raw with
    | [] => ([], [])
    | head :: rest => (head, rest)
  let calls ← rest.mapM (parseFilter filters raw)
  match Literal.parseChars head with
  | some value => (applyFilters (String.ofList raw) calls value).map .literal
  | none =>
    let (path, arguments) ← parseCall raw head
    if isPath path then
      (.ok (.reference
        { raw := String.ofList raw, path := String.ofList path, arguments, filters := calls }))
    else .error (.invalidExpression (String.ofList raw))

/-! ## Conditions -/

/-- The operators in the order in which they are tried. -/
def signOperators : List (List Char × Operator) := [
  (['=', '='], .eq),
  (['!', '='], .ne),
  (['<', '='], .le),
  (['>', '='], .ge),
  (['<'], .lt),
  (['>'], .gt)]

/-- What stands behind `not` and `in` with blanks between them. -/
def afterNotIn? (ms : Masked) : Option Masked :=
  (after? ['n', 'o', 't'] ms).bind fun ms =>
    (afterBlanks? ms).bind fun ms => after? ['i', 'n'] ms

/-- The operator in front of a text, with the operand behind it. Blanks and something else have to
stand behind an operator. -/
def operator? (ms : Masked) : Option (Operator × Masked) :=
  let operand (rest : Option Masked) : Option Masked :=
    (rest.bind afterBlanks?).filter fun ms => !ms.isEmpty
  let sign := signOperators.findSome? fun (sign, op) =>
    (operand (after? sign ms)).map fun r => (op, r)
  sign
    <|> ((operand (afterNotIn? ms)).map fun r => (.notMember, r))
    <|> ((operand (after? ['i', 'n'] ms)).map fun r => (.member, r))

/-- A comparison: the texts of its operands and the operator between them. -/
structure Comparison where
  negated : Bool
  left : List Char
  operator : Operator
  right : List Char

/-- Looks for the first operator that stands behind blanks and a left operand; `seen` holds the
characters of the operand so far, the last one first. -/
def findOperator? (negated : Bool) (seen : List Char) : Masked → Option Comparison
  | [] => none
  | g :: ms =>
    let here :=
      if seen.isEmpty then none
      else (afterBlanks? (g :: ms)).bind operator?
    match here with
    | some (op, rest) => some ⟨negated, seen.reverse, op, chars rest⟩
    | none => findOperator? negated (g.char :: seen) ms

/-- Reads a text as a comparison. A leading `not` negates it; of the blanks behind the `not` as many
as possible belong to it. -/
def comparison? (ms : Masked) : Option Comparison :=
  let negated := (after? ['n', 'o', 't'] ms).bind fun rest =>
    (List.range (blankCount rest)).reverse.findSome? fun n =>
      findOperator? true [] (rest.drop (n + 1))
  negated <|> findOperator? false [] ms

/-- What stands behind a leading `not`. -/
def negation? (ms : Masked) : Option (List Char) :=
  ((after? ['n', 'o', 't'] ms).bind afterBlanks?).bind fun rest =>
    if rest.isEmpty then none else some (chars rest)

def parseCondition (filters : NameMap Filter) (text : List Char) : Except Cause Condition := do
  let raw := trim text
  match comparison? (mask raw) with
  | some c =>
    let left ← parseExpr filters c.left
    let right ← parseExpr filters c.right
    .ok { negated := c.negated, left, right := some (c.operator, right) }
  | none =>
    match negation? (mask raw) with
    | some rest => .ok { negated := true, left := ← parseExpr filters rest, right := none }
    | none => .ok { negated := false, left := ← parseExpr filters raw, right := none }

/-- Reads a test: `or` binds weaker than `and`. -/
def parseTest (filters : NameMap Filter) (text : List Char) : Except Cause Test := do
  let groups ← (split orWord text).mapM fun group =>
    (split andWord group).mapM (parseCondition filters)
  .ok ⟨groups⟩

/-- Reads the body of a print tag: a choice `test ?? yes :: no`, or an or-chain. -/
def parsePrint (filters : NameMap Filter) (text : List Char) : Except Cause PrintBody := do
  match splitKeep choiceMark text with
  | [test, ['?', '?'], yes, [':', ':'], no] =>
    .ok (.choice (← parseTest filters test) (← parseExpr filters yes) (← parseExpr filters no))
  | _ => .ok (.chain (← (split orWord text).mapM (parseExpr filters)))

end TextTemplate
