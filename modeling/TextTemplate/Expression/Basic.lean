import TextTemplate.Filter.Basic

/-!
# Expressions and tests

What the tags of a template compute: an expression is a literal or a path with filters, a test is
a disjunction of conjunctions of conditions, and a print tag holds an or-chain or a choice.
-/

namespace TextTemplate

/-- A filter in use, with the literal arguments it was written with. -/
structure FilterCall where
  name : String
  filter : Filter
  arguments : List Value

/-- A path with filters. -/
structure Reference where
  /-- The whole expression, for error messages. -/
  raw : String
  path : String
  /-- What is passed if the path resolves to a callable. -/
  arguments : List Value
  filters : List FilterCall

inductive Expr where
  /-- A literal, to which any filters have been applied. -/
  | literal (value : Value)
  | reference (target : Reference)

inductive Operator where
  | eq | ne | lt | gt | le | ge | member | notMember
deriving DecidableEq, Repr

structure Condition where
  negated : Bool
  left : Expr
  right : Option (Operator × Expr)

/-- Groups of conditions: the test holds if all conditions of some group hold. -/
structure Test where
  groups : List (List Condition)

inductive PrintBody where
  /-- The first truthy value, or the last. -/
  | chain (options : List Expr)
  | choice (test : Test) (yes no : Expr)

/-- What an operator says about two values. -/
def Operator.apply (op : Operator) (a b : Value) : Except String Bool :=
  match op with
  | .eq => .ok (a.same b)
  | .ne => .ok (!a.same b)
  | .lt => (a.compare b).map (· == .lt)
  | .gt => (a.compare b).map (· == .gt)
  | .le => (a.compare b).map (· != .gt)
  | .ge => (a.compare b).map (· != .lt)
  | .member => b.member a
  | .notMember => (b.member a).map (!·)

end TextTemplate
