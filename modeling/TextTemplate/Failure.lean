/-!
# Failures of filters and functions

A filter or a function that gives no value either fails with a reason, which becomes part of an
error, or breaks off. Breaking off is no error: nothing catches it, and there is no result at all.
-/

namespace TextTemplate

/-- Why a filter or a function gives no value. -/
inductive Failure where
  | reason (text : String)
  | aborted
deriving DecidableEq, Repr, Inhabited

end TextTemplate
