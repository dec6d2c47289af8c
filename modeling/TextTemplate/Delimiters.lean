import TextTemplate.NameMap
import TextTemplate.Value.Basic

/-!
# Delimiters

The pairs of texts that mark the tags of a template. No delimiter is empty.
-/

namespace TextTemplate

/-- The two ends of a tag. -/
structure DelimiterPair where
  start : List Char
  stop : List Char
  start_ne_nil : start ≠ [] := by decide
  stop_ne_nil : stop ≠ [] := by decide

/-- The pair of two texts, neither of which may be empty. -/
def DelimiterPair.of? (start stop : String) : Option DelimiterPair :=
  if h : start.toList ≠ [] ∧ stop.toList ≠ [] then
    some ⟨start.toList, stop.toList, h.1, h.2⟩
  else none

def DelimiterPair.texts (p : DelimiterPair) : String × String :=
  (String.ofList p.start, String.ofList p.stop)

/-- The kinds of tags that have delimiters of their own. -/
inductive TagKind where
  | escapedPrint
  | print
  /-- Tags that steer the rendering: loops, conditions, blocks and so on. -/
  | statement
  | comment
deriving DecidableEq, Repr

structure Delimiters where
  print : DelimiterPair
  escapedPrint : DelimiterPair
  statement : DelimiterPair
  comment : DelimiterPair

namespace Delimiters

def standard : Delimiters where
  print := { start := ['\x7b', '\x7b'], stop := ['\x7d', '\x7d'] }
  escapedPrint := { start := ['\x7b', '\x7b', '\x7b'], stop := ['\x7d', '\x7d', '\x7d'] }
  statement := { start := ['\x7b', '%'], stop := ['%', '\x7d'] }
  comment := { start := ['\x7b', '#'], stop := ['#', '\x7d'] }

/-- The four pairs with their kinds. -/
def pairs (d : Delimiters) : List (TagKind × DelimiterPair) := [
  (.escapedPrint, d.escapedPrint),
  (.print, d.print),
  (.statement, d.statement),
  (.comment, d.comment)]

/-- The delimiters as a value that templates can look at. -/
def toValue (d : Delimiters) : Value :=
  let entry (name : String) (text : List Char) : String × Value :=
    (name, .string (String.ofList text))
  .map (NameMap.ofEntries [
    entry "print_start" d.print.start,
    entry "print_end" d.print.stop,
    entry "eprint_start" d.escapedPrint.start,
    entry "eprint_end" d.escapedPrint.stop,
    entry "syntax_start" d.statement.start,
    entry "syntax_end" d.statement.stop,
    entry "comment_start" d.comment.start,
    entry "comment_end" d.comment.stop])

end Delimiters

end TextTemplate
