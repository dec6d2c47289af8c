import TextTemplate.Error.Basic
import TextTemplate.Text.Bytes
import TextTemplate.Text.Width

/-!
# Pictures of errors

The long text of an error with a place shows the source line in which the place starts and
underlines the place with carets. Columns are counted in display width, so that the carets stand
under the characters they mean in a fixed-width display. The underline covers the width of the
whole place, also when the place extends over several lines, and is never empty.
-/

namespace TextTemplate

open TextTemplate.Text

/-- The lines of a text without their line feeds; a line feed at the end starts no further line. -/
def sourceLines : List Char → List (List Char)
  | [] => []
  | c :: rest =>
    if c = '\n' then [] :: sourceLines rest
    else match sourceLines rest with
      | [] => [[c]]
      | line :: lines => (c :: line) :: lines

/-- Line number and column of a byte offset, both counted from zero. -/
def lineColumn : List (List Char) → Nat → Nat × Nat
  | [], _ => (0, 0)
  | line :: lines, offset =>
    let length := byteLength line + 1
    if offset < length then (0, width (splitBytes offset line).1)
    else if lines.isEmpty then (0, width line)
    else
      let (n, column) := lineColumn lines (offset - length)
      (n + 1, column)

def spaces (n : Nat) : String := String.ofList (List.replicate n ' ')

namespace Error

/-- The picture of a place with a message behind the underline. -/
def picture (message : String) (name : Option String) (place : Location) : String :=
  let source := place.source.toList
  let lines := sourceLines source
  let (line, column) := lineColumn lines place.span.start
  let code := String.ofList (lines.getD line (lines.getLastD []))
  let covered := sliceBytes source place.span.start place.span.stop
  let carets := String.ofList (List.replicate (max 1 (width covered)) '^')
  let number := toString (line + 1)
  let margin := "\n " ++ spaces number.length
  let header := match name with
    | some name => margin ++ "--> " ++ name ++ ":" ++ number ++ ":" ++ toString (column + 1)
    | none => ""
  header ++ margin ++ " |" ++ "\n " ++ number ++ " | " ++ code ++
    margin ++ " | " ++ spaces column ++ carets ++ " " ++ message ++ "\n"

/-- The long text of an error: its picture if the place is known, else the message. -/
def pretty (e : Error) : String :=
  match e.location with
  | some place => picture e.message e.templateName place
  | none => e.message

/-- The text of an error for diagnostics. -/
def debug (e : Error) : String :=
  match e.location with
  | some place => picture e.message e.templateName place
  | none => e.kind.name ++ ": " ++ e.message

end Error

end TextTemplate
