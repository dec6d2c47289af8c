import TextTemplate.Engine.Basic
import TextTemplate.Text.Quoted

/-!
# Diagnostic texts of engines and programs

One-line descriptions: an engine by its settings and the names it knows, a program by its name and
the titles of its blocks.
-/

namespace TextTemplate

def quoted (s : String) : String := String.ofList (Text.quote s.toList)

/-- A list of quoted names. -/
def quotedNames (names : List String) : String :=
  "[" ++ ", ".intercalate (names.map quoted) ++ "]"

def quotedOption : Option String → String
  | some s => "Some(" ++ quoted s ++ ")"
  | none => "None"

def DelimiterPair.debug (p : DelimiterPair) : String :=
  "(" ++ quoted p.texts.1 ++ ", " ++ quoted p.texts.2 ++ ")"

def Delimiters.debug (d : Delimiters) : String :=
  "Delimiters \x7b print: " ++ d.print.debug ++ ", eprint: " ++ d.escapedPrint.debug ++
    ", syntax: " ++ d.statement.debug ++ ", comment: " ++ d.comment.debug ++ " \x7d"

/-- Whether a loader has been set. -/
def Loader.isSet : Loader → Bool
  | .added => false
  | _ => true

def Engine.debug (e : Engine) : String :=
  "Engine \x7b delimiters: " ++ e.delimiters.debug ++
    ", filters: " ++ quotedNames e.filters.names ++
    ", builtins: " ++ quotedNames e.builtins.names ++
    ", templates: " ++ quotedNames e.templates.names ++
    ", loader: " ++ (if e.loader.isSet then "true" else "false") ++
    ", max_include_depth: " ++ String.ofList (Number.digitsOf e.maxIncludeDepth) ++ " \x7d"

def Program.debug (p : Program) : String :=
  "Program \x7b name: " ++ quotedOption p.name ++
    ", blocks: " ++ quotedNames p.blocks.names ++ ", .. \x7d"

/-- The description of a program that is ready to render. -/
def Program.debugTemplate (p : Program) : String :=
  "Template \x7b name: " ++ quotedOption p.name ++ ", .. \x7d"

end TextTemplate
