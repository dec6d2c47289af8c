import TextTemplate.Text.Blank

/-!
# Markup

Two operations on markup text: escaping the characters that have a meaning in it, and removing the
blanks between tags.
-/

namespace TextTemplate.Markup

open TextTemplate.Text

/-- The entity that stands for a character, or the character itself. -/
def entity (c : Char) : List Char :=
  match c with
  | '&' => ['&', 'a', 'm', 'p', ';']
  | '<' => ['&', 'l', 't', ';']
  | '>' => ['&', 'g', 't', ';']
  | '"' => ['&', 'q', 'u', 'o', 't', ';']
  | '\'' => ['&', '#', 'x', '2', '7', ';']
  | c => [c]

def escape (cs : List Char) : List Char := cs.flatMap entity

/-- Removes each run of blanks that stands directly between `>` and `<`. `afterTag` tells whether
the character in front is a `>`. -/
def spacelessFrom (afterTag : Bool) : List Char → List Char
  | [] => []
  | c :: rest =>
    if afterTag && isBlank c && (rest.dropWhile isBlank).head? == some '<' then
      spacelessFrom true rest
    else c :: spacelessFrom (c = '>') rest

def spaceless (cs : List Char) : List Char := spacelessFrom false cs

end TextTemplate.Markup
