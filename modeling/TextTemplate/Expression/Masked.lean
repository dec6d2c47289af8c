import TextTemplate.Text.Blank

/-!
# Masked text

Tag content is split only outside of quotes and brackets. `mask` marks every character that stands
inside of them as hidden; splitting then looks at what is shown of each character, an underscore
for a hidden one, and cuts the text itself.

Quotes and brackets that are not inside of others are shown, so that `f(a)` keeps its shape.
Inside a string a backslash hides the meaning of the next character. Any closing bracket closes
the innermost open one; a closing bracket with none open is an ordinary character.
-/

namespace TextTemplate

open TextTemplate.Text

/-- A character and whether it is hidden. -/
structure Glyph where
  char : Char
  hidden : Bool
deriving DecidableEq, Repr

/-- What is shown of a character. -/
def Glyph.shown (g : Glyph) : Char := if g.hidden then '_' else g.char

abbrev Masked := List Glyph

namespace Masked

/-- Where the reader of a text stands: inside a string or not, behind a backslash or not, and inside
how many brackets. -/
structure Position where
  quote : Option Char := none
  escaped : Bool := false
  depth : Nat := 0
deriving DecidableEq, Repr

def isQuote (c : Char) : Bool := c = '\'' || c = '"'

def isOpening (c : Char) : Bool := c = '(' || c = '[' || c = '\x7b'

def isClosing (c : Char) : Bool := c = ')' || c = ']' || c = '\x7d'

/-- Reads one character: whether it is hidden, and the position behind it. -/
def Position.step (p : Position) (c : Char) : Bool × Position :=
  match p.quote with
  | some q =>
    if p.escaped then (true, { p with escaped := false })
    else if c = '\\' then (true, { p with escaped := true })
    else if c = q then (0 < p.depth, { p with quote := none })
    else (true, p)
  | none =>
    if isQuote c then (0 < p.depth, { p with quote := some c })
    else if isOpening c then (0 < p.depth, { p with depth := p.depth + 1 })
    else if isClosing c && 0 < p.depth then (1 < p.depth, { p with depth := p.depth - 1 })
    else (0 < p.depth, p)

def maskFrom (p : Position) : List Char → Masked
  | [] => []
  | c :: rest =>
    let (hidden, p) := p.step c
    ⟨c, hidden⟩ :: maskFrom p rest

def mask (cs : List Char) : Masked := maskFrom {} cs

/-- The text itself. -/
def chars (ms : Masked) : List Char := ms.map Glyph.char

/-- What is shown of a text; a hidden character is replaced by as many underscores as it has
bytes. -/
def shown (ms : Masked) : List Char :=
  ms.flatMap fun g => if g.hidden then List.replicate g.char.utf8Size '_' else [g.char]

@[simp] theorem chars_maskFrom (p : Position) (cs : List Char) : chars (maskFrom p cs) = cs := by
  induction cs generalizing p with
  | nil => rfl
  | cons c cs ih => simp [maskFrom, chars] at *; exact ih _

@[simp] theorem chars_mask (cs : List Char) : chars (mask cs) = cs := chars_maskFrom _ _

/-! ## Looking at what is shown -/

/-- Whether a shown blank stands in front. -/
def startsBlank : Masked → Bool
  | g :: _ => isBlank g.shown
  | [] => false

def dropBlanks (ms : Masked) : Masked := ms.dropWhile fun g => isBlank g.shown

/-- The number of shown blanks in front. -/
def blankCount (ms : Masked) : Nat := (ms.takeWhile fun g => isBlank g.shown).length

/-- What stands behind at least one blank. -/
def afterBlanks? (ms : Masked) : Option Masked :=
  if startsBlank ms then some (dropBlanks ms) else none

/-- What stands behind the given shown characters. -/
def after? : List Char → Masked → Option Masked
  | [], ms => some ms
  | c :: cs, g :: ms => if g.shown = c then after? cs ms else none
  | _ :: _, [] => none

/-! ## Splitting -/

/-- A separator tells how many characters in front of a text belong to it, 0 if it does not stand
there. -/
abbrev Separator := Masked → Nat

/-- A separator that is one of the given words. -/
def Separator.words (ws : List (List Char)) : Separator := fun ms =>
  match ws.find? fun w => (after? w ms).isSome with
  | some w => w.length
  | none => 0

/-- A separator that is a word between blanks, or the given sign. -/
def Separator.wordOrSign (word sign : List Char) : Separator := fun ms =>
  match (afterBlanks? ms).bind fun ms => (after? word ms).bind afterBlanks? with
  | some rest => ms.length - rest.length
  | none => if (after? sign ms).isSome then sign.length else 0

/-- Cuts a text at its separators, from left to right: the part in front of the first separator, and
each separator with the part behind it. -/
def cut (separator : Separator) : Nat → Masked → List Char × List (List Char × List Char)
  | 0, _ => ([], [])
  | _, [] => ([], [])
  | fuel + 1, g :: ms =>
    match separator (g :: ms) with
    | 0 =>
      let (part, parts) := cut separator fuel ms
      (g.char :: part, parts)
    | n + 1 =>
      let (part, parts) := cut separator fuel (ms.drop n)
      ([], (g.char :: chars (ms.take n), part) :: parts)

/-- The parts of a text between the separators outside of quotes and brackets, trimmed. -/
def split (separator : Separator) (cs : List Char) : List (List Char) :=
  let (first, others) := cut separator cs.length (mask cs)
  trim first :: others.map fun (_, part) => trim part

/-- The trimmed parts of a text with the separators between them. -/
def splitKeep (separator : Separator) (cs : List Char) : List (List Char) :=
  let (first, others) := cut separator cs.length (mask cs)
  trim first :: others.flatMap fun (separator, part) => [separator, trim part]

end Masked

end TextTemplate
