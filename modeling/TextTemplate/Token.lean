import TextTemplate.Delimiters
import TextTemplate.Error.Basic
import TextTemplate.Text.Blank
import TextTemplate.Text.Bytes

/-!
# Tokens

A template source is a sequence of texts and tags. A tag starts where a start delimiter stands whose
end delimiter follows somewhere behind it, and it ends at the first such end. Of several delimiters
that start at one place the longest wins, and of equally long ones the first in the order of
`Delimiters.pairs`. A start delimiter without an end is ordinary text.

Comments and tags with nothing but blanks inside yield no token.
-/

namespace TextTemplate

open TextTemplate.Text

inductive TokenKind where
  | text
  | print (escape : Bool)
  | statement
deriving DecidableEq, Repr

/-- The kind of token that a tag yields; a comment yields none. -/
def TagKind.token? : TagKind → Option TokenKind
  | .escapedPrint => some (.print true)
  | .print => some (.print false)
  | .statement => some .statement
  | .comment => none

structure Token where
  kind : TokenKind
  /-- A text as it stands, or the trimmed inside of a tag. -/
  content : List Char
  /-- The bytes of the whole token, delimiters included. -/
  span : Span
deriving DecidableEq, Repr

/-- The first word of a tag. -/
def Token.word (t : Token) : List Char := t.content.takeWhile (!isBlank ·)

/-- What stands behind a given start of a text. -/
def dropStart? : List Char → List Char → Option (List Char)
  | [], cs => some cs
  | _ :: _, [] => none
  | p :: ps, c :: cs => if p = c then dropStart? ps cs else none

/-- Splits a text at the first occurrence of `stop`: what stands in front of it and behind it. -/
def splitAt? (stop : List Char) : List Char → Option (List Char × List Char)
  | [] => (dropStart? stop []).map fun rest => ([], rest)
  | c :: cs =>
    match dropStart? stop (c :: cs) with
    | some rest => some ([], rest)
    | none => (splitAt? stop cs).map fun (inside, rest) => (c :: inside, rest)

/-- A tag that stands at the start of a text. -/
structure TagMatch where
  kind : TagKind
  /-- What stands between the delimiters. -/
  inside : List Char
  /-- The number of bytes of the tag, delimiters included. -/
  length : Nat
  /-- What stands behind the tag. -/
  rest : List Char

/-- The tag with the given delimiters at the start of a text. -/
def DelimiterPair.tag? (p : DelimiterPair) (kind : TagKind) (cs : List Char) : Option TagMatch :=
  (dropStart? p.start cs).bind fun cs =>
    (splitAt? p.stop cs).map fun (inside, rest) =>
      ⟨kind, inside, byteLength p.start + byteLength inside + byteLength p.stop, rest⟩

/-- The pairs in the order in which they are tried: longer start delimiters first. -/
def Delimiters.ordered (d : Delimiters) : List (TagKind × DelimiterPair) :=
  d.pairs.mergeSort fun a b => byteLength b.2.start ≤ byteLength a.2.start

namespace Token

/-- The tag at the start of a text, for the first pair of delimiters that fits. -/
def tag? (pairs : List (TagKind × DelimiterPair)) (cs : List Char) : Option TagMatch :=
  pairs.findSome? fun (kind, pair) => pair.tag? kind cs

/-- The token of a text whose characters are given last first, none for the empty text. -/
def ofText (start : Nat) (reversed : List Char) : List Token :=
  if reversed.isEmpty then []
  else [⟨.text, reversed.reverse, ⟨start, start + byteLength reversed⟩⟩]

/-- The token of a tag, none if it is a comment or blank. -/
def ofTag (start : Nat) (t : TagMatch) : List Token :=
  match t.kind.token?, trim t.inside with
  | some kind, c :: content => [⟨kind, c :: content, ⟨start, start + t.length⟩⟩]
  | _, _ => []

/-- The tokens from `offset` on; `pending` holds the characters of the text in front that belong
to no tag, the last one first. -/
def scan (pairs : List (TagKind × DelimiterPair)) : Nat → Nat → List Char → List Char → List Token
  | 0, offset, pending, _ => ofText (offset - byteLength pending) pending
  | _, offset, pending, [] => ofText (offset - byteLength pending) pending
  | fuel + 1, offset, pending, c :: cs =>
    match tag? pairs (c :: cs) with
    | none => scan pairs fuel (offset + c.utf8Size) (c :: pending) cs
    | some t =>
      ofText (offset - byteLength pending) pending ++
        (ofTag offset t ++ scan pairs fuel (offset + t.length) [] t.rest)

end Token

/-- The tokens of a source. -/
def Delimiters.tokens (d : Delimiters) (source : List Char) : List Token :=
  Token.scan d.ordered source.length 0 [] source

end TextTemplate
