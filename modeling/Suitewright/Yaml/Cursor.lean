/-
  A place in the text of a document.

  * `Cursor`: the rest of the text, with the number of characters and lines before it and the column;
  * `Cursor.step`, `span`, `lineBreak`: moving on;
  * `Cursor.atSeparator`: whether a mark between documents begins here.
-/
namespace Suitewright.Yaml

/-- The characters that end a line. -/
def isBreak (c : Char) : Bool :=
  c == '\n' || c == '\r' || c == '\x85' || c == '\u2028' || c == '\u2029'

/-- Spaces, tabs and line ends. -/
def isGap (c : Char) : Bool := c == ' ' || c == '\t' || isBreak c

/-- Whether a test holds of a character or the text ends. -/
def orEnd (p : Char → Bool) : Option Char → Bool
  | some c => p c
  | none => true

/-- A place in a text. -/
structure Cursor where
  /-- What follows. -/
  rest : List Char
  /-- The number of characters before. -/
  index : Nat := 0
  /-- The number of lines before. -/
  line : Nat := 0
  /-- The number of characters before in this line. -/
  column : Nat := 0
  deriving Repr, DecidableEq, Inhabited

namespace Cursor

/-- The next character. -/
def peek (k : Cursor) : Option Char := k.rest.head?

/-- The character after the next one. -/
def peekSecond (k : Cursor) : Option Char := k.rest.tail.head?

/-- The place after the next character. -/
def step (k : Cursor) : Cursor :=
  match k.rest with
  | [] => k
  | c :: cs =>
    if isBreak c && !(c == '\r' && cs.head? == some '\n') then ⟨cs, k.index + 1, k.line + 1, 0⟩
    else ⟨cs, k.index + 1, k.line, if c == '\uFEFF' then k.column else k.column + 1⟩

/-- The place after so many characters. -/
def steps : Nat → Cursor → Cursor
  | 0, k => k
  | n + 1, k => steps n k.step

/-- The characters of a class, and the place after them. -/
def span (p : Char → Bool) (k : Cursor) : List Char × Cursor :=
  let text := k.rest.takeWhile p
  (text, k.steps text.length)

/-- The place after the characters of a class. -/
def skip (p : Char → Bool) (k : Cursor) : Cursor := (k.span p).2

/-- The place after spaces. -/
def skipSpaces (k : Cursor) : Cursor := k.skip (· == ' ')

/-- The place after spaces that lie before a column. -/
def indentTo (column : Nat) (k : Cursor) : Cursor :=
  k.steps ((k.rest.takeWhile (· == ' ')).take (column - k.column)).length

/-- The line end here as it counts in a scalar, and the place after it. Most line ends count as a line
feed. -/
def lineBreak (k : Cursor) : List Char × Cursor :=
  match k.rest with
  | '\r' :: '\n' :: _ => (['\n'], k.steps 2)
  | c :: _ =>
    if c == '\u2028' || c == '\u2029' then ([c], k.step)
    else if isBreak c then (['\n'], k.step)
    else ([], k)
  | [] => ([], k)

/-- Whether a test holds of the next character, or the text ends. -/
def nextIs (p : Char → Bool) (k : Cursor) : Bool := orEnd p k.peek

/-- Whether the next character ends a line. -/
def atBreak (k : Cursor) : Bool := k.peek.any isBreak

/-- Whether three marks stand here before a gap or the end. -/
def atMark (mark : List Char) (k : Cursor) : Bool :=
  k.rest.take 3 == mark && orEnd isGap (k.rest.drop 3).head?

/-- Whether a mark between documents begins here. -/
def atSeparator (k : Cursor) : Bool := k.atMark ['-', '-', '-'] || k.atMark ['.', '.', '.']

/-- The place after a comment, if one begins here. -/
def skipComment (k : Cursor) : Cursor :=
  if k.peek == some '#' then k.skip fun c => !isBreak c else k

end Cursor

end Suitewright.Yaml
