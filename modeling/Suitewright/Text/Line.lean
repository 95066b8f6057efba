/-
  Lines of a text.

  * `linesKept`: the lines with their line breaks, so that they concatenate to the text;
  * `lines`: the same without the breaks;
  * `splitAfter`: the parts of a sequence that end with a given element, such as a line feed.

  A line ends at a line feed, a carriage return, both together, or one of the rarer separators; nothing
  follows the last break.
-/
namespace Suitewright.Text

/-- The characters that end a line on their own. -/
def isLineBreak (c : Char) : Bool :=
  let n := c.toNat
  (10 ≤ n && n ≤ 13) || (28 ≤ n && n ≤ 30) || n == 0x85 || n == 0x2028 || n == 0x2029

/-- Puts a character in front of the first line. -/
def consLine (c : Char) : List (List Char) → List (List Char)
  | [] => [[c]]
  | l :: ls => (c :: l) :: ls

/-- The lines with their breaks; a carriage return and a following line feed are one break. -/
def linesKept : List Char → List (List Char)
  | [] => []
  | '\r' :: '\n' :: cs => ['\r', '\n'] :: linesKept cs
  | c :: cs => if isLineBreak c then [c] :: linesKept cs else consLine c (linesKept cs)

/-- A line without its break. -/
def dropBreak (line : List Char) : List Char := line.takeWhile fun c => !isLineBreak c

/-- The lines of a text without their breaks. -/
def lines (cs : List Char) : List (List Char) := (linesKept cs).map dropBreak

/-- Line breaks of files become line feeds: a carriage return, alone or before a line feed, counts as one. -/
def unifyBreaks : List Char → List Char
  | [] => []
  | '\r' :: '\n' :: cs => '\n' :: unifyBreaks cs
  | '\r' :: cs => '\n' :: unifyBreaks cs
  | c :: cs => c :: unifyBreaks cs

/-- The parts of a sequence that end with `stop`; what follows the last one is a part too, unless it is empty. -/
def splitAfter {α : Type} [BEq α] (stop : α) : List α → List (List α)
  | [] => []
  | c :: cs =>
    if c == stop then [c] :: splitAfter stop cs
    else match splitAfter stop cs with
      | [] => [[c]]
      | part :: rest => (c :: part) :: rest

end Suitewright.Text
