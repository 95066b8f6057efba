/-
  Character classes.

  * `isBlank`: blanks of every script, the ones that trimming and splitting into words look for;
  * `isWordChar`: letters, numbers and the underscore; `atWordEdge` says where a word begins or ends;
  * `digitValue?`: the value of a decimal digit of any script;
  * `isUpper`, `isPrintable`: upper-case characters, and those that are shown as they are.

  Every class is decided by plain comparisons on ASCII and by a table outside it.
-/
import Suitewright.Text.CaseTable
import Suitewright.Text.WordTable

namespace Suitewright.Text

/-- Whether a code point lies in one of the ranges. -/
def inRanges (ranges : List (Nat × Nat)) (n : Nat) : Bool :=
  ranges.any fun r => r.1 ≤ n && n ≤ r.2

/-- Blanks: the spaces, tabs, line breaks and separators of the character standard. -/
def isBlank (c : Char) : Bool :=
  let n := c.toNat
  if n < 128 then n == 32 || (9 ≤ n && n ≤ 13) || (28 ≤ n && n ≤ 31)
  else n == 0x85 || n == 0xA0 || n == 0x1680 || (0x2000 ≤ n && n ≤ 0x200A) || n == 0x2028 ||
    n == 0x2029 || n == 0x202F || n == 0x205F || n == 0x3000

/-- Letters and numbers of every script. -/
def isAlphanumeric (c : Char) : Bool :=
  if c.toNat < 128 then c.isAlphanum else inRanges alphanumericRanges c.toNat

/-- Characters of a word: letters, numbers and the underscore. -/
def isWordChar (c : Char) : Bool := c == '_' || isAlphanumeric c

/-- Characters of a hyphenated word. -/
def isNameChar (c : Char) : Bool := c == '-' || isWordChar c

/-- Letters of ASCII, `_` and `$` may begin an identifier of the suite's language. -/
def isIdentifierStart (c : Char) : Bool := c.isAlpha || c == '_' || c == '$'

/-- Letters and digits of ASCII, `_` and `$` may continue an identifier of the suite's language. -/
def isIdentifierPart (c : Char) : Bool := isIdentifierStart c || c.isDigit

/-- Whether a word begins or ends between the two neighbours of a gap. -/
def atWordEdge (before after : Option Char) : Bool :=
  before.any isWordChar != after.any isWordChar

/-- The value of a decimal digit, in any script. -/
def digitValue? (c : Char) : Option Nat :=
  let n := c.toNat
  if n < 128 then if c.isDigit then some (n - 48) else none
  else (digitZeros.find? fun z => z ≤ n && n ≤ z + 9).map (n - ·)

/-- Decimal digits of every script. -/
def isDecimalDigit (c : Char) : Bool := (digitValue? c).isSome

/-- Upper-case characters; a title-case character is none. -/
def isUpper (c : Char) : Bool :=
  if c.toNat < 128 then c.isUpper else inRanges upperRanges c.toNat

/-- Characters that a terminal shows as they are. -/
def isPrintable (c : Char) : Bool :=
  if c.toNat < 128 then 32 ≤ c.toNat && c.toNat < 127 else inRanges printableRanges c.toNat

/-- The number written by decimal digits of any script, most significant first. -/
def decimalValue (digits : List Char) : Nat :=
  digits.foldl (fun n c => 10 * n + (digitValue? c).getD 0) 0

end Suitewright.Text
