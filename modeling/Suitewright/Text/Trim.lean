/-
  Trimming and splitting.

  * `dropEnds p`: drops the characters with `p` from both ends; `trim` drops blanks;
  * `pieces`: the parts between the occurrences of a separator, empty ones included;
  * `runsOf p`: the maximal runs of characters with `p`; `words` are the runs of non-blanks.
-/
import Suitewright.Text.Class

namespace Suitewright.Text

/-- Drops the characters with `p` from the end. -/
def dropEnd (p : Char → Bool) (cs : List Char) : List Char :=
  (cs.reverse.dropWhile p).reverse

/-- Drops the characters with `p` from both ends. -/
def dropEnds (p : Char → Bool) (cs : List Char) : List Char :=
  dropEnd p (cs.dropWhile p)

/-- Drops the blanks at both ends. -/
def trimChars (cs : List Char) : List Char := dropEnds isBlank cs

/-- A text without the blanks at its ends. -/
def trim (s : String) : String := .ofList (trimChars s.toList)

/-- The parts between the characters equal to `sep`; one more than there are separators. -/
def pieces (sep : Char) : List Char → List (List Char)
  | [] => [[]]
  | c :: cs =>
    if c == sep then [] :: pieces sep cs
    else match pieces sep cs with
      | [] => [[c]]
      | p :: ps => (c :: p) :: ps

/-- The maximal runs of characters with `p`, in order. -/
def runsOf (p : Char → Bool) : List Char → List (List Char)
  | [] => []
  | c :: cs =>
    if p c then
      match cs with
      | [] => [[c]]
      | d :: _ =>
        if p d then
          match runsOf p cs with
          | [] => [[c]]
          | r :: rs => (c :: r) :: rs
        else [c] :: runsOf p cs
    else runsOf p cs

/-- The words of a text: its runs of characters that are not blank. -/
def words (s : String) : List String :=
  (runsOf (fun c => !isBlank c) s.toList).map String.ofList

end Suitewright.Text
