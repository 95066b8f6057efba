/-
  Upper and lower case of every script.

  * `upperChars c`: the upper form of one character, which may take several;
  * `lower`: the lower form of a text, in which a capital sigma at the end of a word becomes `ς`;
  * `capitalize`: the first character in upper form, the rest kept.
-/
import Suitewright.Text.CaseContext
import Suitewright.Text.Class

namespace Suitewright.Text

/-- Follows the run that holds a code point, if any. -/
def followRun (runs : List (Nat × Nat × Nat × Int)) (n : Nat) : Option Nat :=
  (runs.find? fun (lo, hi, step, _) => lo ≤ n && n ≤ hi && (n - lo) % step == 0).map
    fun (_, _, _, offset) => (Int.ofNat n + offset).toNat

/-- The upper form of a character. -/
def upperChars (c : Char) : List Char :=
  if c.toNat < 128 then [c.toUpper]
  else match upperExpansions.lookup c.toNat with
    | some codes => codes.map Char.ofNat
    | none => [((followRun upperRuns c.toNat).map Char.ofNat).getD c]

/-- The lower form of a character, a capital sigma apart. -/
def lowerChars (c : Char) : List Char :=
  if c.toNat < 128 then [c.toLower]
  else if c.toNat == 0x130 then ['i', Char.ofNat 0x307]
  else [((followRun lowerRuns c.toNat).map Char.ofNat).getD c]

/-- Signs and marks that are passed over when the letter beside a sigma is looked for. -/
def isPassedOver (c : Char) : Bool :=
  if c.toNat < 128 then c == '\'' || c == '.' || c == ':' || c == '^' || c.toNat == 96
  else inRanges passedOverRanges c.toNat

/-- Letters that have case and are not passed over. -/
def isCased (c : Char) : Bool :=
  if c.toNat < 128 then c.isAlpha else inRanges casedRanges c.toNat

/-- Whether the nearest character that is not passed over is a cased letter. -/
def casedAhead (cs : List Char) : Bool :=
  (cs.find? fun c => !isPassedOver c).any isCased

/-- The capital sigma. -/
def capitalSigma : Char := Char.ofNat 0x3A3

/-- Lowers the characters after `before`, which holds the preceding ones, nearest first. -/
def lowerFrom (before : List Char) : List Char → List Char
  | [] => []
  | c :: cs =>
    (if c == capitalSigma then
        [if casedAhead before && !casedAhead cs then Char.ofNat 0x3C2 else Char.ofNat 0x3C3]
      else lowerChars c) ++ lowerFrom (c :: before) cs

/-- The lower form of a text. -/
def lower (s : String) : String := .ofList (lowerFrom [] s.toList)

/-- The upper form of the first character, before the rest. -/
def capitalizeChars : List Char → List Char
  | [] => []
  | c :: cs => upperChars c ++ cs

/-- Capitalizes the first character of a text and keeps the rest. -/
def capitalize (s : String) : String := .ofList (capitalizeChars s.toList)

end Suitewright.Text
