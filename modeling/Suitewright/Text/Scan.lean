/-
  Finding and replacing patterns, from left to right.

  * a pattern looks at the character before a place and at the text from there on; it gives a result and what
    is left after the part that it matched;
  * `findAll`: the results of all matches; each search goes on where the last match ended;
  * `replaceAll`: the text with every match replaced;
  * `after?`: what is left after a fixed text.
-/
import Suitewright.Text.Class

namespace Suitewright.Text

/-- What is left after the fixed text `part` at the front. -/
def after? : (part cs : List Char) → Option (List Char)
  | [], cs => some cs
  | _ :: _, [] => none
  | p :: ps, c :: cs => if p == c then after? ps cs else none

/-- A non-empty run of characters with `p` at the front, and what is left. -/
def run? (p : Char → Bool) (cs : List Char) : Option (List Char × List Char) :=
  if (cs.takeWhile p).isEmpty then none else some (cs.takeWhile p, cs.dropWhile p)

/-- Skips the blanks at the front. -/
def skipBlanks (cs : List Char) : List Char := cs.dropWhile isBlank

/-- The results of a pattern from a place on: `skip` characters belong to the last match, and `before` is the
character before the place. A pattern that matches nothing at all counts as a match of one character. -/
def findFrom {α : Type} (pattern : Option Char → List Char → Option (α × List Char)) :
    (skip : Nat) → (before : Option Char) → List Char → List α
  | _, _, [] => []
  | skip + 1, _, c :: cs => findFrom pattern skip (some c) cs
  | 0, before, c :: cs =>
    match pattern before (c :: cs) with
    | none => findFrom pattern 0 (some c) cs
    | some (a, rest) => a :: findFrom pattern (cs.length - rest.length) (some c) cs

/-- The results of all matches of a pattern. -/
def findAll {α : Type} (pattern : List Char → Option (α × List Char)) (cs : List Char) : List α :=
  findFrom (fun _ cs => pattern cs) 0 none cs

/-- The text from a place on with every match replaced by the pattern's result. -/
def replaceFrom (pattern : Option Char → List Char → Option (List Char × List Char)) :
    (skip : Nat) → (before : Option Char) → List Char → List Char
  | _, _, [] => []
  | skip + 1, _, c :: cs => replaceFrom pattern skip (some c) cs
  | 0, before, c :: cs =>
    match pattern before (c :: cs) with
    | none => c :: replaceFrom pattern 0 (some c) cs
    | some (a, rest) => a ++ replaceFrom pattern (cs.length - rest.length) (some c) cs

/-- The text with every match of a pattern replaced by its result. -/
def replaceAll (pattern : List Char → Option (List Char × List Char)) (cs : List Char) : List Char :=
  replaceFrom (fun _ cs => pattern cs) 0 none cs

/-- The first place at which a pattern matches, and what it gives there. -/
def findFirst? {α : Type} (pattern : List Char → Option α) : List Char → Option α
  | [] => pattern []
  | c :: cs => (pattern (c :: cs)).or (findFirst? pattern cs)

/-- Whether a text occurs in another one. -/
def occursIn (part : List Char) : List Char → Bool
  | [] => part.isEmpty
  | c :: cs => part.isPrefixOf (c :: cs) || occursIn part cs

end Suitewright.Text
