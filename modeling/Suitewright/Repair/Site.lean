/-
  Places where a suite renders the component.

  * `Site`: a place `render(<Component ...>)` with its extent, its line and the text of its attributes;
  * `findSites`: all sites of a source, in order;
  * `hasAttribute`: whether an attribute text names a property.
-/
import Suitewright.Text.Scan

namespace Suitewright

open Text

/-- A place where the component is rendered. -/
structure Site where
  /-- Where `render(` begins. -/
  start : Nat
  /-- Where the attributes end, blanks after them left out. -/
  stop : Nat
  /-- The text between the component's name and `stop`. -/
  attributes : List Char
  /-- The line of `start`, counted from one. -/
  line : Nat
  deriving Repr, DecidableEq, Inhabited

namespace Site

/-- The quotes between which nothing closes an element. -/
def isQuote (c : Char) : Bool := c == '"' || c == '\'' || c.toNat == 96

/-- The text up to the `>` or `/>` that closes the element, if it is closed: neither counts between quotes or
braces. -/
def openTag? (depth : Int) (quote : Option Char) : List Char → Option (List Char)
  | [] => none
  | c :: cs =>
    match quote with
    | some q => (openTag? depth (if c == q then none else some q) cs).map (c :: ·)
    | none =>
      if isQuote c then (openTag? depth (some c) cs).map (c :: ·)
      else if c == '\x7b' then (openTag? (depth + 1) none cs).map (c :: ·)
      else if c == '\x7d' then (openTag? (depth - 1) none cs).map (c :: ·)
      else if depth == 0 && (c == '>' || (c == '/' && ['>'].isPrefixOf cs)) then some []
      else (openTag? depth none cs).map (c :: ·)

/-- The text without the blanks at its end. -/
def dropBlankEnd (cs : List Char) : List Char := (cs.reverse.dropWhile isBlank).reverse

/-- What follows `render(<Component` at the front, where the name must end as a word does. -/
def opener? (component : List Char) (cs : List Char) : Option (List Char) := do
  let rest ← after? "render(".toList cs
  let rest ← after? ('<' :: component) (skipBlanks rest)
  if atWordEdge (some (component.getLast?.getD '<')) rest.head? then some rest else none

/-- The number of characters of the opener at the front, if there is one. -/
def openerLength (component cs : List Char) : Nat :=
  match opener? component cs with
  | some rest => cs.length - rest.length
  | none => 0

/-- The site that begins at the front, which has an index and a line. -/
def siteHere? (component : List Char) (index line : Nat) (cs : List Char) : Option Site := do
  let rest ← opener? component cs
  let body ← openTag? 0 none rest
  let attributes := dropBlankEnd body
  return { start := index, stop := index + (cs.length - rest.length) + attributes.length, attributes, line }

/-- The line after a character. -/
def lineAfter (c : Char) (line : Nat) : Nat := if c == '\n' then line + 1 else line

/-- The sites from a place on: `skip` characters belong to the last opener; the place has an index and a line. -/
def sitesFrom (component : List Char) : (skip index line : Nat) → List Char → List Site
  | _, _, _, [] => []
  | skip + 1, index, line, c :: cs => sitesFrom component skip (index + 1) (lineAfter c line) cs
  | 0, index, line, c :: cs =>
    (siteHere? component index line (c :: cs)).toList ++
      sitesFrom component (openerLength component (c :: cs) - 1) (index + 1) (lineAfter c line) cs

end Site

/-- The sites of a source at which a component is rendered, in order. -/
def findSites (source : List Char) (component : String) : List Site :=
  Site.sitesFrom component.toList 0 0 1 source

/-- Whether a name stands in a text as a whole word, where hyphens belong to words; `before` is the character
before the text. -/
def namedIn (name : List Char) (before : Option Char) : List Char → Bool
  | [] => name.isEmpty && !before.any isNameChar
  | c :: cs =>
    (!before.any isNameChar &&
        (match after? name (c :: cs) with
          | some rest => !rest.head?.any isNameChar
          | none => false)) ||
      namedIn name (some c) cs

/-- Whether an attribute text names a property. -/
def hasAttribute (attributes : List Char) (prop : String) : Bool := namedIn prop.toList none attributes

end Suitewright
