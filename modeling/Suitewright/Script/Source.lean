/-
  Source text with its gaps.

  * `Source`: the characters of a text, with the end of the gap at each place;
  * `Source.gapEnd`, `breakInGap`: where the blanks and comments after a place end, and whether the line ends
    in them;
  * `Source.comments`: the comments of a gap.
-/
import Suitewright.Text.Class

namespace Suitewright.Script

/-- A gap at a place: where it ends, and whether the line ends in it. -/
structure Gap where
  /-- The place of the next token. -/
  stop : Nat
  /-- Whether a line break comes before it. -/
  hasBreak : Bool
  deriving Inhabited

/-- A source text with the gap at each place. -/
structure Source where
  /-- The characters. -/
  chars : Array Char
  /-- The gap at each place; one more than there are characters. -/
  gaps : Array Gap

/-- Blanks of the source language. -/
def isGapChar (c : Char) : Bool :=
  Text.isBlank c || c.toNat == 0xFEFF || c.toNat == 0x2060 || c.toNat == 0x200B

/-- Characters that end a line comment. -/
def endsLine (c : Char) : Bool := c == '\n' || c == '\r' || c.toNat == 0x2028 || c.toNat == 0x2029

/-- The length of the comment at the front of a text, if there is one. -/
def commentLength? : List Char → Option Nat
  | '/' :: '/' :: rest => some ((rest.takeWhile fun c => !endsLine c).length + 2)
  | '/' :: '*' :: rest => (blockLength? rest).map (· + 2)
  | _ => none
where
  /-- The length of a block comment from after its opening on. -/
  blockLength? : List Char → Option Nat
    | '*' :: '/' :: _ => some 2
    | _ :: rest => (blockLength? rest).map (· + 1)
    | [] => none

namespace Source

/-- The gaps at all places of the text `cs`, whose first place is `start`; the first gap comes first. -/
def gapsFrom : (start : Nat) → List Char → List Gap
  | start, [] => [⟨start, false⟩]
  | start, c :: cs =>
    let later := gapsFrom (start + 1) cs
    let gap : Gap :=
      if isGapChar c then
        let next := later.headD ⟨start + 1, false⟩
        { next with hasBreak := next.hasBreak || c == '\n' }
      else if c == '/' then
        match commentLength? (c :: cs) with
        | some n =>
          let next := (later.drop (n - 1)).headD ⟨start + n, false⟩
          { next with hasBreak := next.hasBreak || (cs.take (n - 1)).contains '\n' }
        | none => ⟨start, false⟩
      else ⟨start, false⟩
    gap :: later

/-- The source of a text. -/
def ofText (text : String) : Source where
  chars := text.toList.toArray
  gaps := (gapsFrom 0 text.toList).toArray

/-- The number of characters. -/
def size (s : Source) : Nat := s.chars.size

/-- The character at a place. -/
def get? (s : Source) (i : Nat) : Option Char := s.chars[i]?

/-- The gap at a place. -/
def gap (s : Source) (i : Nat) : Gap := s.gaps[i]?.getD ⟨i, false⟩

/-- Where the gap at a place ends. -/
def gapEnd (s : Source) (i : Nat) : Nat := (s.gap i).stop

/-- Whether the line ends in the gap at a place. -/
def breakInGap (s : Source) (i : Nat) : Bool := (s.gap i).hasBreak

/-- The text between two places. -/
def slice (s : Source) (start stop : Nat) : String := .ofList (s.chars.extract start stop).toList

/-- Whether the given characters stand at a place. -/
def hasChars (s : Source) : Nat → List Char → Bool
  | _, [] => true
  | i, c :: cs => s.get? i == some c && hasChars s (i + 1) cs

/-- The first place from `i` on at which `p` fails, at most `fuel` places on. -/
def spanEnd (s : Source) (p : Char → Bool) : (fuel i : Nat) → Nat
  | 0, i => i
  | fuel + 1, i =>
    match s.get? i with
    | some c => if p c then spanEnd s p fuel (i + 1) else i
    | none => i

/-- The place after the last of the characters with `p` from a place on. -/
def skipWhile (s : Source) (p : Char → Bool) (i : Nat) : Nat := s.spanEnd p (s.size - i) i

/-- The comments between two places of a gap, each with its extent. -/
def comments (s : Source) : (fuel start stop : Nat) → List (Nat × Nat)
  | 0, _, _ => []
  | fuel + 1, start, stop =>
    if stop ≤ start then []
    else if s.get? start == some '/' then
      match commentLength? (s.chars.extract start stop).toList with
      | some n => (start, start + n) :: comments s fuel (start + n) stop
      | none => []
    else comments s fuel (start + 1) stop

end Source

end Suitewright.Script
