/-
  Replacement templates.

  A template is text in which a backslash begins an escape: a control character, a character by its octal
  code, or a group of the match. The patterns of this library have no groups but the whole match.

  * `TemplateFault`: what may be wrong with a template;
  * `Template.read`: the parts of a template;
  * `Template.fill`: the template's text for a match.
-/
import Suitewright.Text.Shown

namespace Suitewright

/-- What is wrong with a template. -/
inductive TemplateFault where
  /-- An escape by a letter without a meaning. -/
  | badEscape (escape : String)
  /-- A group that the pattern does not have. -/
  | invalidGroup (number : Nat)
  /-- A group reference without its bracket. -/
  | missingBracket
  /-- A group reference without a name. -/
  | missingName
  /-- A group reference that does not end. -/
  | unterminatedName
  /-- A group name with a bad character. -/
  | badName (name : String)
  /-- An octal code beyond one byte. -/
  | octalRange (escape : String)
  deriving Repr, DecidableEq

/-- What is wrong, in words. -/
def TemplateFault.message : TemplateFault → String
  | badEscape e => "bad escape " ++ e
  | invalidGroup n => "invalid group reference " ++ toString n
  | missingBracket => "missing <"
  | missingName => "missing group name"
  | unterminatedName => "missing >, unterminated name"
  | badName n => "bad character in group name " ++ Text.shown n
  | octalRange e => "octal escape value " ++ e ++ " outside of range 0-0o377"

/-- Why a template cannot be used. -/
inductive TemplateError where
  /-- A fault at a place of the template. -/
  | fault (template : String) (position : Nat) (fault : TemplateFault)
  /-- A group name that the pattern does not have. -/
  | unknownName (name : String)
  deriving Repr, DecidableEq

/-- The message of a template that cannot be used; a template of several lines also tells line and column. -/
def TemplateError.message : TemplateError → String
  | fault template position f =>
    let before := template.toList.take position
    let column := (before.reverse.takeWhile (· != '\n')).length + 1
    f.message ++ " at position " ++ toString position ++
      (if template.toList.contains '\n' then
        " (line " ++ toString (before.count '\n' + 1) ++ ", column " ++
          toString (if before.contains '\n' then column else position + 1) ++ ")"
      else "")
  | unknownName name => "unknown group name " ++ Text.shown name

/-- A part of a template. -/
inductive TemplatePart where
  /-- A character. -/
  | char (c : Char)
  /-- The whole match. -/
  | whole
  deriving Repr, DecidableEq

namespace Template

/-- Octal digits. -/
def isOctal (c : Char) : Bool := '0' ≤ c && c ≤ '7'

/-- The character of an escape by a letter. -/
def letterEscape? (c : Char) : Option Char :=
  ([('a', 7), ('b', 8), ('f', 12), ('n', 10), ('r', 13), ('t', 9), ('v', 11), ('\\', 92)].lookup c).map
    Char.ofNat

/-- The value of octal digits. -/
def octalValue (digits : List Char) : Nat := digits.foldl (fun n c => 8 * n + (c.toNat - 48)) 0

/-- The number written in a group name: blanks around it, a plus sign and single underscores between its
digits are allowed, and so is the negative zero. -/
def groupNumber? (name : List Char) : Option Nat :=
  let trimmed := ((name.dropWhile Text.isBlank).reverse.dropWhile Text.isBlank).reverse
  let (negative, digits) := match trimmed with
    | '-' :: rest => (true, rest)
    | '+' :: rest => (false, rest)
    | rest => (false, rest)
  let rec wellFormed : List Char → Bool
    | [] => false
    | [c] => Text.isDecimalDigit c
    | c :: '_' :: rest => Text.isDecimalDigit c && wellFormed rest
    | c :: rest => Text.isDecimalDigit c && wellFormed rest
  let n := Text.decimalValue (digits.filter (· != '_'))
  if wellFormed digits && digits.length ≤ 4300 && !(negative && n != 0) then some n else none

/-- Whether a group name is an identifier. -/
def isIdentifier : List Char → Bool
  | [] => false
  | c :: cs => Text.isWordChar c && !Text.isDecimalDigit c && cs.all Text.isWordChar

/-- The group name up to `>`; an escape pair in it counts as one. Gives the name and what follows. -/
def nameUpTo? : List Char → Option (List Char × List Char)
  | [] => none
  | '>' :: rest => some ([], rest)
  | '\\' :: c :: rest => (nameUpTo? rest).map fun (n, r) => ('\\' :: c :: n, r)
  | c :: rest => (nameUpTo? rest).map fun (n, r) => (c :: n, r)

/-- Reads the rest of a template; the position of a fault counts from the end of the text `whole`. -/
def readFrom (whole : String) : Nat → List Char → Except TemplateError (List TemplatePart)
  | 0, _ => .ok []
  | _ + 1, [] => .ok []
  | fuel + 1, '\\' :: c :: rest =>
    let length := whole.toList.length
    let here := length - rest.length
    let failAt {α : Type} (position : Nat) (f : TemplateFault) : Except TemplateError α :=
      .error (.fault whole position f)
    if c == 'g' then
      match rest with
      | '<' :: inner =>
        match nameUpTo? inner with
        | none => if inner.isEmpty then failAt length .missingName else failAt (here + 1) .unterminatedName
        | some ([], _) => failAt (here + 1) .missingName
        | some (name, rest) =>
          if isIdentifier name then .error (.unknownName (.ofList name))
          else match groupNumber? name with
            | none => failAt (here + 1) (.badName (.ofList name))
            | some 0 => return .whole :: (← readFrom whole fuel rest)
            | some n => failAt (here + 1) (.invalidGroup n)
      | _ => failAt here .missingBracket
    else if c == '0' then
      let more := (rest.take 2).takeWhile isOctal
      return .char (Char.ofNat (octalValue more % 256)) :: (← readFrom whole fuel (rest.drop more.length))
    else if c.isDigit then
      match rest with
      | d :: e :: more =>
        if isOctal c && isOctal d && isOctal e then
          if octalValue [c, d, e] > 0o377 then failAt (here - 2) (.octalRange (.ofList ['\\', c, d, e]))
          else return .char (Char.ofNat (octalValue [c, d, e])) :: (← readFrom whole fuel more)
        else failAt (here - 1) (.invalidGroup (Text.decimalValue (if d.isDigit then [c, d] else [c])))
      | d :: [] => failAt (here - 1) (.invalidGroup (Text.decimalValue (if d.isDigit then [c, d] else [c])))
      | [] => failAt (here - 1) (.invalidGroup (Text.decimalValue [c]))
    else match letterEscape? c with
      | some d => return .char d :: (← readFrom whole fuel rest)
      | none =>
        if c.isAlpha then failAt (here - 2) (.badEscape (.ofList ['\\', c]))
        else return .char '\\' :: .char c :: (← readFrom whole fuel rest)
  | fuel + 1, c :: rest => return .char c :: (← readFrom whole fuel rest)

/-- The parts of a template. -/
def read (template : String) : Except TemplateError (List TemplatePart) :=
  readFrom template (template.toList.length + 1) template.toList

/-- The template's text for a match. -/
def fill (parts : List TemplatePart) (whole : List Char) : List Char :=
  parts.flatMap fun
    | .char c => [c]
    | .whole => whole

end Template

end Suitewright
