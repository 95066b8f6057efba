/-
  Words, literals and raw text of the source language.

  Each reader takes the place where a lexeme should begin and gives the place after it.

  * `Lexeme`: the kinds of lexemes;
  * `Lexeme.read?`: the end of a lexeme at a place.
-/
import Suitewright.Script.Source

namespace Suitewright.Script

/-- The kinds of lexemes. -/
inductive Lexeme where
  /-- A name that is not reserved. -/
  | identifier
  /-- A name, reserved or not. -/
  | word
  /-- A name of a private member. -/
  | privateName
  /-- A number. -/
  | number
  /-- A quoted text on one line. -/
  | quoted
  /-- The characters of a template up to its end or an insertion. -/
  | templateChars
  /-- A regular expression. -/
  | regex
  /-- The characters between elements of markup. -/
  | markupText
  /-- A name in markup, which may hold hyphens. -/
  | markupName
  /-- A quoted value in markup, which may go over lines. -/
  | markupQuoted
  /-- The first line of an executable file. -/
  | hashBang
  deriving Repr, DecidableEq

/-- Lexemes that begin where the last token ends, with no gap between. -/
def Lexeme.isRaw : Lexeme → Bool
  | templateChars | markupText | hashBang => true
  | _ => false

/-- The signs of ASCII and the others that cannot stand in a name. -/
def isSign (c : Char) : Bool :=
  (c.toNat < 128 && !c.isAlphanum && c != '_' && c != '$') || isGapChar c || endsLine c

/-- Characters that may continue a name. -/
def isNamePart (c : Char) : Bool := !isSign c

/-- Characters that may begin a name. -/
def isNameStart (c : Char) : Bool := isNamePart c && !c.isDigit

/-- Names that cannot be used for anything else. -/
def reservedWords : List String :=
  ["break", "case", "catch", "class", "const", "continue", "debugger", "default", "delete", "do", "else",
    "enum", "export", "extends", "false", "finally", "for", "function", "if", "import", "in", "instanceof",
    "new", "null", "return", "super", "switch", "this", "throw", "true", "try", "typeof", "var", "void",
    "while", "with"]

namespace Source

variable (s : Source)

/-- The end of an escape of a name: four digits, or digits between braces. -/
def nameEscape? (i : Nat) : Option Nat :=
  if s.get? i == some '\\' && s.get? (i + 1) == some 'u' then
    if s.get? (i + 2) == some '\x7b' then
      let stop := s.skipWhile Char.isAlphanum (i + 3)
      if s.get? stop == some '\x7d' then some (stop + 1) else none
    else
      let stop := s.skipWhile Char.isAlphanum (i + 2)
      if i + 6 ≤ stop then some (i + 6) else none
  else none

/-- The end of the rest of a name. -/
def nameEnd : (fuel i : Nat) → Nat
  | 0, i => i
  | fuel + 1, i =>
    let j := s.skipWhile isNamePart i
    match s.nameEscape? j with
    | some k => nameEnd fuel k
    | none => j

/-- The end of a name at a place. -/
def name? (i : Nat) : Option Nat :=
  match s.get? i with
  | some c =>
    if isNameStart c then some (s.nameEnd (s.size - i) i)
    else (s.nameEscape? i).map fun j => s.nameEnd (s.size - i) j
  | none => none

/-- The end of digits with separators. -/
def digitsEnd (i : Nat) : Nat := s.skipWhile (fun c => c.isDigit || c == '_') i

/-- The end of an exponent, or the place itself. -/
def exponentEnd (i : Nat) : Nat :=
  if (s.get? i).any fun c => c == 'e' || c == 'E' then
    let j := if (s.get? (i + 1)).any fun c => c == '+' || c == '-' then i + 2 else i + 1
    let stop := s.digitsEnd j
    if stop == j then i else stop
  else i

/-- The end of a number at a place. -/
def number? (i : Nat) : Option Nat :=
  match s.get? i with
  | none => none
  | some c =>
    let suffixed (j : Nat) : Nat := if s.get? j == some 'n' then j + 1 else j
    if c == '0' && (s.get? (i + 1)).any fun d => "xXoObB".toList.contains d then
      some (suffixed (s.skipWhile (fun d => d.isDigit || ('a' ≤ d && d ≤ 'f') || ('A' ≤ d && d ≤ 'F') || d == '_')
        (i + 2)))
    else if c.isDigit then
      let j := s.digitsEnd i
      let j := if s.get? j == some '.' then s.digitsEnd (j + 1) else j
      some (suffixed (s.exponentEnd j))
    else if c == '.' && (s.get? (i + 1)).any Char.isDigit then some (s.exponentEnd (s.digitsEnd (i + 1)))
    else none

/-- The end of a text up to a closing quote; a backslash keeps the next character from closing it. -/
def quotedEnd? (quote : Char) (acrossLines : Bool) : (fuel i : Nat) → Option Nat
  | 0, _ => none
  | fuel + 1, i =>
    match s.get? i with
    | none => none
    | some c =>
      if c == quote then some (i + 1)
      else if c == '\\' && !acrossLines then quotedEnd? quote acrossLines fuel (i + 2)
      else if c == '\n' && !acrossLines then none
      else quotedEnd? quote acrossLines fuel (i + 1)

/-- The end of a quoted text at a place. -/
def quoted? (acrossLines : Bool) (i : Nat) : Option Nat :=
  match s.get? i with
  | some c =>
    if c == '"' || c == '\'' then s.quotedEnd? c acrossLines (s.size - i) (i + 1) else none
  | none => none

/-- The end of the characters of a template. -/
def templateEnd : (fuel i : Nat) → Nat
  | 0, i => i
  | fuel + 1, i =>
    match s.get? i with
    | none => i
    | some c =>
      if c.toNat == 96 then i
      else if c == '$' && s.get? (i + 1) == some '\x7b' then i
      else if c == '\\' then templateEnd fuel (i + 2)
      else templateEnd fuel (i + 1)

/-- The end of the body of a regular expression; a slash in a class does not close it. -/
def regexEnd? (inClass : Bool) : (fuel i : Nat) → Option Nat
  | 0, _ => none
  | fuel + 1, i =>
    match s.get? i with
    | none => none
    | some c =>
      if c == '\n' then none
      else if c == '\\' then regexEnd? inClass fuel (i + 2)
      else if c == '[' then regexEnd? true fuel (i + 1)
      else if c == ']' then regexEnd? false fuel (i + 1)
      else if c == '/' && !inClass then some (i + 1)
      else regexEnd? inClass fuel (i + 1)

/-- The end of a regular expression with its flags. -/
def regex? (i : Nat) : Option Nat :=
  if s.get? i == some '/' && (s.get? (i + 1)).all (fun c => c != '/' && c != '*') then
    (s.regexEnd? false (s.size - i) (i + 1)).map (s.skipWhile Char.isAlpha)
  else none

/-- The end of a name in markup. -/
def markupName? (i : Nat) : Option Nat :=
  (s.name? i).map (s.skipWhile fun c => isNamePart c || c == '-')

end Source

/-- A place, if it is after another one. -/
def progress? (start stop : Nat) : Option Nat := if start < stop then some stop else none

/-- The end of a lexeme that begins at a place. -/
def Lexeme.read? (s : Source) (i : Nat) : Lexeme → Option Nat
  | identifier =>
    match s.name? i with
    | some stop => if reservedWords.contains (s.slice i stop) then none else some stop
    | none => none
  | word => s.name? i
  | privateName => if s.get? i == some '#' then s.name? (i + 1) else none
  | number => s.number? i
  | quoted => s.quoted? false i
  | templateChars => progress? i (s.templateEnd (s.size - i) i)
  | regex => s.regex? i
  | markupText => progress? i (s.skipWhile (fun c => c != '<' && c != '\x7b') i)
  | markupName => s.markupName? i
  | markupQuoted => s.quoted? true i
  | hashBang =>
    if i == 0 && s.hasChars i ['#', '!'] then some (s.skipWhile (fun c => !endsLine c) i) else none

end Suitewright.Script
