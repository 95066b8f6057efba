/-
  Numbers written as text.

  * `readInteger`: an integer in a base, with a sign, the base's mark and single underscores between digits;
  * `readDecimal`: a decimal fraction, an infinity or no number;
  * `IntegerFault`: why a text is no integer, or why an integer has no text.

  Blanks around a number are ignored, and the digits of all scripts count. An integer in base ten has at most
  `maxDigits` digits.
-/
import Suitewright.Number.Binary64
import Suitewright.Text.Shown
import Suitewright.Text.Trim

namespace Suitewright.Number

/-- The most digits of an integer in base ten. -/
def maxDigits : Nat := 4300

/-- Why a text is no integer, or why an integer has no text. -/
inductive IntegerFault where
  /-- The text is not written like an integer in this base. -/
  | notAnInteger (base : Nat) (text : String)
  /-- The text has too many digits; holds their number. -/
  | tooManyDigits (digits : Nat)
  /-- The integer would have too many digits. -/
  | tooLarge
  deriving Repr, DecidableEq, Inhabited

/-- What is to be done about the greatest number of digits. -/
def digitAdvice : String := "; use sys.set_int_max_str_digits() to increase the limit"

/-- The complaint about the greatest number of digits. -/
def digitComplaint : String := "Exceeds the limit (4300 digits) for integer string conversion"

/-- A text as it is shown in a complaint: the first 200 characters of its quoted form. -/
def shownStart (text : String) : String := .ofList ((Text.shown text).toList.take 200)

/-- The reason in words. -/
def IntegerFault.message : IntegerFault → String
  | notAnInteger base text =>
    "invalid literal for int() with base " ++ toString base ++ ": " ++ shownStart text
  | tooManyDigits digits => digitComplaint ++ ": value has " ++ toString digits ++ " digits" ++ digitAdvice
  | tooLarge => digitComplaint ++ digitAdvice

/-! ## Integers -/

/-- The value of a digit in bases up to sixteen; decimal digits may be of any script. -/
def digitIn? (base : Nat) (c : Char) : Option Nat :=
  let n := c.toNat
  let value? := (Text.digitValue? c).or
    (if 'a'.toNat ≤ n && n ≤ 'f'.toNat then some (n - 'a'.toNat + 10)
    else if 'A'.toNat ≤ n && n ≤ 'F'.toNat then some (n - 'A'.toNat + 10) else none)
  value?.filter (· < base)

/-- The letters that mark a base after a zero. -/
def baseMarks (base : Nat) : List Char :=
  if base == 2 then ['b', 'B'] else if base == 8 then ['o', 'O'] else if base == 16 then ['x', 'X'] else []

/-- The text without the mark of the base, which an underscore may follow. -/
def dropMark (base : Nat) (cs : List Char) : List Char :=
  match cs with
  | '0' :: m :: rest =>
    if (baseMarks base).contains m then
      match rest with
      | '_' :: more => more
      | _ => rest
    else cs
  | _ => cs

/-- The values of digits with single underscores between them, and what follows. -/
def readDigits (base : Nat) : List Char → List Nat × List Char
  | [] => ([], [])
  | c :: cs =>
    match digitIn? base c with
    | some d => match readDigits base cs with
      | (ds, rest) => (d :: ds, rest)
    | none =>
      if c == '_' then
        match cs with
        | [] => ([], c :: cs)
        | c' :: cs' =>
          match digitIn? base c' with
          | some d => match readDigits base cs' with
            | (ds, rest) => (d :: ds, rest)
          | none => ([], c :: cs)
      else ([], c :: cs)

/-- The sign of a number and what follows it; true is minus. -/
def readSign : List Char → Bool × List Char
  | '-' :: cs => (true, cs)
  | '+' :: cs => (false, cs)
  | cs => (false, cs)

/-- The integer that a text denotes in a base. -/
def readInteger (base : Nat) (text : String) : Except IntegerFault Int :=
  let (negative, cs) := readSign (Text.trimChars text.toList)
  let cs := dropMark base cs
  let (digits, rest) := if cs.head? == some '_' then ([], cs) else readDigits base cs
  if base == 10 && maxDigits < digits.length then .error (.tooManyDigits digits.length)
  else if digits.isEmpty || !rest.isEmpty then .error (.notAnInteger base text)
  else
    let value : Nat := digits.foldl (fun n d => base * n + d) 0
    .ok (if negative then -value else value)

/-- The digits of an integer, unless there are too many. -/
def integerText (n : Int) : Except IntegerFault String :=
  if n.natAbs < Nat.pow 10 maxDigits then .ok (toString n) else .error .tooLarge

/-! ## Decimal fractions -/

/-- Decimal digits and what follows them. -/
def spanDigits (cs : List Char) : List Char × List Char :=
  (cs.takeWhile Text.isDecimalDigit, cs.dropWhile Text.isDecimalDigit)

/-- The exponent of a decimal, if it ends with one or with nothing. -/
def exponent? : List Char → Option Int
  | [] => some 0
  | c :: cs =>
    if c == 'e' || c == 'E' then
      let (negative, cs) := readSign cs
      let (digits, rest) := spanDigits cs
      if digits.isEmpty || !rest.isEmpty then none
      else some (if negative then -(Text.decimalValue digits : Int) else Text.decimalValue digits)
    else none

/-- The value of an unsigned decimal. -/
def unsignedDecimal? (negative : Bool) (cs : List Char) : Option Binary64 :=
  let word := String.ofList (cs.map Char.toLower)
  if word == "inf" || word == "infinity" then some (.infinite negative)
  else if word == "nan" then some .nan
  else
    let (whole, rest) := spanDigits cs
    let (part, rest) := match rest with
      | '.' :: more => spanDigits more
      | _ => ([], rest)
    if whole.isEmpty && part.isEmpty then none
    else (exponent? rest).map fun e =>
      Binary64.ofDecimal negative (Text.decimalValue (whole ++ part)) (e - part.length)

/-- The value of a decimal. -/
def readDecimal? (text : String) : Option Binary64 :=
  let (negative, cs) := readSign (Text.trimChars text.toList)
  unsignedDecimal? negative cs

end Suitewright.Number
