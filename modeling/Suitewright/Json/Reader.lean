/-
  Reading values of the interchange format.

  * `Json.Fault`, `ReadError`: why a text is no value, with the place of the fault;
  * `Json.read`: the value written by a whole text;
  * `ReadError.message`: the fault in words, with its line and column.

  Blanks are the four ASCII ones. `NaN` and the infinities are numbers, a key that comes twice keeps its first
  place and its last value, and control characters may not stand in a quoted text. Integers have a greatest
  length and lists and objects a greatest depth.
-/
import Suitewright.Json.Value
import Suitewright.Number.Literal

namespace Suitewright

/-- How a text breaks the grammar. -/
inductive Json.Fault where
  /-- There is no value where one is needed. -/
  | noValue
  /-- There is no key where one is needed. -/
  | noKey
  /-- A key is not followed by a colon. -/
  | noColon
  /-- A value is not followed by a comma or the end of its list or object. -/
  | noComma
  /-- A quoted text does not end. -/
  | unterminated
  /-- A control character stands in a quoted text. -/
  | control
  /-- A backslash is followed by a letter that has no meaning. -/
  | escape
  /-- An escape of sixteen bits has not four digits. -/
  | unit
  /-- Something follows the value. -/
  | extra
  /-- The text begins with a byte-order mark. -/
  | mark
  deriving Repr, DecidableEq, Inhabited

/-- The fault in words. -/
def Json.Fault.message : Json.Fault → String
  | noValue => "Expecting value"
  | noKey => "Expecting property name enclosed in double quotes"
  | noColon => "Expecting ':' delimiter"
  | noComma => "Expecting ',' delimiter"
  | unterminated => "Unterminated string starting at"
  | control => "Invalid control character at"
  | escape => "Invalid \\escape"
  | unit => "Invalid \\uXXXX escape"
  | extra => "Extra data"
  | mark => "Unexpected UTF-8 BOM (decode using utf-8-sig)"

/-- Why a text is not a value. -/
inductive ReadError where
  /-- The text breaks the grammar; `remaining` characters were left at the fault. -/
  | malformed (fault : Json.Fault) (remaining : Nat)
  /-- An integer has too many digits; holds their number. -/
  | longInteger (digits : Nat)
  /-- Lists and objects are nested too deeply; the last one is an object or a list. -/
  | tooDeep (inObject : Bool)
  deriving Repr, DecidableEq

/-- The place in a text at which the fault is, for a fault of grammar. -/
def ReadError.position? (text : String) : ReadError → Option Nat
  | malformed _ remaining => some (text.length - remaining)
  | _ => none

/-- The error of reading a text, in words; lines and columns count from one. -/
def ReadError.message (text : String) : ReadError → String
  | malformed fault remaining =>
    let before := text.toList.take (text.length - remaining)
    let line := before.count '\n' + 1
    let column := (before.reverse.takeWhile (· != '\n')).length + 1
    fault.message ++ ": line " ++ toString line ++ " column " ++ toString column ++
      " (char " ++ toString before.length ++ ")"
  | longInteger digits => (Number.IntegerFault.tooManyDigits digits).message
  | tooDeep inObject =>
    "maximum recursion depth exceeded while decoding a JSON " ++ (if inObject then "object" else "array") ++
      " from a unicode string"

namespace Json

/-- The most digits an integer may have. -/
def maxIntegerDigits : Nat := 4300

/-- The deepest nesting of lists and objects. -/
def maxDepth : Nat := 970

/-- The blanks between tokens. -/
def isGap (c : Char) : Bool := c == ' ' || c == '\t' || c == '\n' || c == '\r'

/-- Skips blanks. -/
def skipGap (cs : List Char) : List Char := cs.dropWhile isGap

/-- A fault at the front of `cs`. -/
def faultAt {α : Type} (fault : Fault) (cs : List Char) : Except ReadError (α × List Char) :=
  .error (.malformed fault cs.length)

/-- The value of a hexadecimal digit. -/
def hexValue? (c : Char) : Option Nat :=
  if c.isDigit then some (c.toNat - 48)
  else if 'a' ≤ c && c ≤ 'f' then some (c.toNat - 87)
  else if 'A' ≤ c && c ≤ 'F' then some (c.toNat - 55)
  else none

/-- The value of four hexadecimal digits at the front. -/
def hexUnit? : List Char → Option (Nat × List Char)
  | a :: b :: c :: d :: rest => do
    let a ← hexValue? a
    let b ← hexValue? b
    let c ← hexValue? c
    let d ← hexValue? d
    return (((a * 16 + b) * 16 + c) * 16 + d, rest)
  | _ => none

/-- The character of a one-letter escape. -/
def plainEscape? (c : Char) : Option Char :=
  if c == '"' then some '"'
  else if c == '\\' then some '\\'
  else if c == '/' then some '/'
  else if c == 'b' then some (Char.ofNat 8)
  else if c == 'f' then some (Char.ofNat 12)
  else if c == 'n' then some '\n'
  else if c == 'r' then some '\r'
  else if c == 't' then some '\t'
  else none

/-- The character of a unit of sixteen bits; half of a pair alone is shown as the replacement character. -/
def ofUnit (n : Nat) : Char := if 0xD800 ≤ n && n < 0xE000 then Char.ofNat 0xFFFD else Char.ofNat n

/-- Reads what follows `\u`: a unit, or two units that make a pair. `start` is the text from the letter `u`
on. Four digits that end the text are no unit, as the closing quote is missing. -/
def readUnit (start cs : List Char) : Except ReadError (Char × List Char) :=
  match hexUnit? cs with
  | none | some (_, []) => faultAt .unit start
  | some (hi, rest) =>
    if 0xD800 ≤ hi && hi < 0xDC00 && 6 < rest.length then
      match rest with
      | '\\' :: 'u' :: more =>
        match hexUnit? more with
        | none => faultAt .unit (rest.drop 1)
        | some (lo, after) =>
          if 0xDC00 ≤ lo && lo < 0xE000 then
            .ok (Char.ofNat (0x10000 + (hi - 0xD800) * 1024 + (lo - 0xDC00)), after)
          else .ok (ofUnit hi, rest)
      | _ => .ok (ofUnit hi, rest)
    else .ok (ofUnit hi, rest)

/-- Reads a quoted text up to its closing quote. `opening` counts the characters from the opening quote on;
`done` holds what was read, last first. -/
def readQuoted (opening : Nat) : Nat → List Char → List Char → Except ReadError (String × List Char)
  | 0, _, _ => .error (.malformed .unterminated opening)
  | _ + 1, _, [] => .error (.malformed .unterminated opening)
  | fuel + 1, done, c :: cs =>
    if c == '"' then .ok (.ofList done.reverse, cs)
    else if c == '\\' then
      match cs with
      | [] => .error (.malformed .unterminated opening)
      | 'u' :: rest => do
        let (d, rest) ← readUnit cs rest
        readQuoted opening fuel (d :: done) rest
      | e :: rest =>
        match plainEscape? e with
        | some d => readQuoted opening fuel (d :: done) rest
        | none => faultAt .escape (c :: cs)
    else if c.toNat < 32 then faultAt .control (c :: cs)
    else readQuoted opening fuel (c :: done) cs

/-- Reads a quoted text whose opening quote has been read. -/
def readText (cs : List Char) : Except ReadError (String × List Char) := readQuoted (cs.length + 1) (cs.length + 1) [] cs

/-- The fraction of a number: a point and at least one digit. -/
def readFraction (cs : List Char) : List Char × List Char :=
  match cs with
  | '.' :: rest =>
    let digits := rest.takeWhile Char.isDigit
    if digits.isEmpty then ([], cs) else (digits, rest.dropWhile Char.isDigit)
  | _ => ([], cs)

/-- The exponent of a number. -/
def readExponent (cs : List Char) : Option Int × List Char :=
  match cs with
  | e :: rest =>
    if e == 'e' || e == 'E' then
      let (negative, rest) := match rest with
        | '-' :: r => (true, r)
        | '+' :: r => (false, r)
        | r => (false, r)
      let digits := rest.takeWhile Char.isDigit
      if digits.isEmpty then (none, cs)
      else
        let n : Nat := digits.foldl (fun n c => 10 * n + (c.toNat - 48)) 0
        (some (if negative then -(n : Int) else n), rest.dropWhile Char.isDigit)
    else (none, cs)
  | [] => (none, cs)

/-- The number written by ASCII digits. -/
def ofDigits (digits : List Char) : Nat := digits.foldl (fun n c => 10 * n + (c.toNat - 48)) 0

/-- Reads a number whose digits begin at `cs`; `start` is the text from its sign on. -/
def readNumber (negative : Bool) (start cs : List Char) : Except ReadError (Json × List Char) :=
  let (whole, rest) := match cs with
    | '0' :: rest => (['0'], rest)
    | _ => (cs.takeWhile Char.isDigit, cs.dropWhile Char.isDigit)
  if whole.isEmpty then faultAt .noValue start
  else
    let (fraction, rest) := readFraction rest
    let (exponent, rest) := readExponent rest
    if fraction.isEmpty && exponent.isNone then
      if maxIntegerDigits < whole.length then .error (.longInteger whole.length)
      else .ok (.int (if negative then -(ofDigits whole : Int) else ofDigits whole), rest)
    else
      .ok (.float (.ofDecimal negative (ofDigits (whole ++ fraction))
        (exponent.getD 0 - fraction.length)), rest)

/-- What is left after a word at the front. -/
def afterWord? (word : String) (cs : List Char) : Option (List Char) :=
  if word.toList.isPrefixOf cs then some (cs.drop word.length) else none

/-- Reads the items of a list up to its bracket. -/
def readItems (readOne : List Char → Except ReadError (Json × List Char)) :
    Nat → List Json → List Char → Except ReadError (List Json × List Char)
  | 0, _, cs => faultAt .noValue cs
  | fuel + 1, done, cs => do
    let (v, rest) ← readOne cs
    match skipGap rest with
    | ']' :: rest => .ok ((v :: done).reverse, rest)
    | ',' :: rest => readItems readOne fuel (v :: done) (skipGap rest)
    | rest => faultAt .noComma rest

/-- Reads the entries of an object up to its brace. -/
def readFields (readOne : List Char → Except ReadError (Json × List Char)) :
    Nat → List (String × Json) → List Char → Except ReadError (List (String × Json) × List Char)
  | 0, _, cs => faultAt .noKey cs
  | fuel + 1, done, cs =>
    match cs with
    | '"' :: rest => do
      let (key, rest) ← readText rest
      match skipGap rest with
      | ':' :: rest => do
        let (v, rest) ← readOne (skipGap rest)
        let done := Fields.insert done key v
        match skipGap rest with
        | '}' :: rest => .ok (done, rest)
        | ',' :: rest => readFields readOne fuel done (skipGap rest)
        | rest => faultAt .noComma rest
      | rest => faultAt .noColon rest
    | _ => faultAt .noKey cs

/-- Reads one value at the front, with room for `depth` levels of nesting. -/
def readValue : Nat → List Char → Except ReadError (Json × List Char)
  | depth, cs =>
    match cs with
    | '"' :: rest => do
      let (s, rest) ← readText rest
      return (.str s, rest)
    | '\x7b' :: rest =>
      match depth with
      | 0 => .error (.tooDeep true)
      | depth + 1 =>
        match skipGap rest with
        | '}' :: rest => .ok (.obj [], rest)
        | rest => do
          let (fields, rest) ← readFields (readValue depth) (rest.length + 1) [] rest
          return (.obj fields, rest)
    | '[' :: rest =>
      match depth with
      | 0 => .error (.tooDeep false)
      | depth + 1 =>
        match skipGap rest with
        | ']' :: rest => .ok (.arr [], rest)
        | rest => do
          let (items, rest) ← readItems (readValue depth) (rest.length + 1) [] rest
          return (.arr items, rest)
    | '-' :: rest =>
      match afterWord? "Infinity" rest with
      | some rest => .ok (.float (.infinite true), rest)
      | none => readNumber true cs rest
    | _ =>
      match afterWord? "null" cs, afterWord? "true" cs, afterWord? "false" cs,
          afterWord? "NaN" cs, afterWord? "Infinity" cs with
      | some rest, _, _, _, _ => .ok (.null, rest)
      | _, some rest, _, _, _ => .ok (.bool true, rest)
      | _, _, some rest, _, _ => .ok (.bool false, rest)
      | _, _, _, some rest, _ => .ok (.float .nan, rest)
      | _, _, _, _, some rest => .ok (.float (.infinite false), rest)
      | _, _, _, _, _ => readNumber false cs cs

/-- Reads a whole text as one value. -/
def readChars (cs : List Char) : Except ReadError Json := do
  let (value, rest) ← readValue maxDepth (skipGap cs)
  match skipGap rest with
  | [] => .ok value
  | rest => .error (.malformed .extra rest.length)

/-- Reads a whole text as one value; a text that begins with a byte-order mark is refused. -/
def read (text : String) : Except ReadError Json :=
  match text.toList with
  | c :: cs => if c.toNat == 0xFEFF then .error (.malformed .mark (cs.length + 1)) else readChars (c :: cs)
  | [] => .error (.malformed .noValue 0)

end Json

end Suitewright
