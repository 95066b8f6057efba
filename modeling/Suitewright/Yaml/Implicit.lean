/-
  What scalars without a tag are, judged by their text.

  * `Tag`: what a node is meant to be; `Tag.ofName` reads its name;
  * `implicitTag`: the tag of a text, decided by one test for each kind of value.
-/
import Suitewright.Text.Scan

namespace Suitewright.Yaml

/-- What a node is meant to be. -/
inductive Tag where
  /-- Nothing. -/
  | null
  /-- A truth value. -/
  | bool
  /-- An integer. -/
  | int
  /-- A decimal. -/
  | float
  /-- Bytes. -/
  | binary
  /-- A date, perhaps with a time. -/
  | timestamp
  /-- A list of pairs with different keys. -/
  | omap
  /-- A list of pairs. -/
  | pairs
  /-- A set. -/
  | set
  /-- A text. -/
  | str
  /-- A list. -/
  | seq
  /-- A mapping. -/
  | map
  /-- The key whose value is a mapping to be merged. -/
  | merge
  /-- The key whose value stands for the mapping. -/
  | value
  /-- Anything else. -/
  | other
  deriving Repr, DecidableEq, Inhabited

/-- The beginning of the names of the known tags. -/
def tagStart : String := "tag:yaml.org,2002:"

/-- The known tags by the ends of their names. -/
def knownTags : List (String × Tag) :=
  [("null", .null), ("bool", .bool), ("int", .int), ("float", .float), ("binary", .binary),
    ("timestamp", .timestamp), ("omap", .omap), ("pairs", .pairs), ("set", .set), ("str", .str), ("seq", .seq),
    ("map", .map), ("merge", .merge), ("value", .value)]

/-- The tag of a name. -/
def Tag.ofName (name : String) : Tag :=
  match Text.after? tagStart.toList name.toList with
  | some rest => (knownTags.lookup (.ofList rest)).getD .other
  | none => .other

/-! ## Parts of numbers -/

/-- A digit or an underscore. -/
def isDigitOrUnderscore (c : Char) : Bool := c.isDigit || c == '_'

/-- The text without a sign at its beginning. -/
def dropSign : List Char → List Char
  | c :: cs => if c == '+' || c == '-' then cs else c :: cs
  | [] => []

/-- What follows a colon and a number below sixty, written with one or two digits. -/
def sixtieth? : List Char → Option (List Char)
  | ':' :: a :: b :: rest =>
    if '0' ≤ a && a ≤ '5' && b.isDigit then some rest else if a.isDigit then some (b :: rest) else none
  | [':', a] => if a.isDigit then some [] else none
  | _ => none

/-- What follows sixtieths, at most `n` of them. -/
def sixtieths : (n : Nat) → List Char → List Char
  | 0, cs => cs
  | n + 1, cs =>
    match sixtieth? cs with
    | some rest => sixtieths n rest
    | none => cs

/-- What follows at least one sixtieth. -/
def someSixtieths? (cs : List Char) : Option (List Char) := (sixtieth? cs).map (sixtieths cs.length)

/-- Whether the text is an exponent with a sign, or empty. -/
def isExponent : List Char → Bool
  | [] => true
  | e :: s :: d :: ds =>
    (e == 'e' || e == 'E') && (s == '+' || s == '-') && (d :: ds).all Char.isDigit
  | _ => false

/-! ## Kinds of values -/

/-- The texts of nothing. -/
def isNullText (cs : List Char) : Bool := ["", "~", "null", "Null", "NULL"].any (·.toList == cs)

/-- The texts of truth values. -/
def isBoolText (cs : List Char) : Bool :=
  ["yes", "Yes", "YES", "no", "No", "NO", "true", "True", "TRUE", "false", "False", "FALSE", "on", "On", "ON",
    "off", "Off", "OFF"].any (·.toList == cs)

/-- Whether a text is an integer: binary, octal, decimal, hexadecimal or in sixtieths. -/
def isIntText (cs : List Char) : Bool :=
  match dropSign cs with
  | '0' :: 'b' :: ds => !ds.isEmpty && ds.all fun c => c == '0' || c == '1' || c == '_'
  | '0' :: 'x' :: ds =>
    !ds.isEmpty && ds.all fun c => isDigitOrUnderscore c || ('a' ≤ c && c ≤ 'f') || ('A' ≤ c && c ≤ 'F')
  | '0' :: ds => ds.all fun c => ('0' ≤ c && c ≤ '7') || c == '_'
  | d :: ds =>
    if d.isDigit then
      match ds.dropWhile isDigitOrUnderscore with
      | [] => true
      | rest => someSixtieths? rest == some []
    else false
  | [] => false

/-- Whether a text is a decimal: with a point, in sixtieths with a point, an infinity or no number. -/
def isFloatText (cs : List Char) : Bool :=
  let unsigned := dropSign cs
  let named (names : List String) (cs : List Char) : Bool := names.any (·.toList == cs)
  if named [".inf", ".Inf", ".INF"] unsigned || named [".nan", ".NaN", ".NAN"] cs then true
  else
    match cs with
    | '.' :: d :: ds => d.isDigit && isExponent (ds.dropWhile isDigitOrUnderscore)
    | _ =>
      match unsigned with
      | d :: ds =>
        if d.isDigit then
          match ds.dropWhile isDigitOrUnderscore with
          | '.' :: rest => isExponent (rest.dropWhile isDigitOrUnderscore)
          | rest =>
            match someSixtieths? rest with
            | some ('.' :: rest) => rest.all isDigitOrUnderscore
            | _ => false
        else false
      | [] => false

/-! ## Dates and times -/

/-- A date and time as it is written. -/
structure MomentText where
  /-- The year. -/
  year : List Char
  /-- The month. -/
  month : List Char
  /-- The day. -/
  day : List Char
  /-- Hour, minute and second. -/
  time : Option (List Char × List Char × List Char) := none
  /-- The sign, the hours and the minutes of the distance to the zero meridian. -/
  offset : Option (Bool × List Char × List Char) := none
  deriving Repr, Inhabited

/-- Exactly so many digits, and what follows. -/
def exactDigits? (n : Nat) (cs : List Char) : Option (List Char × List Char) :=
  let ds := cs.take n
  if ds.length == n && ds.all Char.isDigit then some (ds, cs.drop n) else none

/-- One or two digits, and what follows. -/
def fewDigits? (cs : List Char) : Option (List Char × List Char) := (exactDigits? 2 cs).or (exactDigits? 1 cs)

/-- The distance to the zero meridian at the end of a time. -/
def offset? (cs : List Char) : Option (Option (Bool × List Char × List Char)) :=
  match cs with
  | [] => some none
  | _ =>
    match cs.dropWhile fun c => c == ' ' || c == '\t' with
    | ['Z'] => some none
    | s :: rest =>
      if s == '+' || s == '-' then do
        let (hours, rest) ← fewDigits? rest
        match rest with
        | [] => some (some (s == '-', hours, []))
        | ':' :: rest =>
          let (minutes, rest) ← exactDigits? 2 rest
          if rest.isEmpty then some (some (s == '-', hours, minutes)) else none
        | _ => none
      else none
    | [] => none

/-- The time after a date. -/
def time? (date : MomentText) (cs : List Char) : Option MomentText := do
  let rest ← match cs with
    | 't' :: rest | 'T' :: rest => some rest
    | ' ' :: _ | '\t' :: _ => some (cs.dropWhile fun c => c == ' ' || c == '\t')
    | _ => none
  let (hour, rest) ← fewDigits? rest
  let rest ← Text.after? [':'] rest
  let (minute, rest) ← exactDigits? 2 rest
  let rest ← Text.after? [':'] rest
  let (second, rest) ← exactDigits? 2 rest
  let rest := match rest with
    | '.' :: more => more.dropWhile Char.isDigit
    | _ => rest
  return { date with time := some (hour, minute, second), offset := ← offset? rest }

/-- A text as a date, perhaps with a time. -/
def momentText? (cs : List Char) : Option MomentText := do
  let (year, rest) ← exactDigits? 4 cs
  let rest ← Text.after? ['-'] rest
  let (month, rest) ← fewDigits? rest
  let rest ← Text.after? ['-'] rest
  let (day, rest) ← fewDigits? rest
  let date : MomentText := { year, month, day }
  if rest.isEmpty then return date else time? date rest

/-- Whether a text is a date or a date with a time; a date alone has two digits for its month and day. -/
def isTimestampText (cs : List Char) : Bool :=
  match momentText? cs with
  | some m => m.time.isSome || (m.month.length == 2 && m.day.length == 2)
  | none => false

/-- The tag of a text. -/
def implicitTag (cs : List Char) : Tag :=
  if isNullText cs then .null
  else if isBoolText cs then .bool
  else if isFloatText cs then .float
  else if isIntText cs then .int
  else if isTimestampText cs then .timestamp
  else if cs == ['<', '<'] then .merge
  else if cs == ['='] then .value
  else if [['!'], ['&'], ['*']].contains cs then .other
  else .str

end Suitewright.Yaml
