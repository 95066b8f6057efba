/-
  Why a document cannot be read.

  * `Yaml.Error`: the document is not well-formed, or a scalar has no value;
  * `Yaml.Error.message`: the reason in words.
-/
import Suitewright.Number.Literal

namespace Suitewright.Yaml

/-- Why a date or time does not exist. -/
inductive MomentFault where
  /-- The year is zero. -/
  | year
  /-- There is no such month. -/
  | month
  /-- The month has no such day. -/
  | day
  /-- There is no such hour. -/
  | hour
  /-- There is no such minute. -/
  | minute
  /-- There is no such second. -/
  | second
  /-- The distance to the zero meridian, in seconds, is a day or more. -/
  | offset (seconds : Int)
  deriving Repr, DecidableEq, Inhabited

/-- Why a document cannot be read. -/
inductive Error where
  /-- It is not well-formed. -/
  | malformed
  /-- An escape names no character; holds its number. -/
  | noCharacter (code : Nat)
  /-- A number has no characters. -/
  | emptyNumber
  /-- An integer cannot be read. -/
  | integer (fault : Number.IntegerFault)
  /-- A decimal cannot be read. -/
  | decimal (text : String)
  /-- A text is no truth value. -/
  | noTruthValue (text : String)
  /-- A text is not written like a date. -/
  | notAMoment
  /-- A date or time does not exist. -/
  | moment (fault : MomentFault)
  deriving Repr, DecidableEq, Inhabited

/-- A span of time in days and seconds. -/
def spanText (seconds : Int) : String :=
  let days := Int.fdiv seconds 86400
  let rest := Int.fmod seconds 86400
  "datetime.timedelta(days=" ++ toString days ++ (if rest == 0 then "" else ", seconds=" ++ toString rest) ++ ")"

/-- The reason in words. -/
def MomentFault.message : MomentFault → String
  | year => "year 0 is out of range"
  | month => "month must be in 1..12"
  | day => "day is out of range for month"
  | hour => "hour must be in 0..23"
  | minute => "minute must be in 0..59"
  | second => "second must be in 0..59"
  | offset seconds =>
    "offset must be a timedelta strictly between -timedelta(hours=24) and timedelta(hours=24), not " ++
      spanText seconds ++ "."

/-- The reason in words. -/
def Error.message : Error → String
  | malformed => "not well-formed"
  | noCharacter code =>
    if code < 0x80000000 then "chr() arg not in range(0x110000)" else "Python int too large to convert to C int"
  | emptyNumber => "string index out of range"
  | integer fault => fault.message
  | decimal text => "could not convert string to float: " ++ Text.shown text
  | noTruthValue text => Text.shown text
  | notAMoment => "'NoneType' object has no attribute 'groupdict'"
  | moment fault => fault.message

end Suitewright.Yaml
