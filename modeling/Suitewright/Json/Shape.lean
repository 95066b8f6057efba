/-
  Values of a given shape.

  * `Misfit`: why a value has not the shape that is asked for;
  * `FieldFault`: a misfit and the key that it belongs to;
  * `Checked`: a result, or everything that is wrong; `Checked.pair` looks at both of its parts;
  * `Json.text`, `fields`, `wholeNumber`, `truth`: the shapes;
  * `requiredField`, `optionalField`: the fields of an object, each under one of several keys.

  A whole number may be written as a fraction or as a truth value, and a truth value as a word or a number.
-/
import Suitewright.Json.Value

namespace Suitewright

/-- Why a value has not the shape that is asked for. -/
inductive Misfit where
  /-- There is no value. -/
  | missing
  /-- It is no text. -/
  | notText
  /-- It is no object. -/
  | notObject
  /-- It is no whole number. -/
  | notWhole
  /-- It is a number with a fractional part. -/
  | fractional
  /-- It is an infinity or no number. -/
  | notFinite
  /-- It is too large for a number with a fraction to be a whole number. -/
  | tooLarge
  /-- It is no truth value. -/
  | notTruth
  /-- It is a text or a number that stands for no truth value. -/
  | unclearTruth
  deriving Repr, DecidableEq, Inhabited

namespace Misfit

/-- The reason in words. -/
def message : Misfit → String
  | missing => "Field required"
  | notText => "Input should be a valid string"
  | notObject => "Input should be a valid dictionary"
  | notWhole => "Input should be a valid integer"
  | fractional => "Input should be a valid integer, got a number with a fractional part"
  | notFinite => "Input should be a finite number"
  | tooLarge => "Unable to parse input string as an integer, exceeded maximum size"
  | notTruth => "Input should be a valid boolean"
  | unclearTruth => "Input should be a valid boolean, unable to interpret input"

/-- The name of the reason. -/
def label : Misfit → String
  | missing => "missing"
  | notText => "string_type"
  | notObject => "dict_type"
  | notWhole => "int_type"
  | fractional => "int_from_float"
  | notFinite => "finite_number"
  | tooLarge => "int_parsing_size"
  | notTruth => "bool_type"
  | unclearTruth => "bool_parsing"

end Misfit

/-- A misfit of a field. -/
structure FieldFault where
  /-- The key of the field. -/
  key : String
  /-- What is wrong. -/
  misfit : Misfit
  deriving Repr, DecidableEq, Inhabited

/-- The fault in words, after its key. -/
def FieldFault.describe (f : FieldFault) : String := f.key ++ ": " ++ f.misfit.message

/-- A result, or everything that is wrong, in the order of the fields. -/
abbrev Checked (α : Type) := Except (List FieldFault) α

/-- Two results, or the faults of both. -/
def Checked.pair {α β : Type} (a : Checked α) (b : Checked β) : Checked (α × β) :=
  match a, b with
  | .ok x, .ok y => .ok (x, y)
  | .error e, .ok _ => .error e
  | .ok _, .error e => .error e
  | .error e, .error f => .error (e ++ f)

namespace Json

/-! ## Shapes -/

/-- A text. -/
def text : Json → Except Misfit String
  | str s => .ok s
  | _ => .error .notText

/-- A text or null. -/
def textOrNull : Json → Except Misfit (Option String)
  | null => .ok none
  | v => v.text.map some

/-- An object. -/
def fields : Json → Except Misfit (List (String × Json))
  | obj fs => .ok fs
  | _ => .error .notObject

/-- The least size of a number that is too large to be written with a fraction: two to the power of 63. -/
def fractionLimit : Nat := 0x8000000000000000

/-- A whole number. One that is written with a fraction must be smaller than the limit. -/
def wholeNumber : Json → Except Misfit Int
  | int n => .ok n
  | bool b => .ok (if b then 1 else 0)
  | float x =>
    match x with
    | .finite .. =>
      match x.toInt? with
      | some n => if n.natAbs < fractionLimit then .ok n else .error .tooLarge
      | none => .error .fractional
    | _ => .error .notFinite
  | _ => .error .notWhole

/-- The words for true. -/
def trueWords : List String := ["1", "on", "t", "true", "y", "yes"]

/-- The words for false. -/
def falseWords : List String := ["0", "off", "f", "false", "n", "no"]

/-- The truth value of a number. -/
def truthOfInt (n : Int) : Except Misfit Bool :=
  if n == 0 then .ok false else if n == 1 then .ok true else .error .unclearTruth

/-- A truth value. -/
def truth : Json → Except Misfit Bool
  | bool b => .ok b
  | str s =>
    let word := String.ofList (s.toList.map Char.toLower)
    if trueWords.contains word then .ok true
    else if falseWords.contains word then .ok false
    else .error .unclearTruth
  | int n => if -(fractionLimit : Int) ≤ n && n < fractionLimit then truthOfInt n else .error .notTruth
  | float x =>
    match x.toInt? with
    | some n => if n.natAbs < fractionLimit then truthOfInt n else .error .notTruth
    | none => .error .notTruth
  | _ => .error .notTruth

end Json

/-! ## Fields -/

/-- The first of the keys that is there, with its value. -/
def findField? (keys : List String) (fields : List (String × Json)) : Option (String × Json) :=
  keys.findSome? fun key => (Fields.get? fields key).map (key, ·)

/-- A field of a shape, with what a missing one gives. -/
def readField {α : Type} (shape : Json → Except Misfit α) (absent : Checked α) (keys : List String)
    (fields : List (String × Json)) : Checked α :=
  match findField? keys fields with
  | some (key, v) => (shape v).mapError fun m => [⟨key, m⟩]
  | none => absent

/-- A field that must be there under one of the keys. The first key is its proper name. -/
def requiredField {α : Type} (shape : Json → Except Misfit α) (keys : List String)
    (fields : List (String × Json)) : Checked α :=
  readField shape (.error [⟨keys.headD "", .missing⟩]) keys fields

/-- A field with a default. -/
def optionalField {α : Type} (shape : Json → Except Misfit α) (default : α) (keys : List String)
    (fields : List (String × Json)) : Checked α :=
  readField shape (.ok default) keys fields

end Suitewright
