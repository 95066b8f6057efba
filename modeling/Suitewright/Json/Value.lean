/-
  Values of the interchange format.

  * `Json`: null, booleans, integers of any size, binary fractions, texts, lists and objects;
  * `Fields`: the entries of an object in the order in which their keys first came, with `get?` and `insert`.
-/
import Suitewright.Number.Binary64

namespace Suitewright

/-- A value of the interchange format. -/
inductive Json where
  /-- The absent value. -/
  | null
  /-- A truth value. -/
  | bool (value : Bool)
  /-- An integer of any size. -/
  | int (value : Int)
  /-- A number written with a fraction or an exponent. -/
  | float (value : Binary64)
  /-- A text. -/
  | str (value : String)
  /-- A list. -/
  | arr (items : List Json)
  /-- An object, its entries in order. -/
  | obj (fields : List (String × Json))
  deriving Inhabited

namespace Fields

variable {α : Type}

/-- The value of a key. -/
def get? (fields : List (String × α)) (key : String) : Option α := fields.lookup key

/-- Sets a key: in place if it is there, else at the end. -/
def insert (fields : List (String × α)) (key : String) (value : α) : List (String × α) :=
  match fields with
  | [] => [(key, value)]
  | (k, v) :: rest => if k == key then (k, value) :: rest else (k, v) :: insert rest key value

end Fields

namespace Json

/-- The value of a key, if this is an object that has it. -/
def get? (key : String) : Json → Option Json
  | obj fields => Fields.get? fields key
  | _ => none

mutual

/-- Whether no infinity and nothing that is no number is in a value. -/
def allFinite : Json → Bool
  | float (.finite ..) => true
  | float _ => false
  | arr items => allItemsFinite items
  | obj fields => allFieldsFinite fields
  | _ => true

/-- The same for the items of a list. -/
def allItemsFinite : List Json → Bool
  | [] => true
  | v :: vs => allFinite v && allItemsFinite vs

/-- The same for the entries of an object. -/
def allFieldsFinite : List (String × Json) → Bool
  | [] => true
  | (_, v) :: rest => allFinite v && allFieldsFinite rest

end

/-- A list of texts. -/
def strings (items : List String) : Json := arr (items.map str)

/-- A text or null. -/
def ofText? : Option String → Json
  | some s => str s
  | none => null

end Json

end Suitewright
