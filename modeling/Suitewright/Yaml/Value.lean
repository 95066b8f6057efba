/-
  The values of documents.

  * `Value`: a value as a tree;
  * `scalarValue`: the value of a scalar node, or why it has none;
  * `Document.check`: whether all nodes have values; the first one that has none, level by level, decides;
  * `Document.value`: the value of the root;
  * `Yaml.load`: the value of a text.

  A node inside itself is unfolded a few times, and then stands for `elided`.
-/
import Suitewright.Text.Case
import Suitewright.Yaml.Base64
import Suitewright.Yaml.Node

namespace Suitewright.Yaml

/-- A value. -/
inductive Value where
  /-- Nothing. -/
  | null
  /-- A truth value. -/
  | bool (b : Bool)
  /-- An integer. -/
  | int (n : Int)
  /-- A decimal. -/
  | float (x : Binary64)
  /-- A text. -/
  | str (s : String)
  /-- Bytes. -/
  | bytes (bs : List UInt8)
  /-- A date or a time. -/
  | moment
  /-- A list. -/
  | list (items : List Value)
  /-- A mapping; of equal keys the last one counts. -/
  | map (pairs : List (Value × Value))
  /-- A set. -/
  | set
  /-- What lies too deep inside itself. -/
  | elided
  deriving Repr, Inhabited

/-! ## Scalars -/

/-- The two truth values. -/
def truthValues : List (String × Bool) :=
  [("yes", true), ("no", false), ("true", true), ("false", false), ("on", true), ("off", false)]

/-- The truth value of a text, in whatever case. -/
def boolOf (text : String) : Except Error Value :=
  let key := Text.lower text
  match truthValues.lookup key with
  | some b => .ok (.bool b)
  | none => .error (.noTruthValue key)

/-- The value of digits in sixtieths, the last one first. -/
def sixtiethsValue {α : Type} (plus : α → α → α) (times : Nat → α → α) (zero : α) (digits : List α) : α :=
  (digits.foldl (fun (sum, unit) d => (plus sum (times unit d), 60 * unit)) (zero, 1)).1

/-- An integer in a base. -/
def integerIn (base : Nat) (cs : List Char) : Except Error Int :=
  (Number.readInteger base (.ofList cs)).mapError .integer

/-- The integer of a text without its sign: after a mark binary or hexadecimal, after a zero octal, in sixtieths
if it has colons, else decimal. -/
def unsignedInt (cs : List Char) : Except Error Int :=
  match cs with
  | [] => .error .emptyNumber
  | ['0'] => .ok 0
  | '0' :: 'b' :: ds => integerIn 2 ds
  | '0' :: 'x' :: ds => integerIn 16 ds
  | '0' :: _ => integerIn 8 cs
  | _ =>
    if cs.contains ':' then do
      let digits ← (Text.pieces ':' cs).mapM (integerIn 10)
      return sixtiethsValue (· + ·) (fun unit d => unit * d) 0 digits.reverse
    else integerIn 10 cs

/-- The integer of a text. -/
def intOf (text : String) : Except Error Value :=
  match text.toList.filter (· != '_') with
  | [] => .error .emptyNumber
  | c :: cs =>
    if c == '-' then (unsignedInt cs).map fun n => .int (-n)
    else if c == '+' then (unsignedInt cs).map .int
    else (unsignedInt (c :: cs)).map .int

/-- A decimal. -/
def decimalOf (cs : List Char) : Except Error Binary64 :=
  match Number.readDecimal? (.ofList cs) with
  | some x => .ok x
  | none => .error (.decimal (.ofList cs))

/-- The decimal of a text without its sign. -/
def unsignedFloat (cs : List Char) : Except Error Binary64 :=
  if cs == ".inf".toList then .ok (.infinite false)
  else if cs == ".nan".toList then .ok .nan
  else if cs.contains ':' then do
    let digits ← (Text.pieces ':' cs).mapM decimalOf
    return sixtiethsValue Binary64.add Binary64.scale (Binary64.ofDecimal false 0 0) digits.reverse
  else decimalOf cs

/-- The decimal of a text. -/
def floatOf (text : String) : Except Error Value :=
  match (Text.lower text).toList.filter (· != '_') with
  | [] => .error .emptyNumber
  | c :: cs =>
    if c == '-' then (unsignedFloat cs).map fun x => .float (Binary64.neg x)
    else if c == '+' then (unsignedFloat cs).map .float
    else (unsignedFloat (c :: cs)).map .float

/-- The number of days of a month. -/
def daysIn (year month : Nat) : Nat :=
  if month == 2 then (if year % 4 == 0 && (year % 100 != 0 || year % 400 == 0) then 29 else 28)
  else if [4, 6, 9, 11].contains month then 30 else 31

/-- What is wrong with a date or time. -/
def momentFault? (m : MomentText) : Option MomentFault :=
  let number (cs : List Char) : Nat := Text.decimalValue cs
  let offset : Int := match m.offset with
    | some (negative, hours, minutes) =>
      let size : Int := 3600 * number hours + 60 * number minutes
      if negative then -size else size
    | none => 0
  if 86400 ≤ offset.natAbs then some (.offset offset)
  else if number m.year == 0 then some .year
  else if number m.month == 0 || 12 < number m.month then some .month
  else if number m.day == 0 || daysIn (number m.year) (number m.month) < number m.day then some .day
  else match m.time with
    | none => none
    | some (hour, minute, second) =>
      if 23 < number hour then some .hour
      else if 59 < number minute then some .minute
      else if 59 < number second then some .second
      else none

/-- The date or time of a text. -/
def momentOf (text : String) : Except Error Value :=
  match momentText? text.toList with
  | none => .error .notAMoment
  | some m => match momentFault? m with
    | some fault => .error (.moment fault)
    | none => .ok .moment

/-- The value of a scalar with a tag. -/
def scalarValue (tag : Tag) (text : String) : Except Error Value :=
  match tag with
  | .null => .ok .null
  | .bool => boolOf text
  | .int => intOf text
  | .float => floatOf text
  | .binary => match Base64.decode? text.toList with
    | some bytes => .ok (.bytes bytes)
    | none => .error .malformed
  | .timestamp => momentOf text
  | .str => .ok (.str text)
  | _ => .error .malformed

/-! ## Nodes -/

namespace Document

variable (d : Document)

/-- A node. -/
def node (id : Nat) : Node := d.nodes[id]?.getD ⟨.other, .list []⟩

/-- The text of a node with a scalar's tag: its own, or in a mapping that of the value that stands for it. -/
def textOf? : (depth id : Nat) → Option String
  | 0, _ => none
  | n + 1, id =>
    match (d.node id).content with
    | .scalar text => some text
    | .list _ => none
    | .map pairs =>
      match pairs.find? fun (k, _) => (d.node k).tag == .value with
      | some (_, v) => textOf? n v
      | none => none

/-- The value of a node with a scalar's tag. -/
def valueOfScalar (id : Nat) : Except Error Value :=
  match d.textOf? (d.nodes.size + 1) id with
  | some text => scalarValue (d.node id).tag text
  | none => .error .malformed

/-- Whether a node is a collection, whatever it consists of. -/
def isCollection (id : Nat) : Bool := [Tag.omap, .pairs, .set, .seq, .map].contains (d.node id).tag

/-- The pairs of a mapping with those of the mappings merged into it in front. A mapping that is merged into
itself gives the pairs that it has of its own. -/
def mergedPairs : (depth : Nat) → (inside : List Nat) → (id : Nat) → Except Error (List (Nat × Nat))
  | 0, _, _ => .error .malformed
  | n + 1, inside, id =>
    match (d.node id).content with
    | .map pairs =>
      let isMerge (p : Nat × Nat) : Bool := (d.node p.1).tag == .merge
      let own := pairs.filter fun p => !isMerge p
      if inside.contains id then .ok own
      else do
        let merged ← (pairs.filter isMerge).mapM fun p =>
          match (d.node p.2).content with
          | .map _ => mergedPairs n (id :: inside) p.2
          | .list items => do return (← items.mapM (mergedPairs n (id :: inside))).reverse.flatten
          | .scalar _ => .error .malformed
        return merged.flatten ++ own
    | _ => .error .malformed

/-- The pairs of a mapping and of those merged into it. -/
def pairsOf (id : Nat) : Except Error (List (Nat × Nat)) := d.mergedPairs (d.nodes.size + 1) [] id

/-- The only pair of a mapping. -/
def onlyPair (id : Nat) : Except Error (Nat × Nat) :=
  match (d.node id).content with
  | .map [p] => .ok p
  | _ => .error .malformed

/-! ## Checking -/

/-- The progress of a check. -/
structure Progress where
  /-- Whether a node is checked or waits. -/
  seen : Array Bool
  /-- The collections whose parts are still to be checked, last first. -/
  waiting : List Nat := []
  deriving Inhabited

/-- Checks a node; the parts of a collection wait. -/
def visit (p : Progress) (id : Nat) : Except Error Progress :=
  if p.seen[id]?.getD true then .ok p
  else
    let p := { p with seen := p.seen.set! id true }
    if d.isCollection id then .ok { p with waiting := id :: p.waiting }
    else (d.valueOfScalar id).map fun _ => p

/-- Checks a key, which may be the sign for a value, and no collection. -/
def visitKey (p : Progress) (id : Nat) : Except Error Progress :=
  if (d.node id).tag == .value then .ok p
  else if d.isCollection id then .error .malformed
  else d.visit p id

/-- Checks the parts of a collection. -/
def expand (p : Progress) (id : Nat) : Except Error Progress :=
  let node := d.node id
  match node.tag, node.content with
  | .seq, .list items => items.foldlM d.visit p
  | .omap, .list items | .pairs, .list items =>
    items.foldlM (fun p item => do
      let (k, v) ← d.onlyPair item
      d.visit (← d.visit p k) v) p
  | .map, _ | .set, _ => do
    (← d.pairsOf id).foldlM (fun p (k, v) => do d.visit (← d.visitKey p k) v) p
  | _, _ => .error .malformed

/-- Checks the parts of collections and then those of the collections among them, for at most `n` levels. -/
def checkLevels : (n : Nat) → Progress → Except Error Unit
  | 0, _ => .ok ()
  | n + 1, p =>
    if p.waiting.isEmpty then .ok ()
    else do
      let next ← p.waiting.reverse.foldlM d.expand { p with waiting := [] }
      checkLevels n next

/-- Whether all nodes have values. -/
def check : Except Error Unit := do
  d.checkLevels (d.nodes.size + 1) (← d.visit { seen := .replicate d.nodes.size false } d.root)

/-! ## Values -/

/-- The value of a node, given those of its parts. -/
def valueOf (values : Array Value) (id : Nat) : Value :=
  let part (id : Nat) : Value := values[id]?.getD .elided
  let key (id : Nat) : Value := if (d.node id).tag == .value then .str "=" else part id
  let node := d.node id
  match node.tag, node.content with
  | .seq, .list items => .list (items.map part)
  | .omap, .list items | .pairs, .list items =>
    .list (items.map fun item => match d.onlyPair item with
      | .ok (k, v) => .list [part k, part v]
      | .error _ => .elided)
  | .map, _ =>
    match d.pairsOf id with
    | .ok pairs => .map (pairs.map fun (k, v) => (key k, part v))
    | .error _ => .elided
  | .set, _ => .set
  | _, _ => match d.valueOfScalar id with
    | .ok v => v
    | .error _ => .elided

/-- The number of times that a node inside itself is unfolded. -/
def unfoldings : Nat := 6

/-- The value of the root. -/
def value : Value :=
  let pass (values : Array Value) : Array Value :=
    d.order.foldl (fun values id => values.set! id (d.valueOf values id)) values
  ((List.range unfoldings).foldl (fun values _ => pass values) (.replicate d.nodes.size .elided))[d.root]?.getD
    .elided

end Document

/-- The value of a text; without a document it is nothing. -/
def load (text : String) : Except Error Value := do
  match ← Document.ofText text with
  | none => return .null
  | some d =>
    d.check
    return d.value

end Suitewright.Yaml
