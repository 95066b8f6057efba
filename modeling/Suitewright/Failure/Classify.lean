/-
  Reading failures off a runner's output.

  * one detector for each kind of failure, in the order in which repairs are made;
  * `classify`: the distinct signals of an output, by kind and then by place;
  * `LineNumberTooLong`: the one way in which reading can fail.
-/
import Suitewright.Failure.Signal
import Suitewright.Number.Literal
import Suitewright.Text.Line
import Suitewright.Text.Scan

namespace Suitewright

open Text

/-- A line number with too many digits to be read; holds their number. -/
structure LineNumberTooLong where
  /-- The number of digits. -/
  digits : Nat
  deriving Repr, DecidableEq

/-- The message of a line number that is too long. -/
def LineNumberTooLong.message (e : LineNumberTooLong) : String :=
  (Number.IntegerFault.tooManyDigits e.digits).message

/-- The most digits a line number may have. -/
def maxLineDigits : Nat := Number.maxDigits

/-- Whether a phrase occurs in an output. -/
def mentions (phrase : String) (text : List Char) : Bool := occursIn phrase.toList text

/-- A non-empty part up to a quote, and what is left after the quote. -/
def upTo? (quote : Char) (cs : List Char) : Option (List Char × List Char) := do
  let (part, rest) ← run? (· != quote) cs
  let rest ← after? [quote] rest
  return (part, rest)

/-- A module that was not found, between any quotes. -/
def moduleNotFound? (cs : List Char) : Option (List Char × List Char) := do
  let isQuote (c : Char) : Bool := c == '\'' || c == '"'
  match ← after? "Cannot find module ".toList cs with
  | q :: rest =>
    if isQuote q then
      let (part, rest) ← run? (!isQuote ·) rest
      match rest with
      | _ :: rest => return (part, rest)
      | [] => none
    else none
  | [] => none

/-- An export that was not found, by the name under which it was imported. -/
def exportNotFound? (cs : List Char) : Option (List Char × List Char) := do
  let rest ← after? "export '".toList cs
  let (_, rest) ← upTo? '\'' rest
  let rest ← after? " (imported as '".toList rest
  let (symbol, rest) ← upTo? '\'' rest
  let rest ← after? ") was not found".toList rest
  return (symbol, rest)

/-- The member that a module does not export, when the module's name ends here. -/
def memberAfterModule? (cs : List Char) : Option (List Char × List Char) := do
  let rest ← after? "' has no exported member '".toList cs
  upTo? '\'' rest

/-- The member after the shortest module name on this line. -/
def memberOnLine? : List Char → Option (List Char × List Char)
  | [] => none
  | c :: cs => (memberAfterModule? (c :: cs)).or (if c == '\n' then none else memberOnLine? cs)

/-- A member that a module does not export. -/
def noExportedMember? (cs : List Char) : Option (List Char × List Char) := do
  let rest ← after? "Module '".toList cs
  memberOnLine? rest

/-- A role that no element has. -/
def missingRole? (cs : List Char) : Option (List Char × List Char) := do
  let rest ← after? "Unable to find an ".toList cs
  let rest := (after? "accessible ".toList rest).getD rest
  let rest ← after? "element with the role \"".toList rest
  upTo? '"' rest

/-- A property that is not given. -/
def missingProp? (cs : List Char) : Option (List Char × List Char) := do
  let rest ← after? "Property '".toList cs
  let (name, rest) ← upTo? '\'' rest
  let rest ← after? " is missing in type".toList rest
  return (name, rest)

/-- The line number of a source location at this place: a source extension, a line and a column. -/
def locationHere? (cs : List Char) : Option (List Char) := do
  let rest ← after? ['.'] cs
  let rest := match rest with
    | c :: r => if c == 'c' || c == 'm' then r else rest
    | [] => rest
  match rest with
  | c :: 's' :: rest =>
    if c == 'j' || c == 't' then
      let rest := (after? ['x'] rest).getD rest
      let rest ← after? [':'] rest
      let (digits, rest) ← run? isDecimalDigit rest
      let rest ← after? [':'] rest
      let _ ← run? isDecimalDigit rest
      return digits
    else none
  | _ => none

/-- The line number of the first source location in a line of output. -/
def location? (line : List Char) : Option (List Char) := findFirst? locationHere? line

/-- The value of a line number. -/
def lineNumber (digits : List Char) : Except LineNumberTooLong Int :=
  if maxLineDigits < digits.length then .error ⟨digits.length⟩ else .ok (decimalValue digits)

/-- The properties that a line of output says are not given. -/
def missingPropsOfLine (line : List Char) : Except LineNumberTooLong (List Signal) :=
  (findAll missingProp? line).mapM fun name => do
    match location? line with
    | some digits => return .missingProp (.ofList name) (some (← lineNumber digits))
    | none => return .missingProp (.ofList name) none

/-- The properties that an output says are not given. -/
def missingProps (text : List Char) : Except LineNumberTooLong (List Signal) :=
  return (← (lines text).mapM missingPropsOfLine).flatten

/-- A signal that is there when a condition holds. -/
def signalIf (condition : Bool) (s : Signal) : List Signal := if condition then [s] else []

/-- The relative modules that were not found. -/
def unresolvedImports (text : List Char) : List Signal :=
  ((findAll moduleNotFound? text).filter fun m => ['.'].isPrefixOf m).map
    fun m => .unresolvedImport (.ofList m)

/-- The symbols that are not exported by name. -/
def namedImportsMissing (text : List Char) : List Signal :=
  (findAll exportNotFound? text ++ findAll noExportedMember? text).map
    fun s => .namedImportMissing (.ofList s)

/-- The roles that no element has. -/
def missingRoles (text : List Char) : List String := (findAll missingRole? text).map .ofList

/-- The roles with a query of their own in a suite. -/
def fallbackRoles : List String := ["status", "img"]

/-- The signals of an output, in the order of the kinds and with repetitions. -/
def detectAll (text : List Char) : Except LineNumberTooLong (List Signal) := do
  let missing ← missingProps text
  return signalIf (mentions "is not assignable to type" text && mentions "Did you mean" text) .quotedLiteral ++
    signalIf (mentions "Identifier expected" text && mentions "=>" text) .malformedClosure ++
    unresolvedImports text ++ namedImportsMissing text ++ (missingRoles text).map .roleNotFound ++ missing ++
    signalIf (mentions "toHaveClass" text && mentions "Expected" text) .classMismatch ++
    signalIf (mentions "Unable to find an element with the text" text) .textNotFound ++
    ((missingRoles text).filter fallbackRoles.contains).map .statusOrImageRole

/-- The list without the repetitions of earlier signals. -/
def distinct : (seen rest : List Signal) → List Signal
  | _, [] => []
  | seen, s :: rest => if seen.contains s then distinct seen rest else s :: distinct (s :: seen) rest

/-- The distinct signals of an output. -/
def classify (text : String) : Except LineNumberTooLong (List Signal) :=
  return distinct [] (← detectAll text.toList)

end Suitewright
