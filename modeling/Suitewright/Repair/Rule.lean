/-
  Mending a suite after a failure.

  * one rule for each kind of failure;
  * `injection?`: the attribute that a missing property needs, and the site that gets it;
  * `Signal.mend`: the suite after the rule of a signal;
  * `repair`: the suite after the rules of all signals of an output;
  * `repairNotes`: what a repair tells about its steps.
-/
import Suitewright.Failure.Classify
import Suitewright.Repair.Site
import Suitewright.Repair.Template
import Suitewright.Suite.Case

namespace Suitewright

open Text

/-! ## Quotes and closures -/

/-- An attribute value with a second pair of quotes, and the same with one pair. -/
def doubleQuoted? (cs : List Char) : Option (List Char × List Char) := do
  let rest ← after? "=\"'".toList cs
  let (value, rest) ← upTo? '\'' rest
  let rest ← after? ['"'] rest
  return ('=' :: '"' :: (value ++ ['"']), rest)

/-- Gives each attribute one pair of quotes. -/
def stripDoubleQuotes (source : List Char) : List Char := replaceAll doubleQuoted? source

/-- An attribute name and what follows its equals sign and opening brace. -/
def bracedAttribute? (cs : List Char) : Option (List Char × List Char) := do
  let (name, rest) ← run? isNameChar cs
  let rest ← after? "=\x7b".toList rest
  return (name, rest)

/-- The attribute with the closure without effect. -/
def noopAttribute (name : List Char) : List Char := name ++ '=' :: (braced noopClosure).toList

/-- A closure after a stray comma. -/
def leadingComma? (cs : List Char) : Option (List Char × List Char) := do
  let (name, rest) ← bracedAttribute? cs
  let rest ← after? [','] (skipBlanks rest)
  let rest ← after? ['(', ')'] (skipBlanks rest)
  let rest ← after? ['=', '>'] (skipBlanks rest)
  let rest ← after? ['\x7b', '\x7d'] (skipBlanks rest)
  let rest ← after? ['\x7d'] (skipBlanks rest)
  return (noopAttribute name, rest)

/-- A closure without a body. -/
def danglingClosure? (cs : List Char) : Option (List Char × List Char) := do
  let (name, rest) ← bracedAttribute? cs
  let rest ← after? ['(', ')'] rest
  let rest ← after? ['=', '>'] (skipBlanks rest)
  let rest := skipBlanks rest
  let rest := (after? [','] rest).getD rest
  let rest ← after? ['\x7d'] (skipBlanks rest)
  return (noopAttribute name, rest)

/-- Writes malformed closures in full. -/
def normalizeClosures (source : List Char) : List Char :=
  replaceAll danglingClosure? (replaceAll leadingComma? source)

/-! ## Imports -/

/-- The quoted module after `from`, when it is the given one. -/
def fromModule? (module cs : List Char) : Option (List Char × List Char) := do
  let rest ← after? "from".toList cs
  let blanks := rest.takeWhile isBlank
  match skipBlanks rest with
  | q :: rest =>
    if q == '"' || q == '\'' then
      let rest ← after? module rest
      let rest ← after? [q] rest
      return ("from".toList ++ blanks, rest)
    else none
  | [] => none

/-- The first such module on this line, with the text before it; `before` is the preceding character. -/
def fromOnLine? (module : List Char) (before : Option Char) :
    List Char → Option (List Char × List Char)
  | [] => none
  | c :: cs =>
    match (if atWordEdge before (some c) then fromModule? module (c :: cs) else none) with
    | some found => some found
    | none =>
      if c == '\n' then none
      else (fromOnLine? module (some c) cs).map fun (text, rest) => (c :: text, rest)

/-- An import declaration of a module at the beginning of a line, with another module in its place. -/
def importOf? (module replacement : List Char) (before : Option Char) (cs : List Char) :
    Option (List Char × List Char) := do
  if before.any (· != '\n') then none
  else
    let rest ← after? "import".toList cs
    if atWordEdge (some 't') rest.head? then
      let (text, rest) ← fromOnLine? module (some 't') rest
      return ("import".toList ++ text ++ replacement, rest)
    else none

/-- Makes all imports of a module import another one. -/
def redirectImport (module : String) (target : String) (source : List Char) : List Char :=
  replaceFrom (importOf? module.toList (Json.quote target).toList) 0 none source

/-- The end of an import of names, from the closing brace on. -/
def importEnd? (cs : List Char) : Option (List Char) := do
  let rest ← after? ['\x7d'] (cs.dropWhile (· != '\x7d'))
  after? "from".toList (skipBlanks rest)

/-- A symbol as a whole word here, and the end of the import after it. -/
def symbolHere? (symbol : List Char) (before : Option Char) (cs : List Char) : Option (List Char) :=
  if atWordEdge before cs.head? then
    match after? symbol cs with
    | some rest =>
      if atWordEdge (symbol.getLast?.or before) rest.head? then importEnd? rest else none
    | none => none
  else none

/-- The end of an import whose braces hold a symbol as a whole word; the last such symbol counts. -/
def symbolInBraces? (symbol : List Char) (before : Option Char) : List Char → Option (List Char)
  | [] => symbolHere? symbol before []
  | c :: cs =>
    (if c == '\x7d' then none else symbolInBraces? symbol (some c) cs).or
      (symbolHere? symbol before (c :: cs))

/-- An import of names that holds a symbol: what is left after it. -/
def namedImportOf? (symbol : List Char) (cs : List Char) : Option (List Char) := do
  let rest ← after? "import".toList cs
  let rest ← after? ['\x7b'] (skipBlanks rest)
  symbolInBraces? symbol (some '\x7b') rest

/-- Makes imports of names that hold a symbol import it as the default export. -/
def defaultImport (symbol : String) (source : List Char) : Except TemplateError (List Char) := do
  let parts ← Template.read ("import " ++ symbol ++ " from")
  return replaceAll (fun cs => (namedImportOf? symbol.toList cs).map fun rest =>
    (Template.fill parts (cs.take (cs.length - rest.length)), rest)) source

/-! ## Queries and assertions -/

/-- A fixed text and what replaces it. -/
def fixed? (text replacement : List Char) (cs : List Char) : Option (List Char × List Char) :=
  (after? text cs).map (replacement, ·)

/-- The query by a test identifier. -/
def testIdQuery (id : String) : String := "screen.getByTestId(" ++ Json.quote id ++ ")"

/-- The test identifier of a component whose role is not found. -/
def fallbackTestId : String := "button"

/-- The test identifier of the loading state. -/
def statusTestId : String := "loading-spinner"

/-- The test identifier of the icon. -/
def iconTestId : String := "icon"

/-- Replaces the query for a role. -/
def replaceRoleQuery (role : String) (source : List Char) : List Char :=
  replaceAll (fixed? ("screen.getByRole(" ++ Json.quote role ++ ")").toList
    (testIdQuery fallbackTestId).toList) source

/-- The assertion of a style class. -/
def classAssertionText (name : String) : String := "expect(element).toHaveClass(\"" ++ name ++ "\");"

/-- The assertion of a style class of a family, with the class of buttons in its place. -/
def familyClass? (family : String) (cs : List Char) : Option (List Char × List Char) := do
  let rest ← after? ("expect(element).toHaveClass(\"" ++ family ++ "--").toList cs
  let (value, rest) ← upTo? '"' rest
  let rest ← after? ");".toList rest
  return ("expect(element).toHaveClass(\"btn--".toList ++ value ++ "\");".toList, rest)

/-- Replaces assertions of style classes that components do not have. -/
def replaceClassAssertions (source : List Char) : List Char :=
  let source := replaceAll (fixed? (classAssertionText "disabled").toList
    "expect(element).toBeDisabled();".toList) source
  let source := replaceAll (fixed? (classAssertionText "loading").toList
    "expect(element).toHaveAttribute(\"aria-disabled\", \"true\");".toList) source
  replaceAll (familyClass? "variant") (replaceAll (familyClass? "size") source)

/-- A query by the text of a variable: the variable's name. -/
def textQuery? (cs : List Char) : Option (List Char × List Char) := do
  let rest ← after? "screen.getByText(".toList cs
  let afterTest ← after? "test".toList rest
  match afterTest with
  | c :: more =>
    if c.isUpper then
      let rest ← after? [')'] (more.dropWhile Char.isAlphanum)
      return ("test".toList ++ c :: more.takeWhile Char.isAlphanum, rest)
    else none
  | [] => none

/-- The property whose text a variable holds: the last one that gives this variable, else the one that its
name suggests. -/
def propOfVariable (m : Component) (variable_ : List Char) : String :=
  match m.props.reverse.find? (fun p => (textVariable p.name).toList == variable_) with
  | some p => p.name
  | none =>
    match variable_.drop 4 with
    | c :: cs => lower (.ofList [c]) ++ .ofList cs
    | [] => ""

/-- Replaces queries by the text of a variable. -/
def replaceTextQueries (m : Component) (source : List Char) : List Char :=
  replaceAll (fun cs => (textQuery? cs).map fun (variable_, rest) =>
    ((testIdQuery (className (propOfVariable m variable_))).toList, rest)) source

/-- The query for an image, with or without its alternative. -/
def imageQuery? (cs : List Char) : Option (List Char) := do
  let rest ← after? ("screen.getByRole(\"img\", " ++ braced " hidden: true " ++ ")").toList cs
  return (after? " || screen.getByTestId(\"icon\")".toList rest).getD rest

/-- Replaces the query for a status, or for an image. -/
def replaceStatusOrImage (role : String) (source : List Char) : List Char :=
  if role == "status" then
    replaceAll (fixed? statusQuery.toList (testIdQuery statusTestId).toList) source
  else replaceAll (fun cs => (imageQuery? cs).map ((testIdQuery iconTestId).toList, ·)) source

/-! ## Missing properties -/

/-- The site nearest to a line, the first of several; without a line the first site. -/
def nearestSite? (line : Option Int) : List Site → Option Site
  | [] => none
  | s :: rest =>
    match line with
    | none => some s
    | some n =>
      let distance (t : Site) : Nat := ((t.line : Int) - n).natAbs
      some (rest.foldl (fun best t => if distance t < distance best then t else best) s)

/-- The attribute that gives a property its default. -/
def defaultAttribute (m : Component) (prop : String) : String :=
  match m.prop? prop with
  | some p => p.inlineDefault
  | none => namedDefault prop

/-- The site that lacks a property and the attribute that it needs. -/
def injection? (m : Component) (prop : String) (line : Option Int) (source : List Char) :
    Option (Site × String) := do
  let site ← nearestSite? line (findSites source m.displayName)
  if hasAttribute site.attributes prop then none else some (site, defaultAttribute m prop)

/-- Gives a property to the site that lacks it. -/
def injectProp (m : Component) (prop : String) (line : Option Int) (source : List Char) : List Char :=
  match injection? m prop line source with
  | some (site, addition) => source.take site.stop ++ ' ' :: addition.toList ++ source.drop site.stop
  | none => source

/-! ## Repair -/

/-- The suite after the rule of a signal. -/
def Signal.mendChars (m : Component) (sourcePath : String) (source : List Char) :
    Signal → Except TemplateError (List Char)
  | .quotedLiteral => .ok (stripDoubleQuotes source)
  | .malformedClosure => .ok (normalizeClosures source)
  | .unresolvedImport module => .ok (redirectImport module (importPath sourcePath) source)
  | .namedImportMissing symbol => defaultImport symbol source
  | .roleNotFound role => .ok (replaceRoleQuery role source)
  | .missingProp prop line => .ok (injectProp m prop line source)
  | .classMismatch => .ok (replaceClassAssertions source)
  | .textNotFound => .ok (replaceTextQueries m source)
  | .statusOrImageRole role => .ok (replaceStatusOrImage role source)

/-- The suite after the rule of a signal. -/
def Signal.mend (s : Signal) (source : String) (m : Component) (sourcePath : String) :
    Except TemplateError String :=
  return .ofList (← s.mendChars m sourcePath source.toList)

/-- Why a repair failed. -/
inductive RepairError where
  /-- The output tells a line number that is too long. -/
  | lineNumber (error : LineNumberTooLong)
  /-- A symbol cannot stand in a template. -/
  | template (error : TemplateError)
  deriving Repr, DecidableEq

/-- The message of a failed repair. -/
def RepairError.message : RepairError → String
  | lineNumber e => e.message
  | template e => e.message

/-- The suite after the rules of signals, one after another. -/
def mendAll (m : Component) (sourcePath : String) (signals : List Signal) (source : String) :
    Except TemplateError String :=
  signals.foldlM (fun s signal => signal.mend s m sourcePath) source

/-- The path that a repair goes by: the given one, else the component's. -/
def repairPath (m : Component) (sourcePath : Option String) : String :=
  match sourcePath with
  | some p => if p.isEmpty then m.sourcePath else p
  | none => m.sourcePath

/-- The suite after the rules of all signals of an output. -/
def repair (source output : String) (m : Component) (sourcePath : Option String) :
    Except RepairError String := do
  let signals ← (classify output).mapError .lineNumber
  (mendAll m (repairPath m sourcePath) signals source).mapError .template

/-- What is told about the rule of a signal. -/
def Signal.notes (m : Component) (source : String) (s : Signal) : List String :=
  ("Applying repair for " ++ s.toText) ::
    match s with
    | .missingProp prop line =>
      match injection? m prop line source.toList with
      | some (site, addition) => ["Injecting " ++ addition ++ " at line " ++ toString site.line]
      | none => []
    | _ => []

/-- What is told about the rules of signals, up to the first that fails. -/
def mendNotes (m : Component) (sourcePath : String) : List Signal → String → List String
  | [], _ => []
  | s :: rest, source =>
    s.notes m source ++
      match s.mend source m sourcePath with
      | .ok next => mendNotes m sourcePath rest next
      | .error _ => []

/-- What a repair tells about its steps. -/
def repairNotes (source output : String) (m : Component) (sourcePath : Option String) : List String :=
  match classify output with
  | .ok signals => mendNotes m (repairPath m sourcePath) signals source
  | .error _ => []

end Suitewright
