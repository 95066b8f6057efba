/-
  Command lines.

  * `Opt`, `Operand`, `Grammar`: what may stand on a command line;
  * `ArgumentFault`: why a command line is not understood;
  * `Word`: how an argument is meant; `Grammar.word` decides it;
  * `Grammar.read`: the options and the operand of a command line, and the arguments that are left over.

  An option may be shortened as long as it stays clear which one it is, its value may follow an equals sign,
  and options of one letter may be joined. After two dashes nothing is an option. What looks like a negative
  number or holds a blank is an option only if the grammar has it.
-/
import Suitewright.Number.Literal

namespace Suitewright.Command

/-! ## Grammars -/

/-- The values that an option takes. -/
inductive ValueKind where
  /-- Any text. -/
  | text
  /-- An integer. -/
  | integer
  deriving Repr, DecidableEq, Inhabited

/-- An option. -/
structure Opt where
  /-- Its names, with their dashes. -/
  names : List String
  /-- The kind of its value, if it takes one. -/
  value : Option ValueKind := none
  /-- Whether it asks for help. -/
  help : Bool := false
  deriving Repr, DecidableEq, Inhabited

/-- What stands on a command line beside options. -/
inductive Operand where
  /-- One argument. -/
  | one (name : String)
  /-- One word of a list, and everything after it. -/
  | choice (name : String) (choices : List String)
  deriving Repr, DecidableEq, Inhabited

/-- The name of an operand. -/
def Operand.name : Operand → String
  | one name | choice name _ => name

/-- What may stand on a command line. The operand must be there. -/
structure Grammar where
  /-- The words that call the program. -/
  program : String
  /-- The options. -/
  options : List Opt
  /-- The operand, if there is one. -/
  operand : Option Operand := none
  deriving Repr, DecidableEq, Inhabited

/-- Why a command line is not understood. -/
inductive ArgumentFault where
  /-- An argument may be short for several options. -/
  | ambiguous (argument : String) (options : List String)
  /-- The value of an option is missing. -/
  | valueMissing (option : Opt)
  /-- An option that takes no value has one. -/
  | valueUnwanted (option : Opt) (value : String)
  /-- The value of an option is no integer. -/
  | notAnInteger (option : Opt) (value : String)
  /-- The operand is not in its list. -/
  | unknownChoice (name value : String) (choices : List String)
  /-- The operand is missing. -/
  | operandMissing (name : String)
  /-- Arguments are left over. -/
  | leftOver (arguments : List String)
  deriving Repr, DecidableEq, Inhabited

/-- A complaint about an argument. -/
def complaint (name reason : String) : String := "argument " ++ name ++ ": " ++ reason

/-- The names of an option, as complaints show them. -/
def Opt.shown (o : Opt) : String := "/".intercalate o.names

/-- The reason in words. -/
def ArgumentFault.message : ArgumentFault → String
  | ambiguous argument options =>
    "ambiguous option: " ++ argument ++ " could match " ++ ", ".intercalate options
  | valueMissing option => complaint option.shown "expected one argument"
  | valueUnwanted option value => complaint option.shown ("ignored explicit argument " ++ Text.shown value)
  | notAnInteger option value => complaint option.shown ("invalid int value: " ++ Text.shown value)
  | unknownChoice name value choices =>
    complaint name ("invalid choice: " ++ Text.shown value ++ " (choose from " ++
      ", ".intercalate (choices.map Text.shown) ++ ")")
  | operandMissing name => "the following arguments are required: " ++ name
  | leftOver arguments => "unrecognized arguments: " ++ " ".intercalate arguments

/-- Why a command line is not carried out. -/
inductive Stop where
  /-- It is not understood. -/
  | fault (fault : ArgumentFault)
  /-- It asks for help. -/
  | help
  deriving Repr, DecidableEq, Inhabited

/-! ## Words -/

/-- An option on a command line. -/
structure Mention where
  /-- The option. -/
  option : Opt
  /-- The name by which it is called, in full. -/
  name : String
  /-- What is written together with the name. -/
  attached : List Char := []
  deriving Repr, DecidableEq, Inhabited

/-- How an argument is meant. -/
inductive Word where
  /-- As an operand or a value. -/
  | plain
  /-- As the end of all options. -/
  | dashes
  /-- As an option. -/
  | mention (m : Mention)
  /-- As an option that the grammar does not have. -/
  | stranger
  deriving Repr, DecidableEq, Inhabited

/-- Whether an argument may be an option. -/
def Word.isOption : Word → Bool
  | mention _ | stranger => true
  | plain | dashes => false

/-- Whether an argument is a negative number: digits, or a point with digits after it. -/
def isNegativeNumber (cs : List Char) : Bool :=
  match cs with
  | '-' :: rest =>
    let rest := if rest.getLast? == some '\n' then rest.dropLast else rest
    match Number.spanDigits rest with
    | (digits, []) => !digits.isEmpty
    | (_, '.' :: more) => !more.isEmpty && more.all Text.isDecimalDigit
    | _ => false
  | _ => false

namespace Grammar

variable (g : Grammar)

/-- The names of all options, each with its option. -/
def names : List (String × Opt) := g.options.flatMap fun o => o.names.map (·, o)

/-- The option of a name. -/
def option? (name : String) : Option Opt := g.names.lookup name

/-- The options that an argument may be short for. -/
def candidates (cs : List Char) : List Mention :=
  match cs with
  | '-' :: '-' :: _ =>
    let start := cs.takeWhile (· != '=')
    (g.names.filter fun n => start.isPrefixOf n.1.toList).map fun n =>
      ⟨n.2, n.1, cs.drop start.length⟩
  | _ =>
    g.names.filterMap fun n =>
      if n.1.toList == cs.take 2 then some ⟨n.2, n.1, cs.drop 2⟩
      else if cs.isPrefixOf n.1.toList then some ⟨n.2, n.1, []⟩
      else none

/-- How an argument is meant that does not begin with the full name of an option. -/
def wordByStart (argument : String) : Except ArgumentFault Word :=
  let cs := argument.toList
  match g.candidates cs with
  | [m] => .ok (.mention m)
  | [] => .ok (if isNegativeNumber cs || cs.contains ' ' then .plain else .stranger)
  | ms => .error (.ambiguous argument (ms.map (·.name)))

/-- How an argument is meant before the end of options. -/
def word (argument : String) : Except ArgumentFault Word :=
  let cs := argument.toList
  if cs.head? != some '-' then .ok .plain
  else match g.option? argument with
    | some o => .ok (.mention ⟨o, argument, []⟩)
    | none =>
      if cs.length == 1 then .ok .plain
      else
        let start := cs.takeWhile (· != '=')
        match g.option? (.ofList start) with
        | some o => .ok (.mention ⟨o, .ofList start, cs.drop start.length⟩)
        | none => g.wordByStart argument

/-- How the arguments are meant. -/
def classify : List String → Except ArgumentFault (List (String × Word))
  | [] => .ok []
  | "--" :: rest => .ok (("--", .dashes) :: rest.map (·, .plain))
  | argument :: rest => do
    let w ← g.word argument
    return (argument, w) :: (← classify rest)

end Grammar

/-! ## Reading -/

/-- What was found on a command line. -/
structure Findings where
  /-- The options in order, with their values. -/
  options : List (Opt × Option String) := []
  /-- The operand with everything that belongs to it. -/
  operand : Option (List String) := none
  /-- What is left over. -/
  extras : List String := []
  deriving Repr, DecidableEq, Inhabited

namespace Findings

/-- Whether an option was given. -/
def has (f : Findings) (name : String) : Bool := f.options.any fun o => o.1.names.contains name

/-- The last value of an option. -/
def value? (f : Findings) (name : String) : Option String :=
  (f.options.reverse.find? fun o => o.1.names.contains name).bind (·.2)

/-- The findings with one more argument left over. -/
def leave (f : Findings) (argument : String) : Findings := { f with extras := f.extras ++ [argument] }

/-- The findings with one more option, if its value is of the right kind. -/
def add (f : Findings) (o : Opt) (value : Option String) : Except Stop Findings :=
  if o.help then .error .help
  else match o.value, value with
    | some .integer, some text =>
      match Number.readInteger 10 text with
      | .ok _ => .ok { f with options := f.options ++ [(o, value)] }
      | .error _ => .error (.fault (.notAnInteger o text))
    | _, _ => .ok { f with options := f.options ++ [(o, value)] }

end Findings

/-- The arguments of an operand at the front, and what follows them. -/
def takeOperand (operand : Operand) (words : List (String × Word)) :
    Option (List String × List (String × Word)) :=
  let dashes := words.takeWhile fun w => w.2 == .dashes
  match words.dropWhile fun w => w.2 == .dashes with
  | (argument, .plain) :: rest =>
    match operand with
    | .one _ => some ([argument], rest.dropWhile fun w => w.2 == .dashes)
    | .choice .. => some (dashes.map (·.1) ++ argument :: rest.map (·.1), [])
  | _ => none

/-- What an argument with options gives. -/
structure Taken where
  /-- The options with their values. -/
  options : List (Opt × Option String)
  /-- What is left over of the argument. -/
  extras : List String := []
  /-- The arguments that follow. -/
  rest : List (String × Word)

/-- Takes an option whose value, if it takes one, is the argument after it. -/
def takeNext (o : Opt) (rest : List (String × Word)) : Except ArgumentFault Taken :=
  match o.value, rest with
  | none, _ => .ok { options := [(o, none)], rest }
  | some _, (value, .plain) :: rest => .ok { options := [(o, some value)], rest }
  | some _, _ => .error (.valueMissing o)

/-- Takes an option with what is written together with it: its value, or more options of one letter. -/
def takeAttached (g : Grammar) (rest : List (String × Word)) (o : Opt) : List Char → Except ArgumentFault Taken
  | [] => takeNext o rest
  | '=' :: value =>
    if o.value.isSome then .ok { options := [(o, some (.ofList value))], rest }
    else .error (.valueUnwanted o (.ofList value))
  | c :: cs =>
    if o.value.isSome then .ok { options := [(o, some (.ofList (c :: cs)))], rest }
    else if c == '-' then .error (.valueUnwanted o (.ofList (c :: cs)))
    else match g.option? (.ofList ['-', c]) with
      | none => .ok { options := [(o, none)], extras := [.ofList ('-' :: c :: cs)], rest }
      | some next => (takeAttached g rest next cs).map fun t => { t with options := (o, none) :: t.options }

/-- Reads arguments. An operand that is still missing is taken as soon as arguments for it come. The fuel is
the number of arguments. -/
def readWords (g : Grammar) : Nat → Findings → List (String × Word) → Except Stop Findings
  | 0, f, _ => .ok f
  | _ + 1, f, [] => .ok f
  | fuel + 1, f, (argument, w) :: rest =>
    match w with
    | .mention m => do
      let t ← (takeAttached g rest m.option m.attached).mapError Stop.fault
      let f ← t.options.foldlM (fun (f : Findings) (o, value) => f.add o value) f
      readWords g fuel { f with extras := f.extras ++ t.extras } t.rest
    | .stranger => readWords g fuel (f.leave argument) rest
    | .plain | .dashes =>
      match g.operand, f.operand with
      | some operand, none =>
        match takeOperand operand ((argument, w) :: rest) with
        | some (taken, rest) => readWords g fuel { f with operand := some taken } rest
        | none => readWords g fuel (f.leave argument) rest
      | _, _ => readWords g fuel (f.leave argument) rest

/-- Reads a command line. -/
def Grammar.read (g : Grammar) (arguments : List String) : Except Stop Findings := do
  let words ← (g.classify arguments).mapError Stop.fault
  let f ← readWords g words.length {} words
  match g.operand, f.operand with
  | some operand, none => .error (.fault (.operandMissing operand.name))
  | some (.choice name choices), some (word :: _) =>
    if choices.contains word then return f
    else .error (.fault (.unknownChoice name word choices))
  | _, _ => return f

end Suitewright.Command
