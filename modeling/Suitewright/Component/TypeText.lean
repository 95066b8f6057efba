/-
  Types of properties, known by their source text alone.

  * `TypeText.isFunction`, `isCallback`: function types, and those without parameters;
  * `TypeText.isUnion`: types with a bar that are no functions; `alternatives` are their parts without blanks
    and quotes;
  * `TypeText.isBoolean`, `isString`, `isNumeric`: the three plain types.
-/
import Suitewright.Text.Trim

namespace Suitewright

/-- The source text of a type. -/
structure TypeText where
  /-- The text as written. -/
  text : String
  deriving Repr, DecidableEq, Inhabited

namespace TypeText

/-- The quote characters of the source language. -/
def isQuote (c : Char) : Bool := c == '\'' || c == '"' || c.toNat == 96

/-- Whether the text goes on with an arrow, after blanks. -/
def arrowAhead (cs : List Char) : Bool :=
  ['=', '>'].isPrefixOf (cs.dropWhile Text.isBlank)

/-- Whether a closing parenthesis and an arrow come somewhere. -/
def closesWithArrow : List Char → Bool
  | [] => false
  | c :: cs => (c == ')' && arrowAhead cs) || closesWithArrow cs

/-- Whether the text begins with a parameter list and an arrow. -/
def opensWithParameters : List Char → Bool
  | '(' :: cs => closesWithArrow cs
  | _ => false

/-- Whether the text begins with an empty parameter list and an arrow. -/
def opensWithoutParameters : List Char → Bool
  | '(' :: cs =>
    match cs.dropWhile Text.isBlank with
    | ')' :: rest => arrowAhead rest
    | _ => false
  | _ => false

/-- The endings of names of function types. -/
def handlerWords : List (List Char) := ["Handler".toList, "Function".toList]

/-- Whether one of the handler words comes directly before an opening angle bracket. -/
def hasGenericHandler : List Char → Bool
  | [] => false
  | c :: cs => handlerWords.any (fun w => (w ++ ['<']).isPrefixOf (c :: cs)) || hasGenericHandler cs

/-- Whether the text ends with a handler word, or with a bracketed part that follows one. -/
def endsAsHandler (cs : List Char) : Bool :=
  handlerWords.any (·.isSuffixOf cs) || ([('>' : Char)].isSuffixOf cs && hasGenericHandler cs)

/-- The text without the blanks at its ends. -/
def trimmed (t : TypeText) : List Char := Text.trimChars t.text.toList

/-- Function types: a parameter list with an arrow, or a name of a function type. -/
def isFunction (t : TypeText) : Bool :=
  opensWithParameters t.trimmed || endsAsHandler t.trimmed

/-- Function types without parameters. -/
def isCallback (t : TypeText) : Bool := opensWithoutParameters t.trimmed

/-- Types with a bar that are no functions. -/
def isUnion (t : TypeText) : Bool := t.text.toList.contains '|' && !t.isFunction

/-- The truth type. -/
def isBoolean (t : TypeText) : Bool := t.trimmed == "boolean".toList

/-- The text type. -/
def isString (t : TypeText) : Bool := t.trimmed == "string".toList

/-- The number type. -/
def isNumeric (t : TypeText) : Bool := t.trimmed == "number".toList

/-- The parts of a union between its bars, without blanks and quotes; parts of blanks alone are left out. -/
def unionParts (t : TypeText) : List String :=
  ((Text.pieces '|' t.text.toList).map Text.trimChars |>.filter (!·.isEmpty)).map
    fun p => .ofList (Text.dropEnds isQuote p)

/-- The texts that stand for the values of the type: the parts of a union, else the type's own text. -/
def alternatives (t : TypeText) : List String :=
  if t.isUnion && !t.unionParts.isEmpty then t.unionParts else [.ofList t.trimmed]

/-- The first alternative. -/
def firstAlternative (t : TypeText) : String := t.alternatives.headD ""

end TypeText

end Suitewright
