/-
  The rules of the source language, and short names for its patterns.
-/
import Suitewright.Script.Pattern

namespace Suitewright.Script

/-- The rules of the source language. -/
inductive Rule where
  | program | statement | block | declaration | semicolon
  | importStatement | importClause | namedImports | exportStatement | exportClause
  | lexical | declarator | functionDeclaration | classDeclaration | classBody | classMember | heritage
  | interfaceDeclaration | typeAlias | enumDeclaration | moduleDeclaration | ambient | decorator
  | bindingTarget | objectTarget | arrayTarget | parameters | parameter | typeParameters
  | type | unionType | meetType | typeOperand | prefixType | suffixedType | primaryType | functionType
  | constructorType | objectType | typeMember | propertyName | returnType | typeArguments | typeMark
  | expression | expressions | operand | arrow | unary | access | primary | callee | arguments
  | functionValue | classValue | template | arrayValue | objectValue | objectMember
  | element | markupAttribute | markupChild | markupTag | ifTail | forHead | switchCase
  deriving Repr, DecidableEq, Hashable, Inhabited

/-- A pattern of the source language. -/
abbrev Syn := Pattern Rule

namespace Syn

/-- Fixed signs. -/
def sign (text : String) : Syn := .token text ""

/-- Fixed signs that do not go on with other ones. -/
def signUnless (text barred : String) : Syn := .token text barred

/-- A fixed word. -/
def word (text : String) : Syn := .keyword text

/-- One of several fixed words. -/
def wordOf (texts : List String) : Syn := .alt (texts.map .keyword)

/-- One of several fixed signs, the first that matches. -/
def signOf (texts : List String) : Syn := .alt (texts.map sign)

/-- A name that is not reserved, as a node. -/
def identifier : Syn := .node "identifier" true (.lexeme .identifier)

/-- A name of a type, as a node. -/
def typeName : Syn := .node "type_identifier" true (.lexeme .identifier)

/-- Items with a sign between them, perhaps none, perhaps with the sign once more at the end. -/
def separated (separator : String) (item : Syn) : Syn :=
  .seq [.opt (.seq [item, .many (.seq [sign separator, item])]), .opt (sign separator)]

/-- A node. -/
def named (kind : String) (parts : List Syn) : Syn := .node kind true (.seq parts)

/-- A token that is kept as a node. -/
def kept (kind : String) (p : Syn) : Syn := .node kind false p

/-- The sign of an initial value. -/
def initialSign : Syn := signUnless "=" "=>"

/-- An initial value, if there is one. -/
def initialValue : Syn := .opt (.seq [initialSign, .rule .expression])

/-- A type after a colon, if there is one. -/
def optionalType : Syn := .opt (.seq [sign ":", .rule .type])

/-- A result type after a colon, if there is one. -/
def optionalResult : Syn := .opt (.seq [sign ":", .rule .returnType])

/-- Type parameters, if there are any. -/
def optionalTypeParameters : Syn := .opt (.rule .typeParameters)

/-- A word before the name of a member, when it is not the name itself. -/
def modifier (texts : List String) : Syn :=
  .seq [wordOf texts, .notAhead (signOf [":", "?", "!", ",", ";", "\x7d", "(", ")", "<", "="])]

/-- A template mark. -/
def tick : String := String.singleton (Char.ofNat 96)

end Syn

end Suitewright.Script
