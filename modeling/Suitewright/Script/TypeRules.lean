/-
  The rules of types.
-/
import Suitewright.Script.Rule

namespace Suitewright.Script

open Syn

/-- The words before the name of a member of a type. -/
def memberModifiers : List String := ["public", "private", "protected", "static", "override", "readonly"]

/-- Names of members: words, texts, numbers and computed names. -/
def propertyNameRule : Syn :=
  .alt [.node "property_identifier" true (.lexeme .word),
    .node "private_property_identifier" true (.lexeme .privateName),
    .node "string" true (.lexeme .quoted), .node "number" true (.lexeme .number),
    named "computed_property_name" [sign "[", .rule .expression, sign "]"]]

/-- Types: function types, conditional types and unions. -/
def typeRule : Syn :=
  .grow (.rule .unionType)
    [.tail "conditional_type" "left"
      (.seq [.sameLine, word "extends", .rule .unionType, sign "?", .rule .type, sign ":", .rule .type])]

/-- The bar of a union. -/
def bar : Syn := signUnless "|" "|"

/-- The sign of an intersection. -/
def both : Syn := signUnless "&" "&"

/-- Unions. -/
def unionTypeRule : Syn :=
  .alt [named "union_type" [bar, .rule .meetType, .many (.seq [bar, .rule .meetType])],
    .grow (.rule .meetType) [.tail "union_type" "" (.seq [bar, .rule .meetType])]]

/-- Intersections. -/
def meetTypeRule : Syn :=
  .alt [named "intersection_type" [both, .rule .typeOperand, .many (.seq [both, .rule .typeOperand])],
    .grow (.rule .typeOperand) [.tail "intersection_type" "" (.seq [both, .rule .typeOperand])]]

/-- Operands of unions and intersections. -/
def typeOperandRule : Syn := .alt [.rule .functionType, .rule .constructorType, .rule .prefixType]

/-- Types of functions. -/
def functionTypeRule : Syn :=
  named "function_type" [optionalTypeParameters, .rule .parameters, sign "=>", .rule .returnType]

/-- Types of constructors. -/
def constructorTypeRule : Syn :=
  named "constructor_type"
    [.opt (word "abstract"), word "new", optionalTypeParameters, .rule .parameters, sign "=>", .rule .type]

/-- Result types, which may tell what a call asserts. -/
def returnTypeRule : Syn :=
  let subject : Syn := .alt [word "this", .lexeme .identifier]
  .alt
    [named "asserts" [word "asserts", .sameLine, subject, .opt (.seq [.sameLine, word "is", .rule .type])],
      named "type_predicate" [subject, .sameLine, word "is", .rule .type], .rule .type]

/-- Types after a word. -/
def prefixTypeRule : Syn :=
  .alt
    [named "index_type_query" [word "keyof", .rule .prefixType],
      named "readonly_type" [word "readonly", .rule .prefixType],
      named "unique_symbol" [word "unique", word "symbol"],
      named "infer_type" [word "infer", typeName,
        .opt (.seq [word "extends", .rule .typeOperand, .notAhead (sign "?")])],
      .rule .suffixedType]

/-- Types with brackets after them. -/
def suffixedTypeRule : Syn :=
  .grow (.rule .primaryType)
    [.tail "array_type" "" (.seq [.sameLine, sign "[", sign "]"]),
      .tail "lookup_type" "" (.seq [.sameLine, sign "[", .rule .type, sign "]"])]

/-- Members of a tuple. -/
def tupleMember : Syn :=
  .alt
    [.seq [.opt (sign "..."), .lexeme .word, .opt (sign "?"), sign ":", .rule .type],
      .seq [sign "...", .rule .type], .seq [.rule .type, .opt (sign "?")]]

/-- Arguments of a type, on the same line. -/
def typeArgumentsHere : Syn := .opt (.seq [.sameLine, .rule .typeArguments])

/-- Dots and names after a name. -/
def dottedNames : Syn := .many (.seq [signUnless "." ".", .alt [.lexeme .word, .lexeme .privateName]])

/-- A call of a module in a type. -/
def importType : Syn :=
  .seq [word "import", sign "(", .rule .type, .opt (.seq [sign ",", .rule .expression]), sign ")"]

/-- Types that need no brackets. -/
def primaryTypeRule : Syn :=
  .alt
    [named "parenthesized_type" [sign "(", .rule .type, sign ")"], .node "object_type" true (.rule .objectType),
      named "tuple_type" [sign "[", separated "," tupleMember, sign "]"],
      named "template_literal_type"
        [sign tick,
          .many (.alt [.lexeme .templateChars, .seq [.raw "$\x7b", .rule .type, sign "\x7d"]]), .raw tick],
      named "literal_type"
        [.alt [.lexeme .quoted, .seq [.opt (sign "-"), .lexeme .number], wordOf ["true", "false", "null"]]],
      named "this_type" [word "this"], named "predefined_type" [word "void"],
      named "type_query"
        [word "typeof", .alt [importType, wordOf ["this"], .lexeme .identifier], dottedNames, typeArgumentsHere],
      named "generic_type" [importType, dottedNames, typeArgumentsHere],
      named "type_identifier" [.lexeme .identifier, dottedNames, typeArgumentsHere]]

/-- Arguments of a type. -/
def typeArgumentsRule : Syn := named "type_arguments" [sign "<", separated "," (.rule .type), sign ">"]

/-- Parameters that are types. -/
def typeParametersRule : Syn :=
  named "type_parameters"
    [sign "<",
      separated ","
        (.seq [.many (.seq [wordOf ["const", "in", "out"], .ahead (.lexeme .word)]), typeName,
          .opt (.seq [word "extends", .rule .type]), .opt (.seq [initialSign, .rule .type])]),
      sign ">"]

/-- A type with its colon. -/
def typeMarkRule : Syn := named "type_annotation" [sign ":", .rule .type]

/-- The brackets of an index or of a mapping. -/
def indexBrackets : Syn :=
  .seq
    [sign "[",
      .alt
        [.seq [.lexeme .identifier, sign ":", .rule .type],
          .seq [.lexeme .identifier, word "in", .rule .type, .opt (.seq [word "as", .rule .type])]],
      sign "]"]

/-- Members of a type: indexes, calls, constructors, methods and properties. -/
def typeMemberRule : Syn :=
  .alt
    [named "index_signature"
      [.opt (.seq [.opt (signOf ["-", "+"]), word "readonly"]), indexBrackets,
        .opt (signOf ["-?", "+?", "?"]), optionalType],
      named "construct_signature"
        [.opt (word "abstract"), word "new", optionalTypeParameters, .rule .parameters, optionalResult],
      named "call_signature" [optionalTypeParameters, .rule .parameters, optionalResult],
      named "method_signature"
        [.many (modifier memberModifiers),
          .opt (modifier ["get", "set", "async"]), .opt (sign "*"),
          .field "name" (.rule .propertyName), .opt (sign "?"), optionalTypeParameters, .rule .parameters,
          optionalResult],
      named "property_signature"
        [.many (modifier memberModifiers), .field "name" (.rule .propertyName), .opt (kept "?" (sign "?")),
          .opt (.field "type" (.rule .typeMark))]]

/-- The end of a member of a type. -/
def memberEnd : Syn := .alt [signOf [",", ";"], .ahead (sign "\x7d"), .newLine, .atEnd]

/-- Members between braces. -/
def objectTypeRule : Syn :=
  .seq
    [sign "\x7b", .many (signOf [",", ";"]),
      .many (.seq [.rule .typeMember, memberEnd, .many (signOf [",", ";"])]), sign "\x7d"]

end Suitewright.Script
