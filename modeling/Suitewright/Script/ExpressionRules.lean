/-
  The rules of expressions, functions and markup.
-/
import Suitewright.Script.Rule
import Suitewright.Tree.Backend

namespace Suitewright.Script

open Syn

/-! ## Targets and parameters -/

/-- What a value can be bound to. -/
def bindingTargetRule : Syn := .alt [.rule .objectTarget, .rule .arrayTarget, identifier]

/-- Targets for the members of an object. -/
def objectTargetRule : Syn :=
  named "object_pattern"
    [sign "\x7b",
      separated ","
        (.alt
          [.seq [sign "...", .rule .bindingTarget],
            .seq [.rule .propertyName, sign ":", .rule .bindingTarget, initialValue],
            .seq [identifier, initialValue]]),
      sign "\x7d"]

/-- Targets for the items of a list. -/
def arrayTargetRule : Syn :=
  named "array_pattern"
    [sign "[",
      .many (.alt [sign ",", .seq [.opt (sign "..."), .rule .bindingTarget, initialValue]]), sign "]"]

/-- The words before a parameter. -/
def parameterModifiers : List String := ["public", "private", "protected", "override", "readonly"]

/-- A parameter. -/
def parameterRule : Syn :=
  named "required_parameter"
    [.many (.rule .decorator), .many (.seq [wordOf parameterModifiers, .ahead (.alt [.lexeme .word, sign "\x7b", sign "["])]),
      .opt (sign "..."), .alt [word "this", .rule .bindingTarget], .opt (signUnless "?" "?."),
      .opt (.rule .typeMark), initialValue]

/-- Parameters between parentheses. -/
def parametersRule : Syn := named "formal_parameters" [sign "(", separated "," (.rule .parameter), sign ")"]

/-! ## Operators -/

/-- Signs of assignments. -/
def assignmentSigns : Syn :=
  .alt
    [signOf [">>>=", ">>=", "<<=", "**=", "&&=", "||=", "??=", "+=", "-=", "*=", "/=", "%=", "&=", "^=", "|="],
      initialSign]

/-- Signs and words between two operands. -/
def binarySigns : Syn :=
  .alt
    [signOf ["===", "!==", "==", "!=", ">>>", ">>", "<<", "<=", ">=", "&&", "||", "??", "**"],
      signUnless "=" "=>", signOf ["<", ">", "&", "|", "^", "+", "-", "*", "/", "%"],
      wordOf ["instanceof", "in"]]

/-- Expressions without a comma. -/
def expressionRule : Syn :=
  .grow (.rule .operand)
    [.tail "as_expression" "" (.seq [.sameLine, word "as", .alt [word "const", .rule .type]]),
      .tail "satisfies_expression" "" (.seq [.sameLine, word "satisfies", .rule .type]),
      .tail "assignment_expression" "left" (.seq [assignmentSigns, .rule .expression]),
      .tail "ternary_expression" "condition"
        (.seq [signUnless "?" "?", .rule .expression, sign ":", .rule .expression]),
      .tail "ternary_expression" "condition"
        (.seq [signUnless "?" "?", .rule .unary, sign ":", .rule .expression]),
      .tail "binary_expression" "left" (.seq [binarySigns, .rule .unary])]

/-- Expressions with commas. -/
def expressionsRule : Syn :=
  .grow (.rule .expression) [.tail "sequence_expression" "" (.seq [sign ",", .rule .expression])]

/-- First operands: functions with an arrow, and others. -/
def operandRule : Syn :=
  .alt
    [.rule .arrow,
      named "yield_expression" [word "yield", .sameLine, .opt (sign "*"), .rule .expression],
      .rule .unary]

/-- Functions with an arrow. -/
def arrowRule : Syn :=
  let head : Syn :=
    .alt
      [.seq [.opt (.seq [word "async", .sameLine]), optionalTypeParameters, .rule .parameters, optionalResult,
          sign "=>"],
        .seq [word "async", .sameLine, .field "parameter" identifier, sign "=>"],
        .seq [.field "parameter" identifier, sign "=>"]]
  named "arrow_function" [head, .field "body" (.alt [.rule .block, .rule .expression])]

/-- Operands with signs and words before them. -/
def unaryRule (grammar : Grammar) : Syn :=
  let assertion : List Syn := match grammar with
    | .plain => [named "type_assertion" [.rule .typeArguments, .rule .unary]]
    | .markup => []
  .alt
    (assertion ++
      [named "unary_expression"
        [.alt [signOf ["++", "--", "+", "-", "~"], signUnless "!" "=", wordOf ["typeof", "void", "delete"]],
          .rule .unary],
        named "await_expression" [word "await", .rule .unary],
        .grow (.rule .access) [.tail "update_expression" "" (.seq [.sameLine, signOf ["++", "--"]])]])

/-! ## Access and calls -/

/-- Names of members after a point. -/
def memberName : Syn :=
  .alt [.node "property_identifier" true (.lexeme .word),
    .node "private_property_identifier" true (.lexeme .privateName)]

/-- The sign of an access that may find nothing. -/
def questionPoint : Syn := signUnless "?." "0123456789"

/-- Tails by which a member is reached. -/
def memberTails : List Syn :=
  [.tail "member_expression" "object" (.seq [.alt [questionPoint, signUnless "." "."], memberName]),
    .tail "subscript_expression" "object"
      (.seq [.opt questionPoint, sign "[", .rule .expressions, sign "]"]),
    .tail "non_null_expression" "" (.seq [.sameLine, signUnless "!" "="])]

/-- Members and calls. -/
def accessRule : Syn :=
  .grow (.rule .primary)
    (.tail "call_expression" "function"
        (.seq [questionPoint, .opt (.rule .typeArguments), .field "arguments" (.rule .arguments)]) ::
      memberTails ++
      [.tail "call_expression" "function"
        (.seq [.opt (.rule .typeArguments), .field "arguments" (.alt [.rule .arguments, .rule .template])]),
        .tail "instantiation_expression" "function"
          (.seq [.rule .typeArguments, .ahead (.alt [signOf [";", ",", ")", "]", "\x7d", ":"], .newLine, .atEnd])])])

/-- What can follow `new`. -/
def calleeRule : Syn := .grow (.rule .primary) memberTails

/-- Arguments between parentheses. -/
def argumentsRule : Syn :=
  named "arguments"
    [sign "(",
      separated "," (.alt [named "spread_element" [sign "...", .rule .expression], .rule .expression]), sign ")"]

/-! ## Values -/

/-- A function with its word. -/
def functionValueRule : Syn :=
  let head : Syn := .seq [.opt (.seq [word "async", .sameLine]), word "function"]
  let rest : Syn :=
    .seq [.opt (.field "name" identifier), optionalTypeParameters, .rule .parameters, optionalResult,
      .field "body" (.rule .block)]
  .alt
    [named "function_expression" [head, .notAhead (sign "*"), rest],
      named "generator_function" [head, sign "*", rest]]

/-- A class as a value. -/
def classValueRule : Syn :=
  named "class"
    [.many (.rule .decorator), word "class", .opt (.seq [.notAhead (wordOf ["implements"]), .field "name" typeName]),
      optionalTypeParameters, .opt (.rule .heritage), .field "body" (.rule .classBody)]

/-- A template. -/
def templateRule : Syn :=
  named "template_string"
    [sign tick,
      .many (.alt
        [.node "string_fragment" true (.lexeme .templateChars),
          .node "template_substitution" true (.seq [.raw "$\x7b", .rule .expressions, sign "\x7d"])]),
      .raw tick]

/-- A list. -/
def arrayValueRule : Syn :=
  named "array"
    [sign "[",
      .many (.alt [sign ",", named "spread_element" [sign "...", .rule .expression], .rule .expression]),
      sign "]"]

/-- A member of an object. -/
def objectMemberRule : Syn :=
  .alt
    [named "spread_element" [sign "...", .rule .expression],
      named "pair" [.field "key" (.rule .propertyName), sign ":", .field "value" (.rule .expression)],
      named "method_definition"
        [.many (modifier ["async", "get", "set"]), .opt (sign "*"), .field "name" (.rule .propertyName),
          optionalTypeParameters, .rule .parameters, optionalResult, .field "body" (.rule .block)],
      .seq [identifier, initialValue]]

/-- An object. -/
def objectValueRule : Syn := named "object" [sign "\x7b", separated "," (.rule .objectMember), sign "\x7d"]

/-- Values that need no brackets. -/
def primaryRule (grammar : Grammar) : Syn :=
  let markup : List Syn := match grammar with
    | .plain => []
    | .markup => [.rule .element]
  .alt
    ([named "parenthesized_expression" [sign "(", .rule .expressions, sign ")"], .rule .functionValue,
      .rule .classValue, .rule .template, .rule .arrayValue, .rule .objectValue,
      .node "string" true (.lexeme .quoted), .node "number" true (.lexeme .number),
      .node "regex" true (.lexeme .regex),
      named "new_expression"
        [word "new", .alt [.seq [sign ".", word "target"], .rule .callee], .opt (.rule .typeArguments),
          .opt (.rule .arguments)],
      .node "private_property_identifier" true (.lexeme .privateName),
      .node "import" true (word "import")] ++
      ["this", "super", "null", "true", "false", "undefined"].map (fun w => .node w true (word w)) ++ markup ++ [identifier])

/-! ## Markup -/

/-- The name of an element. -/
def markupTagRule : Syn :=
  .seq [.lexeme .markupName, .many (.seq [signOf [".", ":"], .lexeme .markupName])]

/-- An attribute of an element. -/
def markupAttributeRule : Syn :=
  let inserted : Syn := named "jsx_expression" [sign "\x7b", .opt (.rule .expressions), sign "\x7d"]
  .alt
    [named "jsx_expression" [sign "\x7b", sign "...", .rule .expression, sign "\x7d"],
      named "jsx_attribute"
        [.lexeme .markupName, .opt (.seq [sign ":", .lexeme .markupName]),
          .opt (.seq [sign "=", .alt [.node "string" true (.lexeme .markupQuoted), inserted, .rule .element]])]]

/-- What can stand in an element. -/
def markupChildRule : Syn :=
  .alt
    [.node "jsx_text" true (.lexeme .markupText), .rule .element,
      named "jsx_expression"
        [sign "\x7b", .opt (.alt [.seq [sign "...", .rule .expression], .rule .expressions]), sign "\x7d"]]

/-- An element of markup. -/
def elementRule : Syn :=
  let tag : Syn := .seq [.rule .markupTag, .opt (.rule .typeArguments), .many (.rule .markupAttribute)]
  .alt
    [named "jsx_self_closing_element" [sign "<", tag, sign "/", sign ">"],
      named "jsx_element"
        [sign "<", .opt tag, sign ">", .many (.rule .markupChild), sign "<", sign "/", .opt (.rule .markupTag), sign ">"]]

end Suitewright.Script
