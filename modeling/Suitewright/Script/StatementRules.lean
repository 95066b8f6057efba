/-
  The rules of statements and declarations.
-/
import Suitewright.Script.Rule

namespace Suitewright.Script

open Syn

/-! ## Ends and blocks -/

/-- The end of a statement: a semicolon, or a place where one may be left out. -/
def semicolonRule : Syn := .alt [sign ";", .ahead (sign "\x7d"), .newLine, .atEnd]

/-- A block of statements. -/
def blockRule : Syn := named "statement_block" [sign "\x7b", .many (.rule .statement), sign "\x7d", .opt (sign ";")]

/-! ## Imports and exports -/

/-- Names in an import or export list. -/
def exportName : Syn := .alt [.node "identifier" true (.lexeme .word), .node "string" true (.lexeme .quoted)]

/-- A name with another name for it. -/
def renamed : Syn := .seq [.field "name" exportName, word "as", .field "alias" exportName]

/-- A name in an import list. -/
def importSpecifier : Syn :=
  .alt
    [named "import_specifier" [wordOf ["type", "typeof"], renamed],
      named "import_specifier" [renamed],
      named "import_specifier" [wordOf ["type", "typeof"], .field "name" exportName],
      named "import_specifier" [.field "name" exportName]]

/-- A list of imported names. -/
def namedImportsRule : Syn := named "named_imports" [sign "\x7b", separated "," importSpecifier, sign "\x7d"]

/-- What an import binds. -/
def importClauseRule : Syn :=
  let all : Syn := named "namespace_import" [sign "*", word "as", identifier]
  named "import_clause"
    [.alt [all, .rule .namedImports,
      .seq [identifier, .opt (.seq [sign ",", .alt [all, .rule .namedImports]])]]]

/-- The attributes of an imported module. -/
def importAttributes : Syn := .opt (.seq [wordOf ["with", "assert"], .rule .objectValue])

/-- The module of an import or export. -/
def fromModule : Syn := .seq [word "from", .field "source" (.node "string" true (.lexeme .quoted))]

/-- Imports. -/
def importStatementRule : Syn :=
  let clause : Syn :=
    .alt
      [.seq [wordOf ["type", "typeof"], .rule .importClause, fromModule],
        .seq [.rule .importClause, fromModule], .field "source" (.node "string" true (.lexeme .quoted))]
  .alt
    [named "import_statement" [word "import", clause, importAttributes, .rule .semicolon],
      named "import_statement"
        [word "import", .opt (word "type"),
          named "import_require_clause"
            [identifier, initialSign, word "require", sign "(",
              .field "source" (.node "string" true (.lexeme .quoted)), sign ")"],
          .rule .semicolon],
      named "import_alias"
        [word "import", .opt (word "type"), identifier, initialSign, .lexeme .identifier,
          .many (.seq [sign ".", .lexeme .word]), .rule .semicolon]]

/-- A list of exported names. -/
def exportClauseRule : Syn :=
  named "export_clause"
    [sign "\x7b",
      separated "," (named "export_specifier"
        [.alt
          [.seq [wordOf ["type", "typeof"], renamed], renamed,
            .seq [wordOf ["type", "typeof"], .field "name" exportName], .field "name" exportName]]),
      sign "\x7d"]

/-- Exports. -/
def exportStatementRule : Syn :=
  named "export_statement"
    [.many (.rule .decorator), word "export",
      .alt
        [.seq [sign "*", .opt (.seq [word "as", exportName]), fromModule, importAttributes, .rule .semicolon],
          .seq [.opt (word "type"), .rule .exportClause, .opt (.seq [fromModule, importAttributes]),
            .rule .semicolon],
          .seq [word "type", sign "*", .opt (.seq [word "as", exportName]), fromModule, .rule .semicolon],
          .seq [initialSign, .rule .expression, .rule .semicolon],
          .seq [word "as", word "namespace", identifier, .rule .semicolon],
          .seq [kept "default" (word "default"),
            .alt [.field "declaration" (.rule .declaration),
              .seq [.field "value" (.rule .expression), .rule .semicolon]]],
          .field "declaration" (.rule .declaration)]]

/-! ## Declarations -/

/-- A variable with its type and value. -/
def declaratorRule : Syn :=
  named "variable_declarator"
    [.field "name" (.rule .bindingTarget), .opt (signUnless "!" "="), .opt (.field "type" (.rule .typeMark)),
      .opt (.seq [initialSign, .field "value" (.rule .expression)])]

/-- Variables. -/
def lexicalRule : Syn :=
  .alt
    [named "lexical_declaration"
      [.alt [word "const", .seq [word "let", .ahead (.alt [.lexeme .identifier, sign "\x7b", sign "["])]],
        .rule .declarator, .many (.seq [sign ",", .rule .declarator]), .rule .semicolon],
      named "variable_declaration"
        [word "var", .rule .declarator, .many (.seq [sign ",", .rule .declarator]), .rule .semicolon]]

/-- Functions, and their signatures. -/
def functionDeclarationRule : Syn :=
  let head : Syn := .seq [.opt (.seq [word "async", .sameLine]), word "function"]
  let rest : Syn :=
    .seq [.field "name" identifier, optionalTypeParameters, .field "parameters" (.rule .parameters),
      optionalResult]
  .alt
    [named "function_declaration" [head, .notAhead (sign "*"), rest, .field "body" (.rule .block)],
      named "generator_function_declaration" [head, sign "*", rest, .field "body" (.rule .block)],
      named "function_signature" [head, .opt (sign "*"), rest, .rule .semicolon]]

/-- What a class extends and implements. -/
def heritageRule : Syn :=
  let implemented : Syn :=
    named "implements_clause" [word "implements", .rule .type, .many (.seq [sign ",", .rule .type])]
  let base : Syn :=
    .seq [.field "value" (.rule .access), .opt (.field "type_arguments" (.rule .typeArguments))]
  named "class_heritage"
    [.alt
      [.seq [named "extends_clause" [word "extends", base, .many (.seq [sign ",", base])], .opt implemented],
        implemented]]

/-- The words before the name of a member of a class. -/
def classModifiers : List String :=
  ["public", "private", "protected", "static", "override", "readonly", "declare", "abstract", "accessor", "async",
    "get", "set"]

/-- Members of a class. -/
def classMemberRule : Syn :=
  .alt
    [sign ";", .rule .decorator,
      named "class_static_block" [word "static", .rule .block],
      named "index_signature"
        [.many (modifier ["public", "private", "protected", "static", "readonly"]), sign "[",
          .lexeme .identifier, sign ":", .rule .type, sign "]", sign ":", .rule .type, .rule .semicolon],
      named "method_definition"
        [.many (modifier classModifiers), .opt (sign "*"), .field "name" (.rule .propertyName),
          .opt (signOf ["?", "!"]), optionalTypeParameters, .rule .parameters, optionalResult,
          .alt [.field "body" (.rule .block), .rule .semicolon]],
      named "public_field_definition"
        [.many (modifier classModifiers), .field "name" (.rule .propertyName), .opt (signOf ["?", "!"]),
          .opt (.field "type" (.rule .typeMark)), .opt (.seq [initialSign, .field "value" (.rule .expression)]),
          .rule .semicolon]]

/-- The body of a class. -/
def classBodyRule : Syn := named "class_body" [sign "\x7b", .many (.rule .classMember), sign "\x7d"]

/-- Classes. -/
def classDeclarationRule : Syn :=
  let rest : Syn :=
    .seq [word "class", .field "name" typeName, optionalTypeParameters, .opt (.rule .heritage),
      .field "body" (.rule .classBody), .opt (sign ";")]
  .alt
    [named "class_declaration" [.many (.rule .decorator), rest],
      named "abstract_class_declaration" [.many (.rule .decorator), word "abstract", rest]]

/-- Interfaces. -/
def interfaceRule : Syn :=
  named "interface_declaration"
    [word "interface", .field "name" typeName, optionalTypeParameters,
      .opt (named "extends_type_clause" [word "extends", .rule .type, .many (.seq [sign ",", .rule .type])]),
      .field "body" (.node "interface_body" true (.rule .objectType)), .opt (sign ";")]

/-- Names for types. -/
def typeAliasRule : Syn :=
  named "type_alias_declaration"
    [word "type", .field "name" typeName, optionalTypeParameters, initialSign, .field "value" (.rule .type),
      .rule .semicolon]

/-- Enumerations. -/
def enumRule : Syn :=
  named "enum_declaration"
    [.opt (word "const"), word "enum", .field "name" identifier, sign "\x7b",
      separated "," (.seq [.rule .propertyName, initialValue]), sign "\x7d"]

/-- Namespaces and modules. -/
def moduleRule : Syn :=
  .alt
    [named "internal_module"
      [word "namespace", .sameLine,
        .field "name" (.node "nested_identifier" true (.seq [.lexeme .identifier, .many (.seq [sign ".", .lexeme .word])])),
        .field "body" (.rule .block)],
      named "module"
        [word "module", .sameLine,
          .field "name" (.alt [.node "string" true (.lexeme .quoted),
            .node "nested_identifier" true (.seq [.lexeme .identifier, .many (.seq [sign ".", .lexeme .word])])]),
          .alt [.field "body" (.rule .block), .rule .semicolon]]]

/-- Declarations of what is defined elsewhere. -/
def ambientRule : Syn :=
  named "ambient_declaration"
    [word "declare", .sameLine,
      .alt
        [.seq [word "global", .rule .block], .rule .declaration]]

/-- A decorator. -/
def decoratorRule : Syn := named "decorator" [sign "@", .rule .access]

/-- Declarations. -/
def declarationRule : Syn :=
  .alt
    [.rule .functionDeclaration, .rule .classDeclaration, .rule .enumDeclaration, .rule .lexical,
      .rule .interfaceDeclaration, .rule .typeAlias, .rule .moduleDeclaration, .rule .ambient,
      .rule .importStatement]

/-! ## Statements -/

/-- A condition between parentheses. -/
def condition : Syn := named "parenthesized_expression" [sign "(", .rule .expressions, sign ")"]

/-- The other branch of a condition. -/
def ifTailRule : Syn := .opt (.seq [word "else", .rule .statement])

/-- The head of a loop. -/
def forHeadRule : Syn :=
  let range : Syn := .seq [wordOf ["of", "in"], .rule .expressions]
  .alt
    [.seq [wordOf ["const", "let", "var"], .rule .bindingTarget, optionalType, range],
      .seq [.rule .access, range],
      .seq [.alt [.rule .lexical, .seq [.rule .expressions, sign ";"], sign ";"], .opt (.rule .expressions), sign ";",
        .opt (.rule .expressions)]]

/-- A case of a switch. -/
def switchCaseRule : Syn :=
  named "switch_case"
    [.alt [.seq [word "case", .rule .expressions], word "default"], sign ":", .many (.rule .statement)]

/-- Statements. -/
def statementRule : Syn :=
  let jump (kind : String) : Syn :=
    named (kind ++ "_statement") [word kind, .opt (.seq [.sameLine, .lexeme .identifier]), .rule .semicolon]
  .alt
    [.rule .block, .node "empty_statement" true (sign ";"), .rule .exportStatement, .rule .declaration,
      named "if_statement" [word "if", condition, .rule .statement, .rule .ifTail],
      named "for_statement"
        [word "for", .opt (word "await"), sign "(", .rule .forHead, sign ")", .rule .statement],
      named "while_statement" [word "while", condition, .rule .statement],
      named "do_statement" [word "do", .rule .statement, word "while", condition, .opt (sign ";")],
      named "return_statement"
        [word "return", .opt (.seq [.sameLine, .rule .expressions]), .rule .semicolon],
      named "throw_statement" [word "throw", .rule .expressions, .rule .semicolon],
      jump "break", jump "continue", named "debugger_statement" [word "debugger", .rule .semicolon],
      named "try_statement"
        [word "try", .rule .block,
          .opt (.seq [word "catch", .opt (.seq [sign "(", .rule .bindingTarget, optionalType, sign ")"]), .rule .block]),
          .opt (.seq [word "finally", .rule .block])],
      named "switch_statement"
        [word "switch", condition, sign "\x7b", .many (.rule .switchCase), sign "\x7d"],
      named "with_statement" [word "with", condition, .rule .statement],
      named "labeled_statement" [.lexeme .identifier, sign ":", .rule .statement],
      named "expression_statement" [.rule .expressions, .rule .semicolon]]

/-- A source file: statements, where characters that begin none are passed over. -/
def programRule : Syn :=
  .seq
    [.opt (.node "hash_bang_line" true (.lexeme .hashBang)),
      .many (.alt [.rule .statement, .node "ERROR" true .anyChar])]

end Suitewright.Script
