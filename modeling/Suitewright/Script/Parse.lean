/-
  Reading source files.

  * `grammarRule`: the pattern of each rule;
  * `parse`: the syntax tree of a source file.
-/
import Suitewright.Script.ExpressionRules
import Suitewright.Script.StatementRules
import Suitewright.Script.TypeRules

namespace Suitewright.Script

/-- The pattern of a rule. -/
def grammarRule (grammar : Grammar) : Rule → Syn
  | .program => programRule
  | .statement => statementRule
  | .block => blockRule
  | .declaration => declarationRule
  | .semicolon => semicolonRule
  | .importStatement => importStatementRule
  | .importClause => importClauseRule
  | .namedImports => namedImportsRule
  | .exportStatement => exportStatementRule
  | .exportClause => exportClauseRule
  | .lexical => lexicalRule
  | .declarator => declaratorRule
  | .functionDeclaration => functionDeclarationRule
  | .classDeclaration => classDeclarationRule
  | .classBody => classBodyRule
  | .classMember => classMemberRule
  | .heritage => heritageRule
  | .interfaceDeclaration => interfaceRule
  | .typeAlias => typeAliasRule
  | .enumDeclaration => enumRule
  | .moduleDeclaration => moduleRule
  | .ambient => ambientRule
  | .decorator => decoratorRule
  | .bindingTarget => bindingTargetRule
  | .objectTarget => objectTargetRule
  | .arrayTarget => arrayTargetRule
  | .parameters => parametersRule
  | .parameter => parameterRule
  | .typeParameters => typeParametersRule
  | .type => typeRule
  | .unionType => unionTypeRule
  | .meetType => meetTypeRule
  | .typeOperand => typeOperandRule
  | .prefixType => prefixTypeRule
  | .suffixedType => suffixedTypeRule
  | .primaryType => primaryTypeRule
  | .functionType => functionTypeRule
  | .constructorType => constructorTypeRule
  | .objectType => objectTypeRule
  | .typeMember => typeMemberRule
  | .propertyName => propertyNameRule
  | .returnType => returnTypeRule
  | .typeArguments => typeArgumentsRule
  | .typeMark => typeMarkRule
  | .expression => expressionRule
  | .expressions => expressionsRule
  | .operand => operandRule
  | .arrow => arrowRule
  | .unary => unaryRule grammar
  | .access => accessRule
  | .primary => primaryRule grammar
  | .callee => calleeRule
  | .arguments => argumentsRule
  | .functionValue => functionValueRule
  | .classValue => classValueRule
  | .template => templateRule
  | .arrayValue => arrayValueRule
  | .objectValue => objectValueRule
  | .objectMember => objectMemberRule
  | .element => elementRule
  | .markupAttribute => markupAttributeRule
  | .markupChild => markupChildRule
  | .markupTag => markupTagRule
  | .ifTail => ifTailRule
  | .forHead => forHeadRule
  | .switchCase => switchCaseRule

/-- The depth of rules that is enough for a source of a length. -/
def enoughFuel (size : Nat) : Nat := (size + 2) * 500

/-- The syntax tree of a source file. -/
def parse (grammar : Grammar) (text : String) : Tree :=
  let s := Source.ofText text
  let result := (Pattern.run s (grammarRule grammar) (enoughFuel s.size) (.rule .program) 0).run ∅
  let items := (result.1.map Match.items).getD []
  (Branch.node "program" none true 0 s.size items).toTree s

end Suitewright.Script
