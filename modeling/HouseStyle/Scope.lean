import HouseStyle.Declaration
import HouseStyle.Syntax.Traversal

/-!
# Scopes and shadowing

Which names a node brings into scope for what stands below it, and whether
such a name hides the members of the enclosing type.  A pattern variable
counts for the whole function that contains it.
-/

namespace HouseStyle
namespace Scope

open Syntax

/-- A parameter list declares a name. -/
def parametersDeclare (name : String) (list : Option Node) : Bool :=
  list.any fun parameters => (Parameter.names parameters).contains name

/-- The nodes that introduce a pattern variable. -/
def isPattern : Kind → Bool
  | .declarationExpression | .declarationPattern | .varPattern | .recursivePattern => true
  | _ => false

/--
The node that names the variable of a pattern: its `name`, or else its last
named child.  A pattern with less than two named children names nothing.
-/
def designation? (node : Node) : Option Node :=
  if isPattern node.kind && 2 ≤ node.namedChildren.length then
    (node.child? .name).or node.namedChildren.getLast?
  else
    none

/-- The node is a pattern that introduces a variable with a given name. -/
def introduces (name : String) (node : Node) : Bool :=
  (designation? node).any fun designation =>
    designation.kind == .identifier && designation.text == name

/-- Some pattern at or below a node introduces a name. -/
def patternsDeclare (name : String) (scope : Site) : Bool :=
  scope.anyBelow (introduces name)

/-- The clauses of a query that bring in a range variable. -/
def isRangeClause : Kind → Bool
  | .fromClause | .letClause | .joinClause | .joinIntoClause | .queryContinuation => true
  | _ => false

/-- The node is a clause that brings in a range variable with a given name. -/
def ranges (name : String) (node : Node) : Bool :=
  isRangeClause node.kind && (node.child? .name).any fun identifier => identifier.text == name

/-- Some clause at or below a query brings in a name. -/
def queryDeclares (name : String) (query : Site) : Bool :=
  query.anyBelow (ranges name)

mutual

/-- An identifier with a given text stands at or below a node, reached through named nodes;
nothing below an identifier counts. -/
def mentions (name : String) : Node → Bool
  | .branch label children =>
      if label.kind = .identifier then label.text == name else mentionsAny name children

/-- An identifier with a given text stands at or below one of the named nodes of a list. -/
def mentionsAny (name : String) : List Node → Bool
  | [] => false
  | node :: rest => (node.isNamed && mentions name node) || mentionsAny name rest

end

/-- A child before the arrow of a lambda declares a name. -/
def lambdaChildDeclares (name : String) (child : Node) : Bool :=
  match child.kind with
  | .identifier | .implicitParameter => child.text == name
  | .parameterList => parametersDeclare name (some child)
  | _ => false

/-- The parameters of a lambda, which stand before its arrow, declare a name. -/
def lambdaDeclares (name : String) (lambda : Node) : Bool :=
  (lambda.children.takeWhile fun child => child.kind != .arrow).any (lambdaChildDeclares name)

/-- The parameter list of an anonymous method. -/
def anonymousParameters? (method : Node) : Option Node :=
  (method.child? .parameters).or
    (method.namedChildren.find? fun child => child.kind == .parameterList)

/-- An accessor has an implicit parameter with a given name. -/
def accessorBinds (name : String) (accessor : Node) : Bool :=
  name == "value" && (Accessor.ofDeclaration? accessor).any Accessor.bindsValue

/-- A declaration with declarators brings in a name. -/
def declarationDeclares (name : String) (declaration : Node) : Bool :=
  (Declarator.names declaration).contains name

/-- A statement of a block brings in a local or a local function with a given name. -/
def statementDeclares (name : String) (statement : Node) : Bool :=
  match statement.kind with
  | .localDeclarationStatement => declarationDeclares name statement
  | .localFunctionStatement =>
      (statement.child? .name).any fun identifier => identifier.text == name
  | _ => false

/-- A child before the `in` of a loop can hold the names of its variables. -/
def loopChildDeclares (name : String) (child : Node) : Bool :=
  match child.kind with
  | .identifier | .tuplePattern | .declarationExpression => mentions name child
  | _ => false

/-- The variable of a `foreach` loop, possibly a deconstruction, has a name. -/
def loopDeclares (name : String) (statement : Node) : Bool :=
  match statement.child? .left with
  | some left => mentions name left
  | none =>
      (statement.children.takeWhile fun child => child.kind != .inKeyword).any
        (loopChildDeclares name)

/-- The exception variable of a `catch` has a name. -/
def catchDeclares (name : String) (clause : Node) : Bool :=
  clause.namedChildren.any fun child =>
    child.kind == .catchDeclaration &&
      (child.child? .name).any fun identifier => identifier.text == name

/-- The resources or loop variables of a statement header have a name. -/
def headerDeclares (name : String) (statement : Node) : Bool :=
  statement.namedChildren.any fun child =>
    child.kind == .variableDeclaration && declarationDeclares name child

/-- A node brings a name into scope for what stands below it. -/
def declares (name : String) (scope : Site) : Bool :=
  match scope.kind with
  | .methodDeclaration | .constructorDeclaration | .destructorDeclaration
  | .operatorDeclaration | .conversionOperatorDeclaration | .indexerDeclaration
  | .localFunctionStatement =>
      parametersDeclare name (scope.node.child? .parameters) || patternsDeclare name scope
  | .lambdaExpression => lambdaDeclares name scope.node || patternsDeclare name scope
  | .anonymousMethodExpression =>
      parametersDeclare name (anonymousParameters? scope.node) || patternsDeclare name scope
  | .accessorDeclaration => accessorBinds name scope.node || patternsDeclare name scope
  | .block | .switchSection => scope.node.namedChildren.any (statementDeclares name)
  | .forStatement | .usingStatement | .fixedStatement => headerDeclares name scope.node
  | .foreachStatement => loopDeclares name scope.node
  | .catchClause => catchDeclares name scope.node
  | .queryExpression => queryDeclares name scope
  | _ => false

/-- The ancestors of a site inside the enclosing type declaration, nearest first. -/
def enclosing (site : Site) : List Site :=
  site.ancestors.takeWhile fun ancestor => !ancestor.kind.isType

/-- A local, a parameter or a pattern variable hides the members with a given name. -/
def isShadowed (name : String) (site : Site) : Bool :=
  (enclosing site).any (declares name)

end Scope
end HouseStyle
