/-!
# Kinds of syntax nodes

The kinds of nodes that the conventions tell apart, and the labels under
which a node finds some of its children.  Every other kind or label is kept
by name.
-/

namespace HouseStyle
namespace Syntax

/-- The kind of a syntax node; tokens have the kind of their own text. -/
inductive Kind where
  | classDeclaration
  | structDeclaration
  | recordDeclaration
  | recordStructDeclaration
  | interfaceDeclaration
  | enumDeclaration
  | delegateDeclaration
  | fieldDeclaration
  | eventFieldDeclaration
  | propertyDeclaration
  | eventDeclaration
  | methodDeclaration
  | constructorDeclaration
  | destructorDeclaration
  | indexerDeclaration
  | operatorDeclaration
  | conversionOperatorDeclaration
  | compilationUnit
  | namespaceDeclaration
  | fileScopedNamespaceDeclaration
  | usingDirective
  | globalStatement
  | declarationList
  | modifier
  | explicitInterfaceSpecifier
  | variableDeclaration
  | variableDeclarator
  | parameterList
  | parameter
  | parameterArray
  | implicitParameter
  | equalsValueClause
  | accessorList
  | accessorDeclaration
  | arrowExpressionClause
  | block
  | switchSection
  | localDeclarationStatement
  | localFunctionStatement
  | returnStatement
  | forStatement
  | usingStatement
  | fixedStatement
  | foreachStatement
  | catchClause
  | catchDeclaration
  | lambdaExpression
  | anonymousMethodExpression
  | queryExpression
  | fromClause
  | letClause
  | joinClause
  | joinIntoClause
  | queryContinuation
  | declarationExpression
  | declarationPattern
  | varPattern
  | recursivePattern
  | tuplePattern
  | identifier
  | genericName
  | memberAccessExpression
  | thisExpression
  | invocationExpression
  | argument
  | assignmentExpression
  | initializerExpression
  | conditionalAccessExpression
  | comment
  | thisKeyword
  | staticKeyword
  | paramsKeyword
  | globalKeyword
  | inKeyword
  | getKeyword
  | setKeyword
  | initKeyword
  | addKeyword
  | removeKeyword
  | equalsSign
  | arrow
  | colon
  | other (name : String)
deriving DecidableEq, Repr, Inhabited

namespace Kind

/-- The kinds with a constructor of their own, each with its name. -/
def named : List (String × Kind) :=
  [("class_declaration", classDeclaration),
   ("struct_declaration", structDeclaration),
   ("record_declaration", recordDeclaration),
   ("record_struct_declaration", recordStructDeclaration),
   ("interface_declaration", interfaceDeclaration),
   ("enum_declaration", enumDeclaration),
   ("delegate_declaration", delegateDeclaration),
   ("field_declaration", fieldDeclaration),
   ("event_field_declaration", eventFieldDeclaration),
   ("property_declaration", propertyDeclaration),
   ("event_declaration", eventDeclaration),
   ("method_declaration", methodDeclaration),
   ("constructor_declaration", constructorDeclaration),
   ("destructor_declaration", destructorDeclaration),
   ("indexer_declaration", indexerDeclaration),
   ("operator_declaration", operatorDeclaration),
   ("conversion_operator_declaration", conversionOperatorDeclaration),
   ("compilation_unit", compilationUnit),
   ("namespace_declaration", namespaceDeclaration),
   ("file_scoped_namespace_declaration", fileScopedNamespaceDeclaration),
   ("using_directive", usingDirective),
   ("global_statement", globalStatement),
   ("declaration_list", declarationList),
   ("modifier", modifier),
   ("explicit_interface_specifier", explicitInterfaceSpecifier),
   ("variable_declaration", variableDeclaration),
   ("variable_declarator", variableDeclarator),
   ("parameter_list", parameterList),
   ("parameter", parameter),
   ("parameter_array", parameterArray),
   ("implicit_parameter", implicitParameter),
   ("equals_value_clause", equalsValueClause),
   ("accessor_list", accessorList),
   ("accessor_declaration", accessorDeclaration),
   ("arrow_expression_clause", arrowExpressionClause),
   ("block", block),
   ("switch_section", switchSection),
   ("local_declaration_statement", localDeclarationStatement),
   ("local_function_statement", localFunctionStatement),
   ("return_statement", returnStatement),
   ("for_statement", forStatement),
   ("using_statement", usingStatement),
   ("fixed_statement", fixedStatement),
   ("foreach_statement", foreachStatement),
   ("catch_clause", catchClause),
   ("catch_declaration", catchDeclaration),
   ("lambda_expression", lambdaExpression),
   ("anonymous_method_expression", anonymousMethodExpression),
   ("query_expression", queryExpression),
   ("from_clause", fromClause),
   ("let_clause", letClause),
   ("join_clause", joinClause),
   ("join_into_clause", joinIntoClause),
   ("query_continuation", queryContinuation),
   ("declaration_expression", declarationExpression),
   ("declaration_pattern", declarationPattern),
   ("var_pattern", varPattern),
   ("recursive_pattern", recursivePattern),
   ("tuple_pattern", tuplePattern),
   ("identifier", identifier),
   ("generic_name", genericName),
   ("member_access_expression", memberAccessExpression),
   ("this_expression", thisExpression),
   ("invocation_expression", invocationExpression),
   ("argument", argument),
   ("assignment_expression", assignmentExpression),
   ("initializer_expression", initializerExpression),
   ("conditional_access_expression", conditionalAccessExpression),
   ("comment", comment),
   ("this", thisKeyword),
   ("static", staticKeyword),
   ("params", paramsKeyword),
   ("global", globalKeyword),
   ("in", inKeyword),
   ("get", getKeyword),
   ("set", setKeyword),
   ("init", initKeyword),
   ("add", addKeyword),
   ("remove", removeKeyword),
   ("=", equalsSign),
   ("=>", arrow),
   (":", colon)]

/-- The kind with a given name. -/
def ofName (name : String) : Kind :=
  (named.lookup name).getD (other name)

/-- The name of a kind. -/
def name : Kind → String
  | classDeclaration => "class_declaration"
  | structDeclaration => "struct_declaration"
  | recordDeclaration => "record_declaration"
  | recordStructDeclaration => "record_struct_declaration"
  | interfaceDeclaration => "interface_declaration"
  | enumDeclaration => "enum_declaration"
  | delegateDeclaration => "delegate_declaration"
  | fieldDeclaration => "field_declaration"
  | eventFieldDeclaration => "event_field_declaration"
  | propertyDeclaration => "property_declaration"
  | eventDeclaration => "event_declaration"
  | methodDeclaration => "method_declaration"
  | constructorDeclaration => "constructor_declaration"
  | destructorDeclaration => "destructor_declaration"
  | indexerDeclaration => "indexer_declaration"
  | operatorDeclaration => "operator_declaration"
  | conversionOperatorDeclaration => "conversion_operator_declaration"
  | compilationUnit => "compilation_unit"
  | namespaceDeclaration => "namespace_declaration"
  | fileScopedNamespaceDeclaration => "file_scoped_namespace_declaration"
  | usingDirective => "using_directive"
  | globalStatement => "global_statement"
  | declarationList => "declaration_list"
  | modifier => "modifier"
  | explicitInterfaceSpecifier => "explicit_interface_specifier"
  | variableDeclaration => "variable_declaration"
  | variableDeclarator => "variable_declarator"
  | parameterList => "parameter_list"
  | parameter => "parameter"
  | parameterArray => "parameter_array"
  | implicitParameter => "implicit_parameter"
  | equalsValueClause => "equals_value_clause"
  | accessorList => "accessor_list"
  | accessorDeclaration => "accessor_declaration"
  | arrowExpressionClause => "arrow_expression_clause"
  | block => "block"
  | switchSection => "switch_section"
  | localDeclarationStatement => "local_declaration_statement"
  | localFunctionStatement => "local_function_statement"
  | returnStatement => "return_statement"
  | forStatement => "for_statement"
  | usingStatement => "using_statement"
  | fixedStatement => "fixed_statement"
  | foreachStatement => "foreach_statement"
  | catchClause => "catch_clause"
  | catchDeclaration => "catch_declaration"
  | lambdaExpression => "lambda_expression"
  | anonymousMethodExpression => "anonymous_method_expression"
  | queryExpression => "query_expression"
  | fromClause => "from_clause"
  | letClause => "let_clause"
  | joinClause => "join_clause"
  | joinIntoClause => "join_into_clause"
  | queryContinuation => "query_continuation"
  | declarationExpression => "declaration_expression"
  | declarationPattern => "declaration_pattern"
  | varPattern => "var_pattern"
  | recursivePattern => "recursive_pattern"
  | tuplePattern => "tuple_pattern"
  | identifier => "identifier"
  | genericName => "generic_name"
  | memberAccessExpression => "member_access_expression"
  | thisExpression => "this_expression"
  | invocationExpression => "invocation_expression"
  | argument => "argument"
  | assignmentExpression => "assignment_expression"
  | initializerExpression => "initializer_expression"
  | conditionalAccessExpression => "conditional_access_expression"
  | comment => "comment"
  | thisKeyword => "this"
  | staticKeyword => "static"
  | paramsKeyword => "params"
  | globalKeyword => "global"
  | inKeyword => "in"
  | getKeyword => "get"
  | setKeyword => "set"
  | initKeyword => "init"
  | addKeyword => "add"
  | removeKeyword => "remove"
  | equalsSign => "="
  | arrow => "=>"
  | colon => ":"
  | other name => name

/-- Declarations that own members. -/
def isType : Kind → Bool
  | classDeclaration | structDeclaration | recordDeclaration | recordStructDeclaration
  | interfaceDeclaration => true
  | _ => false

/-- Declarations whose bodies never hold member references or directives. -/
def isOpaque : Kind → Bool
  | enumDeclaration | delegateDeclaration => true
  | _ => false

/-- Namespace declarations, with a body or for the rest of the file. -/
def isNamespace : Kind → Bool
  | namespaceDeclaration | fileScopedNamespaceDeclaration => true
  | _ => false

/-- Lines of the preprocessor. -/
def isPreprocessor (kind : Kind) : Bool :=
  "preproc".toList.isPrefixOf kind.name.toList

end Kind

/-- The label under which a node finds one of its children. -/
inductive Field where
  | body
  | name
  | parameters
  | arguments
  | expression
  | function
  | left
  | condition
  | accessors
  | other (label : String)
deriving DecidableEq, Repr

namespace Field

/-- The field with a given label. -/
def ofLabel : String → Field
  | "body" => body
  | "name" => name
  | "parameters" => parameters
  | "arguments" => arguments
  | "expression" => expression
  | "function" => function
  | "left" => left
  | "condition" => condition
  | "accessors" => accessors
  | label => other label

end Field
end Syntax
end HouseStyle
