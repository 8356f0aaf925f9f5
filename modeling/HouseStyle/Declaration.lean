import HouseStyle.Modifier

/-!
# Parts of declarations

Declarators, parameters, arities and accessors: what the nodes of a
declaration state about the names it brings in.
-/

namespace HouseStyle

open Syntax

namespace Declarator

/-- The node that lists the declarators of a declaration, which may be the node itself. -/
def list? (declaration : Node) : Option Node :=
  if declaration.kind == .variableDeclaration then
    some declaration
  else
    declaration.namedChildren.find? fun child => child.kind == .variableDeclaration

/-- The declarators of a field, an event field or a local declaration. -/
def ofDeclaration (declaration : Node) : List Node :=
  match list? declaration with
  | none => []
  | some list => list.namedChildren.filter fun child => child.kind == .variableDeclarator

/-- The identifier that a declarator names: its `name`, or else its first identifier. -/
def name? (declarator : Node) : Option Node :=
  (declarator.child? .name).or
    (declarator.namedChildren.find? fun child => child.kind == .identifier)

/-- The names that a declaration brings in, by its declarators. -/
def names (declaration : Node) : List String :=
  (ofDeclaration declaration).filterMap fun declarator =>
    (name? declarator).map Node.text

end Declarator

/-- One entry of a parameter list. -/
structure Parameter where
  /-- The node that names the parameter. -/
  name? : Option Node
  /-- The parameter takes any number of arguments. -/
  isOpen : Bool
  /-- The parameter has a default value. -/
  isOptional : Bool

namespace Parameter

/-- A parameter node is marked with `params`. -/
def isMarkedOpen (node : Node) : Bool :=
  node.children.any fun child => child.kind == .paramsKeyword || child.text == "params"

/-- A parameter node gives a default value. -/
def hasDefault (node : Node) : Bool :=
  node.children.any fun child => child.kind == .equalsSign || child.kind == .equalsValueClause

/-- The last identifier among the named children. -/
def lastIdentifier? (node : Node) : Option Node :=
  (node.namedChildren.filter fun child => child.kind == .identifier).getLast?

/-- The parameter of a node of kind `parameter`. -/
def plain (node : Node) : Parameter where
  name? := node.child? .name
  isOpen := isMarkedOpen node
  isOptional := hasDefault node

/-- The parameter of a node of kind `parameter_array`. -/
def array (node : Node) : Parameter where
  name? := (node.child? .name).or (lastIdentifier? node)
  isOpen := true
  isOptional := false

/-- An open parameter whose parts stand directly in the list, named by an identifier. -/
def loose (identifier : Node) : Parameter where
  name? := some identifier
  isOpen := true
  isOptional := false

/--
The parameters among the children of a list.  `awaiting` tells that a bare
`params` token still waits for the identifier that names it.
-/
def collect (awaiting : Bool) : List Node → List Parameter
  | [] => []
  | child :: rest =>
      match child.kind with
      | .parameter => plain child :: collect awaiting rest
      | .parameterArray => array child :: collect awaiting rest
      | .paramsKeyword => collect true rest
      | .identifier =>
          if awaiting then loose child :: collect false rest else collect awaiting rest
      | _ => collect awaiting rest

/-- The parameters of a parameter list, in order. -/
def ofList (list : Node) : List Parameter :=
  collect false list.children

/-- The names of the parameters of a list. -/
def names (list : Node) : List String :=
  (ofList list).filterMap fun parameter => parameter.name?.map Node.text

end Parameter

/-- The numbers of arguments that a method accepts. -/
structure Arity where
  /-- The least number. -/
  least : Nat
  /-- The greatest number, if there is one. -/
  most : Option Nat
deriving DecidableEq, Repr

namespace Arity

/-- A number of arguments is accepted. -/
def accepts (arity : Arity) (count : Nat) : Bool :=
  arity.least ≤ count && arity.most.all fun most => count ≤ most

/-- The arity of a method with the given parameters. -/
def ofParameters (parameters : List Parameter) : Arity where
  least := parameters.countP fun parameter => !parameter.isOpen && !parameter.isOptional
  most :=
    if parameters.any Parameter.isOpen then
      none
    else
      some (parameters.countP fun parameter => !parameter.isOpen)

/-- The arity of a method with the given parameter list; without a list there are no parameters. -/
def ofList (list : Option Node) : Arity :=
  ofParameters (list.elim [] Parameter.ofList)

end Arity

/-- The keyword of an accessor. -/
inductive Accessor where
  | get
  | set
  | init
  | add
  | remove
deriving DecidableEq, Repr

namespace Accessor

/-- The keyword of an accessor as text. -/
def keyword : Accessor → String
  | get => "get"
  | set => "set"
  | init => "init"
  | add => "add"
  | remove => "remove"

/-- The accessor whose keyword is a token of a given kind. -/
def ofKind? : Kind → Option Accessor
  | .getKeyword => some get
  | .setKeyword => some set
  | .initKeyword => some init
  | .addKeyword => some add
  | .removeKeyword => some remove
  | _ => none

/-- The accessor brings an implicit parameter `value` into scope. -/
def bindsValue : Accessor → Bool
  | get => false
  | _ => true

/-- The keyword of an accessor declaration: its `name`, or else its first keyword child. -/
def ofDeclaration? (declaration : Node) : Option Accessor :=
  ((declaration.child? .name).bind fun name => ofKind? name.kind).or
    (declaration.children.findSome? fun child => ofKind? child.kind)

end Accessor
end HouseStyle
