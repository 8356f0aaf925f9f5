import HouseStyle.Declaration

/-!
# Members of types

The members that a type declaration holds directly in its body, and which of
them a simple name can mean.
-/

namespace HouseStyle

open Syntax

/-- The sorts of members that conventions tell apart. -/
inductive MemberKind where
  | field
  | property
  | method
  | event
deriving DecidableEq, Repr

namespace MemberKind

/-- The name of a sort of member. -/
def name : MemberKind → String
  | field => "field"
  | property => "property"
  | method => "method"
  | event => "event"

/-- The sort of member that a declaration of some kind declares. -/
def ofDeclaration? : Kind → Option MemberKind
  | .fieldDeclaration => some field
  | .eventFieldDeclaration => some event
  | .propertyDeclaration => some property
  | .eventDeclaration => some event
  | .methodDeclaration => some method
  | _ => none

end MemberKind

/-- A member of a type. -/
structure Member where
  /-- Its name. -/
  name : String
  /-- What sort of member it is. -/
  kind : MemberKind
  /-- It is `static` or `const`. -/
  isStatic : Bool
  /-- The number of the node that declares it; declarators of one declaration share it. -/
  declaration : Nat
  /-- The offset of the first byte of its declaration. -/
  start : Nat
  /-- The offset after the last byte of its declaration. -/
  stop : Nat
  /-- The numbers of arguments that it accepts, for methods only. -/
  arity : Option Arity
deriving DecidableEq, Repr

/-- How a simple name is used at the place where it is written. -/
inductive Usage where
  /-- Read, written or passed along. -/
  | value
  /-- Called with a number of arguments. -/
  | invocation (count : Nat)
deriving DecidableEq, Repr

namespace Member

/-- A usage can mean the member. -/
def fits (member : Member) : Usage → Bool
  | .value => member.kind != .method
  | .invocation count => member.kind == .method && member.arity.any (·.accepts count)

/-- The member of a declaration with a given sort and name. -/
def ofNamed
    (declaration : Node)
    (kind : MemberKind)
    (name : String)
    (arity : Option Arity) : Member where
  name := name
  kind := kind
  isStatic := (Modifiers.of declaration).isStaticContext
  declaration := declaration.number
  start := declaration.start
  stop := declaration.stop
  arity := arity

/-- The members that a declaration of a given sort brings in. -/
def ofKind
    (declaration : Node)
    (kind : MemberKind) : List Member :=
  match declaration.kind with
  | .fieldDeclaration | .eventFieldDeclaration =>
      (Declarator.names declaration).map fun name => ofNamed declaration kind name none
  | _ =>
      match declaration.child? .name with
      | none => []
      | some name =>
          let arity :=
            if kind = .method then
              some (Arity.ofList (declaration.child? .parameters))
            else
              none
          [ofNamed declaration kind name.text arity]

/--
The members that a child of a type body brings in.  The implementation of an
interface member under the name of its interface brings in none.
-/
def ofDeclaration (declaration : Node) : List Member :=
  match MemberKind.ofDeclaration? declaration.kind with
  | none => []
  | some kind =>
      if declaration.hasChildOf .explicitInterfaceSpecifier then
        []
      else
        ofKind declaration kind

/-- The members that a type declaration holds directly in its body, in order. -/
def ofType (type : Node) : List Member :=
  match type.child? .body with
  | none => []
  | some body => body.namedChildren.flatMap ofDeclaration

/-- The members with a given name. -/
def named (name : String) (members : List Member) : List Member :=
  members.filter fun member => member.name == name

/-- The only element of a list with a single one. -/
def only? : List Member → Option Member
  | [member] => some member
  | _ => none

/-- The member that a name means under a usage, when it can mean just one. -/
def resolve?
    (name : String)
    (usage : Usage)
    (members : List Member) : Option Member :=
  only? ((named name members).filter fun member => member.fits usage)

end Member
end HouseStyle
