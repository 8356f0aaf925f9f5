import HouseStyle.Classifier
import HouseStyle.Convention.Basic
import HouseStyle.Member.Table

/-!
# Names of private fields

Do private instance fields start with an underscore?  Every declarator of a
field that is not public, constant or static is evidence.
-/

namespace HouseStyle
namespace FieldNaming

open Syntax

/-- Members whose bodies cannot declare fields. -/
def isMemberBody : Kind → Bool
  | .constructorDeclaration | .destructorDeclaration | .propertyDeclaration
  | .indexerDeclaration | .methodDeclaration | .operatorDeclaration
  | .conversionOperatorDeclaration | .eventDeclaration | .eventFieldDeclaration => true
  | _ => false

/-- A field declaration that the convention is not about. -/
def isExempt (declaration : Node) : Bool :=
  let modifiers := Modifiers.of declaration
  modifiers.contains .publicAccess || modifiers.contains .const || modifiers.contains .static

/-- A name starts with an underscore. -/
def hasUnderscore (name : String) : Bool :=
  name.toList.head? == some '_'

/-- The evidence in the name of a field. -/
def observe (name : String) : Observation Detail :=
  if hasUnderscore name then .yes none else .no

/-- The evidence in a field declaration, declarator by declarator. -/
def observations (declaration : Node) : List (Observation Detail) :=
  if isExempt declaration then
    []
  else
    (Declarator.names declaration).map observe

/-- What the rule does at a node. -/
def visit (node : Node) (table : MemberTable) : Visit Detail MemberTable :=
  if isMemberBody node.kind || node.kind.isOpaque then
    ⟨[], .skip, table⟩
  else if node.kind = .fieldDeclaration then
    ⟨observations node, .skip, table⟩
  else
    ⟨[], .enter, table⟩

/-- The classifier of field names. -/
def classifier : Classifier Detail MemberTable where
  name := Convention.underscoreFields.name
  visit := fun _ site table => visit site.node table

end FieldNaming
end HouseStyle
