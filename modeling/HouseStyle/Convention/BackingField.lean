import HouseStyle.Classifier
import HouseStyle.Convention.Basic
import HouseStyle.Member.Table
import HouseStyle.Reference
import HouseStyle.Scope
import HouseStyle.Text.Blank
import HouseStyle.Text.Split

/-!
# Place of backing fields

Is the backing field of a property declared right before the property?  A
property whose getter does nothing but return a field is evidence; the detail
of positive evidence tells whether a blank line stands between the two.
-/

namespace HouseStyle
namespace BackingField

open Syntax

/-- Members that hold no properties. -/
def isSkipped : Kind → Bool
  | .fieldDeclaration | .eventFieldDeclaration | .eventDeclaration | .methodDeclaration
  | .constructorDeclaration | .destructorDeclaration | .indexerDeclaration
  | .operatorDeclaration | .conversionOperatorDeclaration => true
  | kind => kind.isOpaque

/-- The first named child. -/
def firstNamed? (site : Site) : Option Site :=
  site.namedChildren.head?

/-- The first named child of a kind. -/
def firstOf? (kind : Kind) (site : Site) : Option Site :=
  site.namedChildren.find? fun child => child.kind == kind

/-- The identifier of an expression `x` or `this.x`. -/
def fieldName? (expression : Site) : Option Site :=
  match expression.kind with
  | .identifier => some expression
  | .memberAccessExpression => Reference.afterThis? expression
  | _ => none

/-- The list of accessors of a property. -/
def accessors? (property : Site) : Option Site :=
  (property.child? .accessors).or (firstOf? .accessorList property)

/-- The getter of a property, from its list of accessors. -/
def getter? (accessors : Site) : Option Site :=
  accessors.namedChildren.find? fun accessor =>
    accessor.kind == .accessorDeclaration && Accessor.ofDeclaration? accessor.node == some .get

/-- The body of a getter, a block or an arrow. -/
def body? (getter : Site) : Option Site :=
  (getter.child? .body).or
    (getter.namedChildren.find? fun child =>
      child.kind == .block || child.kind == .arrowExpressionClause)

/-- The expression that a body returns, when that is all it does. -/
def returned? (body : Site) : Option Site :=
  match body.kind with
  | .arrowExpressionClause => firstNamed? body
  | .block =>
      match body.namedChildren with
      | [statement] =>
          if statement.kind = .returnStatement then firstNamed? statement else none
      | _ => none
  | _ => none

/--
The expression that the getter of a property returns, when that is all it
does.  An arrow of the property itself comes before its accessors.
-/
def getterExpression? (property : Site) : Option Site :=
  match firstOf? .arrowExpressionClause property with
  | some arrow => firstNamed? arrow
  | none => (((accessors? property).bind getter?).bind body?).bind returned?

/-- The identifier that the getter of a property returns. -/
def returnedName? (property : Site) : Option Site :=
  (getterExpression? property).bind fieldName?

/-- The lines of a gap other than its first and its last. -/
def innerLines (gap : List Char) : List (List Char) :=
  (Text.pieces '\n' gap).tail.dropLast

/-- Some line strictly between two offsets of a text is blank. -/
def blankLineBetween
    (source : String)
    (stop start : Nat) : Bool :=
  match Text.slice? source.toList stop start with
  | none => false
  | some gap => (innerLines gap).any Text.allBlank

/-- The evidence in a property whose getter returns a field. -/
def observeField
    (source : String)
    (property : Site)
    (field : Member) : Observation Detail :=
  if (Reference.previousMember? property).any fun sibling => sibling.number == field.declaration then
    .yes (some (blankLineBetween source field.stop property.node.start))
  else
    .no

/-- The evidence in a property. -/
def observe
    (source : String)
    (property : Site)
    (table : MemberTable) : List (Observation Detail) × MemberTable :=
  match returnedName? property with
  | none => ([], table)
  | some name =>
      if name.text = "" || Scope.isShadowed name.text name then
        ([], table)
      else
        let found := table.resolveReference name name.text .value
        match found.1 with
        | none => ([], found.2)
        | some member =>
            if member.kind = .field then
              ([observeField source property member], found.2)
            else
              ([], found.2)

/-- What the rule does at a node. -/
def visit
    (source : String)
    (site : Site)
    (table : MemberTable) : Visit Detail MemberTable :=
  if isSkipped site.kind then
    ⟨[], .skip, table⟩
  else if site.kind = .propertyDeclaration then
    let found := observe source site table
    ⟨found.1, .skip, found.2⟩
  else
    ⟨[], .enter, table⟩

/-- The classifier of the place of backing fields. -/
def classifier : Classifier Detail MemberTable where
  name := Convention.backingFieldAdjacency.name
  visit := visit

end BackingField
end HouseStyle
