import HouseStyle.Classifier
import HouseStyle.Convention.Basic
import HouseStyle.Member.Table
import HouseStyle.Reference
import HouseStyle.Scope

/-!
# Qualified member access

Is access to the instance members of a sort qualified with `this.`?  A
qualified access is evidence for it.  A bare name is evidence against it where
it can only mean such a member: as the target of an assignment, as a returned
value, as an argument or as the body of an arrow.  Methods count by their calls.
-/

namespace HouseStyle
namespace MemberAccess

open Syntax

/-- Declarations and functions that have no instance in scope when they are static. -/
def hasOwnScope : Kind → Bool
  | .methodDeclaration | .constructorDeclaration | .propertyDeclaration | .indexerDeclaration
  | .eventDeclaration | .localFunctionStatement | .lambdaExpression
  | .anonymousMethodExpression => true
  | _ => false

/--
Nothing below the node is evidence: it cannot hold a reference to a member of
the sort, or no instance is in scope.  A type is never left out for being
static, since a nested type can have instance members.
-/
def prunes (kind : MemberKind) (node : Node) : Bool :=
  match node.kind with
  | .enumDeclaration | .delegateDeclaration => true
  | .operatorDeclaration | .conversionOperatorDeclaration => true
  | .fieldDeclaration | .eventFieldDeclaration =>
      kind != .method || (Modifiers.of node).isStaticContext
  | other =>
      (kind == .event && other == .eventDeclaration) ||
        (hasOwnScope other && (Modifiers.of node).contains .static)

/-- The name at a site means an instance member of the sort that nothing local hides. -/
def meansInstanceMember
    (kind : MemberKind)
    (usage : Usage)
    (identifier : Site)
    (table : MemberTable) : Bool × MemberTable :=
  if identifier.text = "" then
    (false, table)
  else
    let found := table.resolveReference identifier identifier.text usage
    let resolved := found.1.any fun member => member.kind == kind && !member.isStatic
    (resolved && !Scope.isShadowed identifier.text identifier, found.2)

/-- The receiver of a conditional access. -/
def isReceiver (access node : Node) : Bool :=
  Reference.isChildUnder access .condition node ||
    access.namedChildren.head?.any fun first => first.number == node.number

/-- An argument is given by name, and the identifier is that name. -/
def namesArgument (argument : Node) (identifier : Site) : Bool :=
  Reference.isChildUnder argument .name identifier.node ||
    identifier.nextSibling?.any fun sibling => sibling.kind == .colon

/-- A bare name in this position can only mean a value. -/
def isBarePosition (kind : MemberKind) (identifier : Site) : Bool :=
  match identifier.parent? with
  | none => false
  | some parent =>
      match parent.kind with
      | .assignmentExpression =>
          Reference.isChildUnder parent.node .left identifier.node &&
            !(parent.parent?.any fun outer => outer.kind == .initializerExpression)
      | .returnStatement | .arrowExpressionClause => true
      | .argument => !namesArgument parent.node identifier
      | .invocationExpression =>
          kind == .event && Reference.isChildUnder parent.node .function identifier.node
      | .conditionalAccessExpression => kind == .event && isReceiver parent.node identifier.node
      | _ => false

/-- Records an observation if the name at a site means an instance member of the sort. -/
def observeName
    (kind : MemberKind)
    (usage : Usage)
    (observation : Observation Detail)
    (identifier : Site)
    (table : MemberTable) : List (Observation Detail) × MemberTable :=
  let found := meansInstanceMember kind usage identifier table
  (if found.1 then [observation] else [], found.2)

/-- The evidence in a call: a qualified call speaks for the convention, a bare one against it. -/
def observeCall
    (invocation : Site)
    (table : MemberTable) : List (Observation Detail) × MemberTable :=
  match invocation.child? .function with
  | none => ([], table)
  | some function =>
      let usage := Usage.invocation (Reference.argumentCount invocation.node)
      match Reference.afterThis? function with
      | some name => observeName .method usage (.yes none) name table
      | none =>
          match Reference.simpleName? function with
          | some name => observeName .method usage .no name table
          | none => ([], table)

/-- What the rule for methods does at a node that it does not leave out. -/
def visitCall (site : Site) (table : MemberTable) : Visit Detail MemberTable :=
  if site.kind = .invocationExpression then
    let found := observeCall site table
    ⟨found.1, .enter, found.2⟩
  else
    ⟨[], .enter, table⟩

/-- What the rule for the other sorts does at a node that it does not leave out. -/
def visitValue
    (kind : MemberKind)
    (site : Site)
    (table : MemberTable) : Visit Detail MemberTable :=
  match site.kind with
  | .memberAccessExpression =>
      match Reference.afterThis? site with
      | some name =>
          let found := observeName kind .value (.yes none) name table
          ⟨found.1, .skip, found.2⟩
      | none => ⟨[], .enter, table⟩
  | .identifier =>
      if isBarePosition kind site then
        let found := observeName kind .value .no site table
        ⟨found.1, .enter, found.2⟩
      else
        ⟨[], .enter, table⟩
  | _ => ⟨[], .enter, table⟩

/-- What the rule for a sort of members does at a node. -/
def visit
    (kind : MemberKind)
    (site : Site)
    (table : MemberTable) : Visit Detail MemberTable :=
  if prunes kind site.node then
    ⟨[], .skip, table⟩
  else
    match kind with
    | .method => visitCall site table
    | other => visitValue other site table

/-- The convention about the members of a sort. -/
def convention : MemberKind → Convention
  | .field => .qualifyFieldAccess
  | .property => .qualifyPropertyAccess
  | .method => .qualifyMethodAccess
  | .event => .qualifyEventAccess

/-- The classifier of access to the members of a sort. -/
def classifier (kind : MemberKind) : Classifier Detail MemberTable where
  name := (convention kind).name
  visit := fun _ site table => visit kind site table

end MemberAccess
end HouseStyle
