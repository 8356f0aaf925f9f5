import HouseStyle.Syntax.Site

/-!
# Shapes of references

The forms in which a member is named: a simple name such as `x` or `x<T>`, or
a simple name after `this.`.
-/

namespace HouseStyle
namespace Reference

open Syntax

/-- The expression `this`. -/
def isThis (node : Node) : Bool :=
  node.kind == .thisKeyword || node.kind == .thisExpression

/-- The identifier of a simple name. -/
def simpleName? (site : Site) : Option Site :=
  match site.kind with
  | .identifier => some site
  | .genericName => site.namedChildren.find? fun child => child.kind == .identifier
  | _ => none

/-- The identifier after `this.`. -/
def afterThis? (site : Site) : Option Site :=
  match site.kind with
  | .memberAccessExpression =>
      match site.child? .expression with
      | none => none
      | some receiver =>
          if isThis receiver.node then (site.child? .name).bind simpleName? else none
  | _ => none

/-- The number of arguments of an invocation. -/
def argumentCount (invocation : Node) : Nat :=
  match invocation.child? .arguments with
  | none => 0
  | some arguments => arguments.namedChildren.countP fun child => child.kind == .argument

/-- A node is the child that a parent finds under a label. -/
def isChildUnder
    (parent : Node)
    (field : Field)
    (node : Node) : Bool :=
  (parent.child? field).any fun child => child.number == node.number

/-- The nearest sibling before a node that is neither a token, a comment nor a preprocessor line. -/
def previousMember? (site : Site) : Option Node :=
  site.earlierNamed.find? fun sibling =>
    sibling.kind != .comment && !sibling.kind.isPreprocessor

end Reference
end HouseStyle
