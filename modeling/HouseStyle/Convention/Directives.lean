import HouseStyle.Classifier
import HouseStyle.Convention.Basic
import HouseStyle.Member.Table

/-!
# Place of using directives

Are using directives placed inside the namespace?  A directive inside a
namespace block, or after a namespace for the rest of the file, is evidence
for it and any other is evidence against it.  A `global` directive says nothing.
-/

namespace HouseStyle
namespace Directives

open Syntax

/-- Declarations and statements that no directive stands in. -/
def isPastDirectives (kind : Kind) : Bool :=
  kind.isType || kind.isOpaque || kind == .globalStatement

/-- The directive holds for the whole project. -/
def isGlobal (directive : Node) : Bool :=
  directive.hasChildOf .globalKeyword

/-- The directive stands inside a namespace, or after one for the rest of the file. -/
def isInside (directive : Site) : Bool :=
  (directive.ancestorWhere? Kind.isNamespace).isSome ||
    directive.earlierNamed.any fun sibling => sibling.kind == .fileScopedNamespaceDeclaration

/-- The evidence in a directive. -/
def observations (directive : Site) : List (Observation Detail) :=
  if isGlobal directive.node then []
  else if isInside directive then [.yes none]
  else [.no]

/-- What the rule does at a node. -/
def visit (site : Site) (table : MemberTable) : Visit Detail MemberTable :=
  if isPastDirectives site.kind then
    ⟨[], .skip, table⟩
  else if site.kind = .usingDirective then
    ⟨observations site, .skip, table⟩
  else
    ⟨[], .enter, table⟩

/-- The classifier of the place of using directives. -/
def classifier : Classifier Detail MemberTable where
  name := Convention.usingPlacement.name
  visit := fun _ site table => visit site table

end Directives
end HouseStyle
