import HouseStyle.Convention.BackingField
import HouseStyle.Convention.Directives
import HouseStyle.Convention.FieldNaming
import HouseStyle.Convention.MemberAccess

/-!
# The rule of each convention

Every convention has a classifier, and all of them share one kind of working
memory: the table of members.
-/

namespace HouseStyle

/-- Tables of members are reused between walks. -/
instance : Scratch MemberTable where
  fresh := MemberTable.empty
  reset := MemberTable.reset
  reset_eq_fresh := fun _ => rfl

namespace Convention

/-- The classifier that reads a convention off a tree. -/
def classifier : Convention → Classifier Detail MemberTable
  | underscoreFields => FieldNaming.classifier
  | qualifyFieldAccess => MemberAccess.classifier .field
  | qualifyPropertyAccess => MemberAccess.classifier .property
  | qualifyMethodAccess => MemberAccess.classifier .method
  | qualifyEventAccess => MemberAccess.classifier .event
  | backingFieldAdjacency => BackingField.classifier
  | usingPlacement => Directives.classifier

/-- The name by which a description mentions the rule of a convention. -/
def ruleName : Convention → String
  | underscoreFields => "UnderscoreFields"
  | qualifyFieldAccess => "QualifyMemberAccess \x7b kind: Field \x7d"
  | qualifyPropertyAccess => "QualifyMemberAccess \x7b kind: Property \x7d"
  | qualifyMethodAccess => "QualifyMemberAccess \x7b kind: Method \x7d"
  | qualifyEventAccess => "QualifyMemberAccess \x7b kind: Event \x7d"
  | backingFieldAdjacency => "BackingFieldAdjacency"
  | usingPlacement => "UsingPlacement"

end Convention
end HouseStyle
