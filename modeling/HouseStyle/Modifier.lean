import HouseStyle.Syntax.Node
import HouseStyle.Text.Blank

/-!
# Modifiers

The modifiers written on a declaration, such as `private` or `static`.
-/

namespace HouseStyle

open Syntax

/-- A modifier of a declaration, in the order in which modifiers are listed. -/
inductive Modifier where
  | publicAccess
  | privateAccess
  | protectedAccess
  | internalAccess
  | fileLocal
  | static
  | const
  | readonly
  | abstractMember
  | virtualMember
  | overrideMember
  | sealedMember
  | partialMember
  | async
  | externMember
  | newMember
  | required
  | unsafeCode
  | volatile
  | byReference
  | fixedSize
deriving DecidableEq, Repr

namespace Modifier

/-- All modifiers, in the order in which they are listed. -/
def all : List Modifier :=
  [publicAccess, privateAccess, protectedAccess, internalAccess, fileLocal, static, const,
   readonly, abstractMember, virtualMember, overrideMember, sealedMember, partialMember, async,
   externMember, newMember, required, unsafeCode, volatile, byReference, fixedSize]

/-- The keyword that states a modifier. -/
def keyword : Modifier → String
  | publicAccess => "public"
  | privateAccess => "private"
  | protectedAccess => "protected"
  | internalAccess => "internal"
  | fileLocal => "file"
  | static => "static"
  | const => "const"
  | readonly => "readonly"
  | abstractMember => "abstract"
  | virtualMember => "virtual"
  | overrideMember => "override"
  | sealedMember => "sealed"
  | partialMember => "partial"
  | async => "async"
  | externMember => "extern"
  | newMember => "new"
  | required => "required"
  | unsafeCode => "unsafe"
  | volatile => "volatile"
  | byReference => "ref"
  | fixedSize => "fixed"

/-- The modifier that a keyword states. -/
def ofKeyword? (keyword : String) : Option Modifier :=
  all.find? (·.keyword == keyword)

/-- The name under which a modifier is listed: its keyword in capitals. -/
def name (modifier : Modifier) : String :=
  modifier.keyword.toUpper

/-- The bit of a modifier in a set of modifiers that is shown as a number. -/
def bit (modifier : Modifier) : Nat :=
  1 <<< all.idxOf modifier

/--
The modifier that a child of a declaration states.  Lambdas and anonymous
methods carry `static` as a bare token.
-/
def ofChild? (child : Node) : Option Modifier :=
  if child.kind == .modifier then
    ofKeyword? (String.ofList (Text.trim child.text.toList))
  else if !child.isNamed && child.kind == .staticKeyword then
    some static
  else
    none

end Modifier

/-- The modifiers of a declaration. -/
abbrev Modifiers := List Modifier

namespace Modifiers

/-- The modifiers written directly on a declaration. -/
def of (declaration : Node) : Modifiers :=
  declaration.children.filterMap Modifier.ofChild?

/-- The modifiers of a set, each once and in the order of listing. -/
def listed (modifiers : Modifiers) : Modifiers :=
  Modifier.all.filter fun modifier => modifiers.contains modifier

/-- Nothing can be qualified with an instance where the declaration is `static` or `const`. -/
def isStaticContext (modifiers : Modifiers) : Bool :=
  modifiers.contains .static || modifiers.contains .const

end Modifiers
end HouseStyle
