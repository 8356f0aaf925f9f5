import HouseStyle.Failure
import HouseStyle.Text.Blank
import HouseStyle.Text.Case
import HouseStyle.Verdict

/-!
# The catalogue of conventions

The conventions that can be inferred, their names, and the configuration keys
and values that state them outright.
-/

namespace HouseStyle

/-- A convention that can be inferred. -/
inductive Convention where
  | underscoreFields
  | qualifyFieldAccess
  | qualifyPropertyAccess
  | qualifyMethodAccess
  | qualifyEventAccess
  | backingFieldAdjacency
  | usingPlacement
deriving DecidableEq, Repr

/--
What positive evidence adds to its verdict: for adjacent backing fields whether
a blank line stands between field and property, and nothing for the others.
-/
abbrev Detail := Option Bool

namespace Convention

/-- All conventions, in the order in which they are listed. -/
def all : List Convention :=
  [underscoreFields, qualifyFieldAccess, qualifyPropertyAccess, qualifyMethodAccess,
   qualifyEventAccess, backingFieldAdjacency, usingPlacement]

/-- The stable name of a convention. -/
def name : Convention → String
  | underscoreFields => "underscore-fields"
  | qualifyFieldAccess => "qualify-field-access"
  | qualifyPropertyAccess => "qualify-property-access"
  | qualifyMethodAccess => "qualify-method-access"
  | qualifyEventAccess => "qualify-event-access"
  | backingFieldAdjacency => "backing-field-adjacency"
  | usingPlacement => "using-placement"

/-- The convention with a given name. -/
def ofName? (name : String) : Option Convention :=
  all.find? (·.name == name)

/-- The convention with a given name, or the failure that says that there is none. -/
def named (name : String) : Except Failure Convention :=
  match ofName? name with
  | some convention => .ok convention
  | none => .error (.invalidArgument ("unknown convention '" ++ name ++ "'"))

/-- The configuration key that states a convention outright. -/
def optionKey : Convention → String
  | underscoreFields => "tugstyle_private_field_underscore_prefix"
  | qualifyFieldAccess => "dotnet_style_qualification_for_field"
  | qualifyPropertyAccess => "dotnet_style_qualification_for_property"
  | qualifyMethodAccess => "dotnet_style_qualification_for_method"
  | qualifyEventAccess => "dotnet_style_qualification_for_event"
  | backingFieldAdjacency => "tugstyle_backing_field_adjacent"
  | usingPlacement => "csharp_using_directive_placement"

/-- The configuration key for the blank line between a backing field and its property. -/
def blankLineKey : String :=
  "tugstyle_backing_field_blank_line"

/-- What a convention says, in one sentence. -/
def description : Convention → String
  | underscoreFields => "Private instance fields are prefixed with '_'"
  | qualifyFieldAccess => "Instance field access is qualified with 'this.'"
  | qualifyPropertyAccess => "Instance property access is qualified with 'this.'"
  | qualifyMethodAccess => "Instance method calls are qualified with 'this.'"
  | qualifyEventAccess => "Instance event access is qualified with 'this.'"
  | backingFieldAdjacency => "A property's backing field is declared immediately before it"
  | usingPlacement => "Using directives are placed inside the namespace"

/-- A configured value without blanks around it and in small letters. -/
def plainValue (raw : String) : String :=
  String.ofList (Text.lower (Text.trim raw.toList))

/-- Reads a configured truth value. -/
def readBool? (raw : String) : Option Bool :=
  if plainValue raw = "true" then some true
  else if plainValue raw = "false" then some false
  else none

/-- Reads a configured placement of using directives: inside the namespace or not. -/
def readPlacement? (raw : String) : Option Bool :=
  if plainValue raw = "inside_namespace" then some true
  else if plainValue raw = "outside_namespace" then some false
  else none

/-- Reads a configured value of a convention; a value that is not recognized states nothing. -/
def readOption? (convention : Convention) (raw : String) : Option Verdict :=
  let stated :=
    match convention with
    | usingPlacement => readPlacement? raw
    | _ => readBool? raw
  stated.map fun follows => if follows then .yes else .no

end Convention
end HouseStyle
