import HouseStyle.Glob.Matching

/-!
# Nesting of patterns

A set of patterns is compiled to expressions, and an expression whose parts
are nested too deeply is refused.  Sequences, choices, groups, repetitions and
classes each add a level; single bytes add none.
-/

namespace HouseStyle
namespace Glob

/-- The greatest depth that is accepted. -/
def depthLimit : Nat :=
  250

/-- The number of bytes and ranges of bytes that a range of characters stands for in a class. -/
def CharacterClass.rangeItems (range : Char × Char) : Nat :=
  if range.1 = range.2 then range.1.utf8Size else range.1.utf8Size + range.2.utf8Size - 1

/-- The number of bytes and ranges of bytes that a class lists. -/
def CharacterClass.itemCount (members : CharacterClass) : Nat :=
  members.ranges.foldr (fun range total => rangeItems range + total) 0

/-- The number of parts that a token adds to the sequence in which it stands. -/
def Token.partCount : Token → Nat
  | .literal character => character.utf8Size
  | .trailingFolders => 2
  | .alternatives branches => if allVacuous branches then 0 else 1
  | _ => 1

/-- Several parts in a row form a sequence, which is a level of its own. -/
def sequenceLevel (tokens : List Token) : Nat :=
  if 2 ≤ tokens.foldr (fun token total => token.partCount + total) 0 then 1 else 0

/-- Several branches form a choice, which is a level of its own; vacuous ones do not count. -/
def choiceLevel (branches : List (List Token)) : Nat :=
  if 2 ≤ branches.countP fun branch => !isVacuous branch then 1 else 0

mutual

/-- The depth of what a token stands for. -/
def Token.depth : Token → Nat
  | .literal _ => 0
  | .anyByte => 1
  | .anyRun => 2
  | .leadingFolders => 4
  | .trailingFolders => 1
  | .innerFolders => 4
  | .oneOf members => if 2 ≤ members.itemCount then 2 else 1
  | .alternatives branches =>
      if allVacuous branches then 0 else 1 + choiceLevel branches + deepestBranch branches

/-- The depth of the deepest of several tokens. -/
def deepest : List Token → Nat
  | [] => 0
  | token :: rest => max token.depth (deepest rest)

/-- The depth of the deepest of several branches. -/
def deepestBranch : List (List Token) → Nat
  | [] => 0
  | branch :: rest => max (sequenceLevel branch + deepest branch) (deepestBranch rest)

end

/-- The pattern is nested too deeply; it stands in a sequence with the ends of the text. -/
def isTooDeep (glob : Glob) : Bool :=
  depthLimit < 1 + deepest glob.tokens

end Glob
end HouseStyle
