import HouseStyle.Member.Basic
import HouseStyle.Syntax.Site

/-!
# The table of members

A table remembers the members of the type declarations of one tree, so that a
walk reads each body once.  The members of all remembered types stand in one
list, and an index gives the range of each type.
-/

namespace HouseStyle

open Syntax

/-- The remembered members of some types of one tree. -/
structure MemberTable where
  /-- For the number of each remembered type, the first position of its members and the one
  after the last. -/
  ranges : List (Nat × Nat × Nat)
  /-- The members of all remembered types. -/
  members : List Member
deriving DecidableEq, Repr

namespace MemberTable

/-- The table that remembers nothing. -/
def empty : MemberTable where
  ranges := []
  members := []

/-- Forgets everything. -/
def reset (_ : MemberTable) : MemberTable :=
  empty

/-- The members in a range of positions. -/
def between (table : MemberTable) (first last : Nat) : List Member :=
  (table.members.take last).drop first

/-- Remembers the members of a type. -/
def remember (table : MemberTable) (type : Node) : MemberTable where
  ranges :=
    (type.number, table.members.length, table.members.length + (Member.ofType type).length) ::
      table.ranges
  members := table.members ++ Member.ofType type

/-- The members of a type, with the table that remembers them from now on. -/
def membersOf
    (table : MemberTable)
    (type : Node) : List Member × MemberTable :=
  match table.ranges.lookup type.number with
  | some range => (table.between range.1 range.2, table)
  | none => (Member.ofType type, table.remember type)

/-- The members of a type with a given name. -/
def findMember
    (table : MemberTable)
    (type : Node)
    (name : String) : List Member × MemberTable :=
  let found := table.membersOf type
  (Member.named name found.1, found.2)

/-- The member of a type that a name means under a usage. -/
def resolve
    (table : MemberTable)
    (type : Node)
    (name : String)
    (usage : Usage) : Option Member × MemberTable :=
  let found := table.membersOf type
  (Member.resolve? name usage found.1, found.2)

/-- The member that a name written at a site means: a member of the enclosing type. -/
def resolveReference
    (table : MemberTable)
    (site : Site)
    (name : String)
    (usage : Usage) : Option Member × MemberTable :=
  match site.enclosingType? with
  | none => (none, table)
  | some type => table.resolve type.node name usage

end MemberTable
end HouseStyle
