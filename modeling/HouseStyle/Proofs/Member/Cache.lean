import HouseStyle.Member.Table
import HouseStyle.Proofs.Syntax.Sites

/-!
# The member table as a cache

Started empty and used on one tree only, a table answers as if the members of
each type were read afresh.  The invariant bounds every remembered range by the
members that are there, so that members appended later leave it as it is; the
numbers of nodes are distinct, so that no type answers for another.
-/

namespace HouseStyle

open Syntax

namespace Member

/-- The member that a name written at a site means, read afresh from the enclosing type. -/
def meant?
    (site : Site)
    (name : String)
    (usage : Usage) : Option Member :=
  site.enclosingType?.bind fun type => resolve? name usage (ofType type.node)

end Member

namespace MemberTable

/-- What the table remembers of the nodes of a tree is true. -/
def IsCacheOf (tree : Tree) (table : MemberTable) : Prop :=
  ∀ type ∈ tree.root.subtree, ∀ range, table.ranges.lookup type.number = some range →
    range.2 ≤ table.members.length ∧ table.between range.1 range.2 = Member.ofType type

theorem isCacheOf_empty (tree : Tree) : IsCacheOf tree empty := by
  intro type _ range found
  cases found

theorem length_remember (table : MemberTable) (type : Node) :
    (table.remember type).members.length =
      table.members.length + (Member.ofType type).length :=
  List.length_append

/-- Members appended at the end leave a range within bounds as it is. -/
theorem between_remember
    {table : MemberTable}
    {first last : Nat}
    (type : Node)
    (bounded : last ≤ table.members.length) :
    (table.remember type).between first last = table.between first last := by
  rw [between, between, remember, List.take_append_of_le_length bounded]

/-- The range that is remembered for a type holds its members. -/
theorem between_remember_self (table : MemberTable) (type : Node) :
    (table.remember type).between table.members.length
        (table.members.length + (Member.ofType type).length) =
      Member.ofType type := by
  rw [between, remember, ← List.length_append, List.take_length, List.drop_left]

theorem IsCacheOf.remember
    {tree : Tree}
    {table : MemberTable}
    {type : Node}
    (cache : IsCacheOf tree table)
    (inside : type ∈ tree.root.subtree) :
    IsCacheOf tree (table.remember type) := by
  intro other otherInside range found
  by_cases same : other.number = type.number
  · obtain rfl := Tree.node_eq_of_number_eq otherInside inside same
    simp only [MemberTable.remember, List.lookup_cons_self, Option.some.injEq] at found
    subst found
    exact ⟨Nat.le_of_eq (length_remember table other).symm, between_remember_self table other⟩
  · have different : (other.number == type.number) = false := beq_false_of_ne same
    simp only [MemberTable.remember, List.lookup_cons, different] at found
    obtain ⟨bounded, remembered⟩ := cache other otherInside range found
    refine ⟨?_, (between_remember type bounded).trans remembered⟩
    rw [length_remember]
    omega

/-- A table that is a cache answers for the types of its tree, and stays a cache. -/
theorem IsCacheOf.membersOf
    {tree : Tree}
    {table : MemberTable}
    {type : Node}
    (cache : IsCacheOf tree table)
    (inside : type ∈ tree.root.subtree) :
    (table.membersOf type).1 = Member.ofType type ∧
      IsCacheOf tree (table.membersOf type).2 := by
  unfold MemberTable.membersOf
  cases found : table.ranges.lookup type.number with
  | none => exact ⟨rfl, cache.remember inside⟩
  | some range => exact ⟨(cache type inside range found).2, cache⟩

/-- A name resolves through a cache as it does without one. -/
theorem IsCacheOf.resolveReference
    {tree : Tree}
    {table : MemberTable}
    {site : Site}
    (cache : IsCacheOf tree table)
    (inside : site ∈ tree.site.subtree)
    (name : String)
    (usage : Usage) :
    (table.resolveReference site name usage).1 = Member.meant? site name usage ∧
      IsCacheOf tree (table.resolveReference site name usage).2 := by
  unfold MemberTable.resolveReference Member.meant?
  cases enclosing : site.enclosingType? with
  | none => exact ⟨rfl, cache⟩
  | some type =>
      have above : type ∈ site.ancestors := List.mem_of_find?_eq_some enclosing
      have typeInside := Tree.mem_subtree_of_mem_ancestors inside above
      obtain ⟨members, stillCache⟩ := cache.membersOf (Tree.node_mem_subtree typeInside)
      exact ⟨congrArg (Member.resolve? name usage) members, stillCache⟩

end MemberTable
end HouseStyle
