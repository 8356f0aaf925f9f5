import HouseStyle.Proofs.Scope.Shadowing

/-!
# Searches for declared names

The variables of patterns and of query clauses are found by a search below the
node that is their scope.  The search moves freely in the tree and stays in its
scope only because it looks out for the place where it started.  Nevertheless it
finds exactly what is declared at and below that place, and what stands beside
or above the scope has no bearing on it.
-/

namespace HouseStyle
namespace Scope

open Syntax

/-- Something at or below a site of a tree has a property of its node exactly if the site itself
has it or some site of the tree with the site above it. -/
theorem exists_mem_subtree_iff
    {tree : Tree}
    {scope : Site}
    {holds : Node → Prop}
    (inside : scope ∈ tree.site.subtree) :
    (∃ node ∈ scope.node.subtree, holds node) ↔
      ∃ inner ∈ tree.site.subtree, (inner = scope ∨ scope ∈ inner.ancestors) ∧
        holds inner.node := by
  rw [← Site.map_node_subtree]
  constructor
  · rintro ⟨node, present, has⟩
    obtain ⟨inner, below, rfl⟩ := List.mem_map.mp present
    obtain ⟨innerInside, related⟩ := (Tree.mem_subtree_iff_mem_ancestors inside).mp below
    exact ⟨inner, innerInside, related, has⟩
  · rintro ⟨inner, innerInside, related, has⟩
    have below := (Tree.mem_subtree_iff_mem_ancestors inside).mpr ⟨innerInside, related⟩
    exact ⟨inner.node, List.mem_map_of_mem below, has⟩

/--
The searches for the names that a scope declares in patterns and in the clauses of
a query are exact: they succeed if and only if the scope itself, or a node of the
tree that has the scope above it, introduces a variable with the name.  Their cursor
comes to the scope and all that is below it, each node once, and then it is over;
the place where it turns back is that of the scope and of no other node.  Whatever
else stands in the tree could be replaced, or left out, without any difference.
-/
theorem searches_see_exactly_their_scope
    {tree : Tree}
    {scope : Site}
    (inside : scope ∈ tree.site.subtree)
    (name : String) :
    (patternsDeclare name scope = true ↔
        ∃ inner ∈ tree.site.subtree, (inner = scope ∨ scope ∈ inner.ancestors) ∧
          ∃ identifier, Designates inner.node identifier ∧ identifier.text = name) ∧
      (queryDeclares name scope = true ↔
        ∃ inner ∈ tree.site.subtree, (inner = scope ∨ scope ∈ inner.ancestors) ∧
          inner.kind ∈
              [.fromClause, .letClause, .joinClause, .joinIntoClause, .queryContinuation] ∧
            ∃ identifier, inner.node.child? .name = some identifier ∧ identifier.text = name) ∧
      Site.trail scope scope = scope.subtree ∧
      (∀ inner ∈ tree.site.subtree,
        inner.place = scope.place ↔ inner.number = scope.number) ∧
      ∀ other : Site, other.node = scope.node →
        patternsDeclare name other = patternsDeclare name scope ∧
          queryDeclares name other = queryDeclares name scope := by
  refine ⟨?_, ?_, Site.trail_self scope, ?_, ?_⟩
  · rw [patternsDeclare_iff]
    exact exists_mem_subtree_iff inside
  · rw [queryDeclares_iff]
    exact exists_mem_subtree_iff inside
  · intro inner innerInside
    exact Tree.place_eq_iff_number_eq innerInside inside
  · intro other same
    simp only [patternsDeclare, queryDeclares, Site.anyBelow_eq, same, and_self]

/-- The expression `x is int n`. -/
def sampleTest : Tree where
  source := "x is int n"
  root :=
    .rule 0 (.other "is_pattern_expression") none 0 10 "x is int n" [
      .rule 1 .identifier (some (.other "expression")) 0 1 "x" [],
      .token 2 (.other "is") none 2 4 "is",
      .rule 3 .declarationPattern (some (.other "pattern")) 5 10 "int n" [
        .rule 4 (.other "predefined_type") (some (.other "type")) 5 8 "int" [],
        .rule 5 .identifier (some .name) 9 10 "n" []]]
  distinct := by decide

/-- A search that starts at a node without children does not see the pattern beside it, while a
search that starts at the pattern finds its variable. -/
theorem searches_see_exactly_their_scope_sample :
    let sites := sampleTest.site.subtree
    let tested := sites.get ⟨1, by decide⟩
    let pattern := sites.get ⟨3, by decide⟩
    patternsDeclare "n" pattern = true ∧ patternsDeclare "n" tested = false ∧
      queryDeclares "n" pattern = false := by
  intro sites tested pattern
  obtain ⟨patterns, -⟩ :=
    searches_see_exactly_their_scope (List.get_mem sites ⟨3, by decide⟩) "n"
  obtain ⟨-, -, -, -, alone⟩ :=
    searches_see_exactly_their_scope (List.get_mem sites ⟨1, by decide⟩) "n"
  refine ⟨patterns.mpr ?_, ?_, ?_⟩
  · exact ⟨pattern, List.get_mem sites _, .inl rfl, pattern.node.children.get ⟨1, by decide⟩,
      ⟨by decide, by decide, .inl rfl, rfl⟩, rfl⟩
  · rw [← (alone (Site.root tested.node) rfl).1]
    decide +kernel
  · decide +kernel

end Scope
end HouseStyle
