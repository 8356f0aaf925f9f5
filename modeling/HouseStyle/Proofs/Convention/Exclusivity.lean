import HouseStyle.Proofs.Scope.PatternVariables

/-!
# One sort of member for each reference

Four walks look for access to fields, properties, methods and events, and each
is kept away from other parts of a tree.  What a walk records at a node is of
the sort of the one member that the node means: a call is a use of a method, all
other references are uses of a value, and a name that several values share means
none of them.  So no node counts for two sorts.
-/

namespace HouseStyle
namespace MemberAccess

open Syntax

/-- How a node that refers to something uses the name: a call asks for a number of arguments,
everything else for a value. -/
def usageAt (site : Site) : Usage :=
  if site.kind = .invocationExpression then
    .invocation (Reference.argumentCount site.node)
  else
    .value

/-- A node refers by a name to a member of the nearest enclosing type. -/
def MeansMember (site : Site) (member : Member) : Prop :=
  ∃ identifier, RefersTo site identifier ∧
    Member.meant? identifier identifier.text (usageAt site) = some member

/-- A node means one member at most. -/
theorem MeansMember.unique
    {site : Site}
    {one other : Member}
    (first : MeansMember site one)
    (second : MeansMember site other) :
    one = other := by
  obtain ⟨identifier, refers, meant⟩ := first
  obtain ⟨_, otherRefers, otherMeant⟩ := second
  obtain rfl := refers.unique otherRefers
  exact Option.some.inj (meant.symm.trans otherMeant)

theorem exists_meansMember_of_names
    {kind : MemberKind}
    {site identifier : Site}
    (refers : RefersTo site identifier)
    (names : namesInstanceMember kind (usageAt site) identifier = true) :
    ∃ member, MeansMember site member ∧ member.kind = kind := by
  simp only [namesInstanceMember, Bool.and_eq_true, Option.any_eq_true, beq_iff_eq] at names
  obtain ⟨⟨-, member, meant, sort, -⟩, -⟩ := names
  exact ⟨member, ⟨identifier, refers, meant⟩, sort⟩

theorem condition_of_ite_singleton_ne_nil
    {condition : Bool}
    {made : Observation Detail}
    (recorded : (if condition then [made] else []) ≠ []) :
    condition = true := by
  cases condition with
  | true => rfl
  | false => exact absurd rfl recorded

/-- What counts in a call is of the sort of the method that is called. -/
theorem meansMember_of_callEvidence
    {invocation : Site}
    (call : invocation.kind = .invocationExpression)
    (counts : callEvidence invocation ≠ []) :
    ∃ member, MeansMember invocation member ∧ member.kind = .method := by
  have usage : usageAt invocation = .invocation (Reference.argumentCount invocation.node) :=
    if_pos call
  unfold callEvidence at counts
  rw [← usage] at counts
  split at counts
  · exact absurd rfl counts
  · rename_i function callee
    split at counts
    · rename_i identifier qualified
      have name := Reference.afterThis?_eq_some_iff.mp qualified
      exact exists_meansMember_of_names (.call call callee (.inl name))
        (condition_of_ite_singleton_ne_nil counts)
    · split at counts
      · rename_i identifier bare
        exact exists_meansMember_of_names (.call call callee (.inr bare))
          (condition_of_ite_singleton_ne_nil counts)
      · exact absurd rfl counts

/-- What counts in any other use is of the sort of the value that is used. -/
theorem meansMember_of_valueEvidence
    {kind : MemberKind}
    {site : Site}
    (counts : valueEvidence kind site ≠ []) :
    ∃ member, MeansMember site member ∧ member.kind = kind := by
  have usage (noCall : site.kind ≠ .invocationExpression) : usageAt site = .value :=
    if_neg noCall
  unfold valueEvidence at counts
  split at counts
  · rename_i access
    rw [← usage (by simp [access])] at counts
    split at counts
    · rename_i identifier qualified
      have name := Reference.afterThis?_eq_some_iff.mp qualified
      exact exists_meansMember_of_names (.qualified name) (condition_of_ite_singleton_ne_nil counts)
    · exact absurd rfl counts
  · rename_i isName
    rw [← usage (by simp [isName])] at counts
    obtain ⟨-, names⟩ := Bool.and_eq_true_iff.mp (condition_of_ite_singleton_ne_nil counts)
    exact exists_meansMember_of_names (.bare isName) names
  · exact absurd rfl counts

theorem meansMember_of_evidence
    {kind : MemberKind}
    {site : Site}
    (counts : evidence kind site ≠ []) :
    ∃ member, MeansMember site member ∧ member.kind = kind := by
  unfold evidence at counts
  split at counts
  · exact absurd rfl counts
  · split at counts
    · split at counts
      · rename_i call
        exact meansMember_of_callEvidence call counts
      · exact absurd rfl counts
    · exact meansMember_of_valueEvidence counts

theorem evidence_ne_nil_of_recordedAt
    {tree : Tree}
    {site : Site}
    {kind : MemberKind}
    (inside : site ∈ tree.site.subtree)
    (recorded : (classifier kind).recordedAt tree site ≠ []) :
    evidence kind site ≠ [] := by
  have reads := readsLocally kind tree
  by_cases visited : site ∈ (classifier kind).reached tree
  · rwa [reads.recordedAt_of_mem_reached visited, classifier_evidence inside] at recorded
  · exact absurd (reads.recordedAt_of_not_mem_reached inside visited) recorded

/--
Of the walks for the four sorts of members, no two record at the same node.
What one of them records there is of the sort of the member that the node means,
and no node means two members.
-/
theorem no_two_sorts_record_at_one_node
    (tree : Tree)
    (site : Site)
    (inside : site ∈ tree.site.subtree) :
    (∀ one other : MemberKind,
      (classifier one).recordedAt tree site ≠ [] →
      (classifier other).recordedAt tree site ≠ [] → one = other) ∧
      ∀ kind : MemberKind, (classifier kind).recordedAt tree site ≠ [] →
        ∃ member, MeansMember site member ∧ member.kind = kind := by
  have means (kind : MemberKind) (recorded : (classifier kind).recordedAt tree site ≠ []) :
      ∃ member, MeansMember site member ∧ member.kind = kind :=
    meansMember_of_evidence (evidence_ne_nil_of_recordedAt inside recorded)
  refine ⟨fun one other oneRecorded otherRecorded => ?_, means⟩
  obtain ⟨member, meant, rfl⟩ := means one oneRecorded
  obtain ⟨otherMember, otherMeant, rfl⟩ := means other otherRecorded
  rw [meant.unique otherMeant]

/-- The tree of a class with a field and a method of one name, where the method is called with
the field. -/
def sharedNameTree : Tree where
  source := "class C \x7b int m; void m(int a) \x7b m(m); \x7d \x7d"
  root :=
    let members := "\x7b int m; void m(int a) \x7b m(m); \x7d \x7d"
    .rule 0 .compilationUnit none 0 42 ("class C " ++ members) [
      .rule 1 .classDeclaration none 0 42 ("class C " ++ members) [
        .token 2 (.other "class") none 0 5 "class",
        .rule 3 .identifier (some .name) 6 7 "C" [],
        .rule 4 .declarationList (some .body) 8 42 members [
          .token 5 (.other "\x7b") none 8 9 "\x7b",
          .rule 6 .fieldDeclaration none 10 16 "int m;" [
            .rule 7 .variableDeclaration none 10 15 "int m" [
              .rule 8 (.other "predefined_type") (some (.other "type")) 10 13 "int" [],
              .rule 9 .variableDeclarator none 14 15 "m" [
                .rule 10 .identifier (some .name) 14 15 "m" []]],
            .token 11 (.other ";") none 15 16 ";"],
          .rule 12 .methodDeclaration none 17 40 "void m(int a) \x7b m(m); \x7d" [
            .rule 13 (.other "predefined_type") (some (.other "returns")) 17 21 "void" [],
            .rule 14 .identifier (some .name) 22 23 "m" [],
            .rule 15 .parameterList (some .parameters) 23 30 "(int a)" [
              .token 16 (.other "(") none 23 24 "(",
              .rule 17 .parameter none 24 29 "int a" [
                .rule 18 (.other "predefined_type") (some (.other "type")) 24 27 "int" [],
                .rule 19 .identifier (some .name) 28 29 "a" []],
              .token 20 (.other ")") none 29 30 ")"],
            .rule 21 .block (some .body) 31 40 "\x7b m(m); \x7d" [
              .token 22 (.other "\x7b") none 31 32 "\x7b",
              .rule 23 (.other "expression_statement") none 33 38 "m(m);" [
                .rule 24 .invocationExpression none 33 37 "m(m)" [
                  .rule 25 .identifier (some .function) 33 34 "m" [],
                  .rule 26 (.other "argument_list") (some .arguments) 34 37 "(m)" [
                    .token 27 (.other "(") none 34 35 "(",
                    .rule 28 .argument none 35 36 "m" [
                      .rule 29 .identifier none 35 36 "m" []],
                    .token 30 (.other ")") none 36 37 ")"]],
                .token 31 (.other ";") none 37 38 ";"],
              .token 32 (.other "\x7d") none 39 40 "\x7d"]],
          .token 33 (.other "\x7d") none 41 42 "\x7d"]]]
  distinct := by decide

theorem no_two_sorts_record_at_one_node_sample :
    let call := sharedNameTree.site.subtree.get ⟨24, by decide⟩
    let argument := sharedNameTree.site.subtree.get ⟨29, by decide⟩
    ((classifier .method).recordedAt sharedNameTree call = [.no] ∧
        ∀ kind, kind ≠ .method → (classifier kind).recordedAt sharedNameTree call = []) ∧
      (classifier .field).recordedAt sharedNameTree argument = [.no] ∧
        ∀ kind, kind ≠ .field → (classifier kind).recordedAt sharedNameTree argument = [] := by
  intro call argument
  have calls : (classifier .method).recordedAt sharedNameTree call = [.no] := by
    decide +kernel
  have uses : (classifier .field).recordedAt sharedNameTree argument = [.no] := by
    decide +kernel
  obtain ⟨onlyCall, -⟩ := no_two_sorts_record_at_one_node sharedNameTree call (List.get_mem _ _)
  obtain ⟨onlyUse, -⟩ :=
    no_two_sorts_record_at_one_node sharedNameTree argument (List.get_mem _ _)
  refine ⟨⟨calls, fun kind other => ?_⟩, uses, fun kind other => ?_⟩
  · by_contra recorded
    exact other (onlyCall kind .method recorded (by simp [calls]))
  · by_contra recorded
    exact other (onlyUse kind .field recorded (by simp [uses]))

end MemberAccess
end HouseStyle
