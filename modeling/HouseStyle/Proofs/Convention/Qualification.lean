import HouseStyle.Proofs.Convention.Locality
import HouseStyle.Proofs.Declaration.Modifiers
import HouseStyle.Proofs.Member.Denotation

/-!
# What counts as evidence for qualified access

The rule for a sort of members records at a node exactly if the node names an
instance member of that sort beyond doubt, in one of the forms that count, and
no walk is kept away from it.  The references are described here on their own:
one entry among the members of the nearest enclosing type has the name and fits
the use, and nothing local hides it.
-/

namespace HouseStyle
namespace MemberAccess

open Syntax

/-- A member of a type has a declaration on which neither `static` nor `const` is written. -/
def IsInstanceMember (type : Site) (member : Member) : Prop :=
  ∃ declaration, Member.HoldsDirectly type declaration ∧ Member.IsEntryOf declaration.node member ∧
    ¬ Modifier.IsWrittenOn "static" declaration.node ∧
    ¬ Modifier.IsWrittenOn "const" declaration.node

/-- A call names a method: of the methods with that name in the nearest enclosing type, only
one accepts the number of arguments, it is not static, and nothing local hides the name. -/
def CallsInstanceMethod (invocation identifier : Site) : Prop :=
  identifier.text ≠ "" ∧ Scope.isShadowed identifier.text identifier = false ∧
    ∃ type method, invocation.enclosingType? = some type ∧ IsInstanceMember type method ∧
      Member.IsOnly (Member.ofType type.node)
        (fun member => member.name = identifier.text ∧ member.kind = .method ∧
          ∃ arity, member.arity = some arity ∧
            arity.accepts (Reference.argumentCount invocation.node) = true)
        method

/-- A node names a member of a sort: it is the only member of the nearest enclosing type with
that name that is no method, it is not static, and nothing local hides the name. -/
def UsesInstanceMember
    (kind : MemberKind)
    (site identifier : Site) : Prop :=
  identifier.text ≠ "" ∧ Scope.isShadowed identifier.text identifier = false ∧
    ∃ type member, site.enclosingType? = some type ∧
      member.kind = kind ∧ IsInstanceMember type member ∧
      Member.IsOnly (Member.ofType type.node)
        (fun other => other.name = identifier.text ∧ other.kind ≠ .method)
        member

/-- The references that count, each with the observation that it stands for. -/
inductive IsEvidence : MemberKind → Site → Observation Detail → Prop
  /-- A call `this.x(…)` of a method. -/
  | qualifiedCall
      {invocation function identifier : Site}
      (call : invocation.kind = .invocationExpression)
      (callee : invocation.child? .function = some function)
      (qualified : Reference.IsThisAccess function identifier)
      (means : CallsInstanceMethod invocation identifier) :
      IsEvidence .method invocation (.yes none)
  /-- A call `x(…)` of a method. -/
  | bareCall
      {invocation function identifier : Site}
      (call : invocation.kind = .invocationExpression)
      (callee : invocation.child? .function = some function)
      (bare : Reference.simpleName? function = some identifier)
      (means : CallsInstanceMethod invocation identifier) :
      IsEvidence .method invocation .no
  /-- An access `this.x` to a member that is no method. -/
  | qualifiedUse
      {kind : MemberKind}
      {access identifier : Site}
      (noMethod : kind ≠ .method)
      (qualified : Reference.IsThisAccess access identifier)
      (means : UsesInstanceMember kind access identifier) :
      IsEvidence kind access (.yes none)
  /-- A bare name `x` in a position that counts. -/
  | bareUse
      {kind : MemberKind}
      {identifier : Site}
      (noMethod : kind ≠ .method)
      (bare : identifier.kind = .identifier)
      (position : isBarePosition kind identifier = true)
      (means : UsesInstanceMember kind identifier identifier) :
      IsEvidence kind identifier .no

/-- Inside such a declaration there is no instance to qualify a member of the sort with. -/
def HasNoInstance (kind : MemberKind) (node : Node) : Prop :=
  node.kind ∈ [.enumDeclaration, .delegateDeclaration,
      .operatorDeclaration, .conversionOperatorDeclaration] ∨
    node.kind ∈ [.methodDeclaration, .constructorDeclaration, .propertyDeclaration,
        .indexerDeclaration, .eventDeclaration, .localFunctionStatement, .lambdaExpression,
        .anonymousMethodExpression] ∧
      Modifier.IsWrittenOn "static" node ∨
    node.kind ∈ [.fieldDeclaration, .eventFieldDeclaration] ∧
      (kind ≠ .method ∨ Modifier.IsWrittenOn "static" node ∨ Modifier.IsWrittenOn "const" node) ∨
    node.kind = .eventDeclaration ∧ kind = .event

/-- A walk for a sort of members does not go below a node. -/
def IsPruned (kind : MemberKind) (site : Site) : Prop :=
  HasNoInstance kind site.node ∨
    kind ≠ .method ∧ ∃ identifier, Reference.IsThisAccess site identifier

/-- The rule stays out of exactly the declarations without an instance. -/
theorem prunes_iff
    {kind : MemberKind}
    {node : Node} :
    prunes kind node = true ↔ HasNoInstance kind node := by
  have isStatic : Modifier.IsWrittenOn "static" node ↔
      (Modifiers.of node).contains .static = true :=
    (@Modifiers.contains_of_iff node .static).symm
  unfold prunes HasNoInstance
  rw [← Modifiers.isStaticContext_of_iff, isStatic]
  generalize Modifiers.of node = modifiers
  cases node.kind <;> simp [hasOwnScope, Or.comm]

/-! ## The enclosing type of a name -/

/-- Only types bound the search for an enclosing type, so a step below any other node keeps it. -/
theorem enclosingType?_of_mem_children
    {site child : Site}
    (below : child ∈ site.children)
    (noType : site.kind.isType = false) :
    child.enclosingType? = site.enclosingType? := by
  rw [Site.enclosingType?, Site.ancestorWhere?, Site.ancestors_of_mem_children below,
    List.find?_cons, noType]
  rfl

theorem enclosingType?_of_simpleName?
    {site name : Site}
    (found : Reference.simpleName? site = some name) :
    name.enclosingType? = site.enclosingType? := by
  unfold Reference.simpleName? at found
  split at found
  · cases found
    rfl
  · rename_i generic
    exact enclosingType?_of_mem_children
      (Site.mem_children_of_mem_namedChildren (List.mem_of_find?_eq_some found))
      (by rw [generic]; rfl)
  · cases found

/-- In `this.x` the name is in the same type as the access. -/
theorem enclosingType?_of_isThisAccess
    {access identifier : Site}
    (qualified : Reference.IsThisAccess access identifier) :
    identifier.enclosingType? = access.enclosingType? := by
  obtain ⟨isAccess, -, name, -, -, nameFound, found⟩ := qualified
  rw [enclosingType?_of_simpleName? found]
  exact enclosingType?_of_mem_children (Site.mem_children_of_child? nameFound)
    (by rw [isAccess]; rfl)

/-! ## Names of instance members -/

/-- Whether a member is static is told by what is written on its declaration. -/
theorem isStatic_eq_false_iff
    {type : Site}
    {member : Member}
    (present : member ∈ Member.ofType type.node) :
    member.isStatic = false ↔ IsInstanceMember type member := by
  have read {declaration : Site} (entry : Member.IsEntryOf declaration.node member) :
      member.isStatic = true ↔ Modifier.IsWrittenOn "static" declaration.node ∨
        Modifier.IsWrittenOn "const" declaration.node := by
    rw [entry.reads]
    exact Modifiers.isStaticContext_of_iff
  rw [← Bool.not_eq_true]
  constructor
  · intro notStatic
    obtain ⟨declaration, holds, entry⟩ := Member.mem_ofType_iff.mp present
    rw [read entry, not_or] at notStatic
    exact ⟨declaration, holds, entry, notStatic⟩
  · rintro ⟨declaration, -, entry, unmarked⟩
    rw [read entry, not_or]
    exact unmarked

/-- A name means an instance member of a sort exactly if one entry alone has the name and fits
the use, and that entry is an instance member of the sort. -/
theorem namesInstanceMember_iff
    {kind : MemberKind}
    {usage : Usage}
    {identifier : Site} :
    namesInstanceMember kind usage identifier = true ↔
      identifier.text ≠ "" ∧ Scope.isShadowed identifier.text identifier = false ∧
        ∃ type member, identifier.enclosingType? = some type ∧
          member.kind = kind ∧ IsInstanceMember type member ∧
          Member.IsOnly (Member.ofType type.node)
            (fun other => other.name = identifier.text ∧ other.fits usage = true) member := by
  simp only [namesInstanceMember, Member.meant?, Bool.and_eq_true, bne_iff_ne,
    Option.any_eq_true, Option.bind_eq_some_iff, Member.resolve?_eq_some_iff, beq_iff_eq,
    Bool.not_eq_true', ne_eq]
  constructor
  · rintro ⟨⟨nonempty, member, ⟨type, enclosing, only⟩, sort, notStatic⟩, visible⟩
    have instanceMember := (isStatic_eq_false_iff only.mem).mp notStatic
    exact ⟨nonempty, visible, type, member, enclosing, sort, instanceMember, only⟩
  · rintro ⟨nonempty, visible, type, member, enclosing, sort, instanceMember, only⟩
    have notStatic := (isStatic_eq_false_iff only.mem).mpr instanceMember
    exact ⟨⟨nonempty, member, ⟨type, enclosing, only⟩, sort, notStatic⟩, visible⟩

/-- In a call the methods compete that have the name and accept the number of arguments. -/
theorem namesInstanceMember_invocation_iff
    {invocation identifier : Site}
    (sameType : identifier.enclosingType? = invocation.enclosingType?) :
    namesInstanceMember .method
        (.invocation (Reference.argumentCount invocation.node)) identifier = true ↔
      CallsInstanceMethod invocation identifier := by
  rw [namesInstanceMember_iff, CallsInstanceMethod, sameType]
  simp only [Member.fits_invocation_iff]
  refine and_congr_right fun _ => and_congr_right fun _ => ?_
  constructor
  · rintro ⟨type, method, enclosing, -, instanceMethod, only⟩
    exact ⟨type, method, enclosing, instanceMethod, only⟩
  · rintro ⟨type, method, enclosing, instanceMethod, only⟩
    obtain ⟨-, -, -, ⟨-, sort, -⟩, -⟩ := id only
    exact ⟨type, method, enclosing, sort, instanceMethod, only⟩

/-- In any other use the members compete that have the name and are no methods. -/
theorem namesInstanceMember_value_iff
    {kind : MemberKind}
    {site identifier : Site}
    (sameType : identifier.enclosingType? = site.enclosingType?) :
    namesInstanceMember kind .value identifier = true ↔
      UsesInstanceMember kind site identifier := by
  rw [namesInstanceMember_iff, UsesInstanceMember, sameType]
  simp only [Member.fits_value_iff]

/-! ## The evidence at one node -/

theorem ite_singleton_eq_singleton_iff
    {condition : Bool}
    {made observation : Observation Detail} :
    (if condition then [made] else []) = [observation] ↔
      condition = true ∧ made = observation := by
  cases condition <;> simp

theorem length_ite_singleton_le
    (condition : Bool)
    (made : Observation Detail) :
    (if condition then [made] else []).length ≤ 1 := by
  cases condition <;> simp

theorem afterThis?_of_simpleName?
    {site name : Site}
    (bare : Reference.simpleName? site = some name) :
    Reference.afterThis? site = none := by
  apply Reference.afterThis?_eq_none
  intro access
  rw [Reference.simpleName?, access] at bare
  cases bare

/-- A call leaves an observation exactly if it is one of the two forms of calls that count. -/
theorem callEvidence_eq_singleton_iff
    {invocation : Site}
    {observation : Observation Detail}
    (call : invocation.kind = .invocationExpression) :
    callEvidence invocation = [observation] ↔ IsEvidence .method invocation observation := by
  -- The callee and its parts stand below no further type.
  have calleeType {function : Site} (callee : invocation.child? .function = some function) :
      function.enclosingType? = invocation.enclosingType? :=
    enclosingType?_of_mem_children (Site.mem_children_of_child? callee) (by rw [call]; rfl)
  constructor
  · intro recorded
    unfold callEvidence at recorded
    split at recorded
    · cases recorded
    · rename_i function callee
      split at recorded
      · rename_i identifier found
        obtain ⟨means, rfl⟩ := ite_singleton_eq_singleton_iff.mp recorded
        have qualified := Reference.afterThis?_eq_some_iff.mp found
        have sameType := (enclosingType?_of_isThisAccess qualified).trans (calleeType callee)
        exact .qualifiedCall call callee qualified
          ((namesInstanceMember_invocation_iff sameType).mp means)
      · split at recorded
        · rename_i identifier bare
          obtain ⟨means, rfl⟩ := ite_singleton_eq_singleton_iff.mp recorded
          have sameType := (enclosingType?_of_simpleName? bare).trans (calleeType callee)
          exact .bareCall call callee bare
            ((namesInstanceMember_invocation_iff sameType).mp means)
        · cases recorded
  · intro evidence
    cases evidence with
    | qualifiedCall _ callee qualified means =>
        have sameType := (enclosingType?_of_isThisAccess qualified).trans (calleeType callee)
        simp only [callEvidence, callee, Reference.afterThis?_eq_some_iff.mpr qualified]
        rw [if_pos ((namesInstanceMember_invocation_iff sameType).mpr means)]
    | bareCall _ callee bare means =>
        have sameType := (enclosingType?_of_simpleName? bare).trans (calleeType callee)
        simp only [callEvidence, callee, afterThis?_of_simpleName? bare, bare]
        rw [if_pos ((namesInstanceMember_invocation_iff sameType).mpr means)]
    | qualifiedUse noMethod => exact absurd rfl noMethod
    | bareUse noMethod => exact absurd rfl noMethod

/-- A node leaves an observation for a member that is no method exactly if it is one of the two
forms of uses that count. -/
theorem valueEvidence_eq_singleton_iff
    {kind : MemberKind}
    {site : Site}
    {observation : Observation Detail}
    (noMethod : kind ≠ .method) :
    valueEvidence kind site = [observation] ↔ IsEvidence kind site observation := by
  constructor
  · intro recorded
    unfold valueEvidence at recorded
    split at recorded
    · split at recorded
      · rename_i identifier found
        obtain ⟨means, rfl⟩ := ite_singleton_eq_singleton_iff.mp recorded
        have qualified := Reference.afterThis?_eq_some_iff.mp found
        have sameType := enclosingType?_of_isThisAccess qualified
        exact .qualifiedUse noMethod qualified ((namesInstanceMember_value_iff sameType).mp means)
      · cases recorded
    · rename_i bare
      obtain ⟨counts, rfl⟩ := ite_singleton_eq_singleton_iff.mp recorded
      obtain ⟨position, means⟩ := Bool.and_eq_true_iff.mp counts
      exact .bareUse noMethod bare position ((namesInstanceMember_value_iff rfl).mp means)
    · cases recorded
  · intro evidence
    cases evidence with
    | qualifiedCall => exact absurd rfl noMethod
    | bareCall => exact absurd rfl noMethod
    | qualifiedUse _ qualified means =>
        have sameType := enclosingType?_of_isThisAccess qualified
        simp only [valueEvidence, qualified.1, Reference.afterThis?_eq_some_iff.mpr qualified]
        rw [if_pos ((namesInstanceMember_value_iff sameType).mpr means)]
    | bareUse _ bare position means =>
        simp only [valueEvidence, bare, position, Bool.true_and]
        rw [if_pos ((namesInstanceMember_value_iff rfl).mpr means)]

/-- Methods count only where they are called. -/
theorem kind_of_isEvidence_method
    {site : Site}
    {observation : Observation Detail}
    (evidence : IsEvidence .method site observation) :
    site.kind = .invocationExpression := by
  cases evidence with
  | qualifiedCall call => exact call
  | bareCall call => exact call
  | qualifiedUse noMethod => exact absurd rfl noMethod
  | bareUse noMethod => exact absurd rfl noMethod

/-- A node leaves an observation exactly if it is a reference that counts and is itself no
declaration without an instance. -/
theorem evidence_eq_singleton_iff
    {kind : MemberKind}
    {site : Site}
    {observation : Observation Detail} :
    evidence kind site = [observation] ↔
      ¬ HasNoInstance kind site.node ∧ IsEvidence kind site observation := by
  rw [← prunes_iff]
  unfold evidence
  cases prunes kind site.node with
  | true => simp
  | false =>
      cases kind with
      | method =>
          by_cases call : site.kind = .invocationExpression
          · simp [call, callEvidence_eq_singleton_iff call]
          · simp [call, mt kind_of_isEvidence_method call]
      | field => simp [valueEvidence_eq_singleton_iff]
      | property => simp [valueEvidence_eq_singleton_iff]
      | event => simp [valueEvidence_eq_singleton_iff]

theorem length_callEvidence_le (invocation : Site) :
    (callEvidence invocation).length ≤ 1 := by
  unfold callEvidence
  split
  · exact Nat.zero_le 1
  · split
    · exact length_ite_singleton_le _ _
    · split
      · exact length_ite_singleton_le _ _
      · exact Nat.zero_le 1

theorem length_valueEvidence_le (kind : MemberKind) (site : Site) :
    (valueEvidence kind site).length ≤ 1 := by
  unfold valueEvidence
  split
  · split
    · exact length_ite_singleton_le _ _
    · exact Nat.zero_le 1
  · exact length_ite_singleton_le _ _
  · exact Nat.zero_le 1

/-- No node counts twice. -/
theorem length_evidence_le (kind : MemberKind) (site : Site) :
    (evidence kind site).length ≤ 1 := by
  unfold evidence
  split
  · exact Nat.zero_le 1
  · split
    · split
      · exact length_callEvidence_le site
      · exact Nat.zero_le 1
    · exact length_valueEvidence_le _ site

/-- The rule does not go below exactly the nodes that are pruned. -/
theorem descent_eq_skip_iff
    {kind : MemberKind}
    {site : Site} :
    descent kind site = .skip ↔ IsPruned kind site := by
  have valueSkips : valueDescent site = .skip ↔
      ∃ identifier, Reference.IsThisAccess site identifier := by
    simp only [valueDescent, ← Reference.afterThis?_eq_some_iff, ← Option.isSome_iff_exists]
    cases (Reference.afterThis? site).isSome <;> simp
  rw [IsPruned, ← prunes_iff]
  unfold descent
  cases prunes kind site.node with
  | true => simp
  | false => cases kind <;> simp [valueSkips]

/-! ## The evidence that a walk records -/

/-- The evidence of the classifier starts from an empty table, which is a cache of every tree. -/
theorem classifier_evidence
    {tree : Tree}
    {site : Site}
    (inside : site ∈ tree.site.subtree)
    (kind : MemberKind) :
    (classifier kind).evidence tree.source site = evidence kind site :=
  (visit_of_isCacheOf (MemberTable.isCacheOf_empty tree) inside kind).1

theorem classifier_descent
    {tree : Tree}
    {site : Site}
    (inside : site ∈ tree.site.subtree)
    (kind : MemberKind) :
    (classifier kind).descent tree.source site = descent kind site :=
  (visit_of_isCacheOf (MemberTable.isCacheOf_empty tree) inside kind).2.1

/-- A walk comes to a named node exactly if no named node above it is pruned. -/
theorem mem_reached_iff
    {tree : Tree}
    {site : Site}
    {kind : MemberKind}
    (inside : site ∈ tree.site.subtree)
    (named : site.node.isNamed = true) :
    site ∈ (classifier kind).reached tree ↔
      ∀ outer ∈ site.ancestors, outer.node.isNamed = true → ¬ IsPruned kind outer := by
  rw [Classifier.ReadsLocally.mem_reached_iff inside, and_iff_right named]
  refine forall₃_congr fun outer above _ => ?_
  rw [classifier_descent (Tree.mem_subtree_of_mem_ancestors inside above), ← descent_eq_skip_iff]

/--
A walk for a sort of members records at a named node exactly if it is kept away
neither from the node nor from a named node above it and the node is a reference
that counts, and then it records the one observation that the reference stands
for.  So nothing counts inside a declaration without an instance.
-/
theorem records_exactly_unambiguous_references
    (kind : MemberKind)
    (tree : Tree)
    (site : Site)
    (inside : site ∈ tree.site.subtree)
    (named : site.node.isNamed = true) :
    (∀ observation, (classifier kind).recordedAt tree site = [observation] ↔
      (∀ outer ∈ site.ancestors, outer.node.isNamed = true → ¬ IsPruned kind outer) ∧
        ¬ HasNoInstance kind site.node ∧ IsEvidence kind site observation) ∧
      ((classifier kind).recordedAt tree site).length ≤ 1 ∧
      ((classifier kind).recordedAt tree site ≠ [] →
        ∀ outer ∈ site.ancestors, outer.node.isNamed = true →
          ¬ HasNoInstance kind outer.node) := by
  have reads := readsLocally kind tree
  rw [← mem_reached_iff inside named]
  by_cases visited : site ∈ (classifier kind).reached tree
  · rw [reads.recordedAt_of_mem_reached visited, classifier_evidence inside]
    refine ⟨fun observation => ?_, length_evidence_le kind site, fun _ outer above outerNamed => ?_⟩
    · rw [evidence_eq_singleton_iff, and_iff_right visited]
    · have entered := (mem_reached_iff inside named).mp visited outer above outerNamed
      exact fun pruned => entered (.inl pruned)
  · rw [reads.recordedAt_of_not_mem_reached inside visited]
    exact ⟨fun observation => by simp [visited], Nat.zero_le 1, fun recorded => absurd rfl recorded⟩

/-- The tree of a class with a field and a static field, both of which are assigned. -/
def sharedFieldTree : Tree where
  source := "class C \x7b int m; static int s; void T() \x7b m = 1; s = 1; \x7d \x7d"
  root :=
    let body := "\x7b m = 1; s = 1; \x7d"
    let members := "\x7b int m; static int s; void T() " ++ body ++ " \x7d"
    .rule 0 .classDeclaration none 0 59 ("class C " ++ members) [
      .token 1 (.other "class") none 0 5 "class",
      .rule 2 .identifier (some .name) 6 7 "C" [],
      .rule 3 .declarationList (some .body) 8 59 members [
        .rule 4 .fieldDeclaration none 10 16 "int m;" [
          .rule 5 .variableDeclaration none 10 15 "int m" [
            .rule 6 .variableDeclarator none 14 15 "m" [
              .rule 7 .identifier (some .name) 14 15 "m" []]]],
        .rule 8 .fieldDeclaration none 17 30 "static int s;" [
          .rule 9 .modifier none 17 23 "static" [],
          .rule 10 .variableDeclaration none 24 29 "int s" [
            .rule 11 .variableDeclarator none 28 29 "s" [
              .rule 12 .identifier (some .name) 28 29 "s" []]]],
        .rule 13 .methodDeclaration none 31 57 ("void T() " ++ body) [
          .rule 14 .identifier (some .name) 36 37 "T" [],
          .rule 15 .parameterList (some .parameters) 37 39 "()" [],
          .rule 16 .block (some .body) 40 57 body [
            .rule 17 .assignmentExpression none 42 47 "m = 1" [
              .rule 18 .identifier (some .left) 42 43 "m" []],
            .rule 19 .assignmentExpression none 49 54 "s = 1" [
              .rule 20 .identifier (some .left) 49 50 "s" []]]]]]
  distinct := by decide

/-- The bare name of the field counts, and that of the static field does not. -/
theorem records_exactly_unambiguous_references_sample :
    let sites := sharedFieldTree.site.subtree
    let field := sites.get ⟨18, by decide⟩
    let shared := sites.get ⟨20, by decide⟩
    Modifier.IsWrittenOn "static" (sites.get ⟨8, by decide⟩).node ∧
      field.text = "m" ∧ (classifier .field).recordedAt sharedFieldTree field = [.no] ∧
      IsEvidence .field field .no ∧
      shared.text = "s" ∧ (classifier .field).recordedAt sharedFieldTree shared = [] ∧
      ∀ observation, ¬ IsEvidence .field shared observation := by
  intro sites field shared
  have exactly := (records_exactly_unambiguous_references .field sharedFieldTree field
    (List.get_mem _ _) (by decide)).1 .no
  have recorded : (classifier .field).recordedAt sharedFieldTree field = [.no] := by
    decide +kernel
  have unrecorded : (classifier .field).recordedAt sharedFieldTree shared = [] := by
    decide +kernel
  refine ⟨?_, by decide, recorded, (exactly.mp recorded).2.2, by decide, unrecorded, ?_⟩
  · rw [← show Modifier.static.keyword = "static" from rfl, ← Modifiers.contains_of_iff]
    decide +kernel
  · intro observation evidence
    have entered : ∀ outer ∈ shared.ancestors, outer.node.isNamed = true →
        ¬ IsPruned .field outer := by
      simp only [← descent_eq_skip_iff]
      decide +kernel
    have inScope : ¬ HasNoInstance .field shared.node := by
      rw [← prunes_iff]
      decide +kernel
    have counts := ((records_exactly_unambiguous_references .field sharedFieldTree shared
      (List.get_mem _ _) (by decide)).1 observation).mpr ⟨entered, inScope, evidence⟩
    rw [unrecorded] at counts
    cases counts

end MemberAccess
end HouseStyle
