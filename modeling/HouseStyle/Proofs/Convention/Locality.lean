import HouseStyle.Convention.Rule
import HouseStyle.Pool.Basic
import HouseStyle.Proofs.Classifier.Locality
import HouseStyle.Proofs.Member.Cache

/-!
# Every convention reads locally

The rules of all conventions share one kind of working memory, the table of
members, and consult it only to resolve names that stand in the tree.  As long
as the table is a cache of that tree, no rule can tell it from an empty one.
-/

namespace HouseStyle

open Syntax

namespace Reference

/-- The name of a plain or generic name stands at that node or right below it. -/
theorem mem_subtree_of_simpleName?
    {site name : Site}
    (found : simpleName? site = some name) :
    name ∈ site.subtree := by
  unfold simpleName? at found
  split at found
  · cases found
    exact site.self_mem_subtree
  · exact Site.mem_subtree_of_child
      (Site.mem_children_of_mem_namedChildren (List.mem_of_find?_eq_some found))
  · cases found

/-- The node is an access `this.x` to a simple name. -/
def IsThisAccess (access identifier : Site) : Prop :=
  access.kind = .memberAccessExpression ∧
    ∃ receiver name, access.child? .expression = some receiver ∧
      (receiver.kind = .thisKeyword ∨ receiver.kind = .thisExpression) ∧
      access.child? .name = some name ∧ simpleName? name = some identifier

/-- The search behind `this.` finds exactly the names that are accessed on `this`. -/
theorem afterThis?_eq_some_iff {access identifier : Site} :
    afterThis? access = some identifier ↔ IsThisAccess access identifier := by
  unfold afterThis? IsThisAccess
  split
  · rename_i isAccess
    cases access.child? .expression with
    | none => simp
    | some receiver =>
        by_cases isReceiver : receiver.kind = .thisKeyword ∨ receiver.kind = .thisExpression
        · have this : isThis receiver.node = true := by
            simpa [isThis, Site.kind] using isReceiver
          simp [isAccess, isReceiver, this, Option.bind_eq_some_iff]
        · have other : isThis receiver.node = false := by
            simpa [isThis, Site.kind] using isReceiver
          simp [isReceiver, other]
  · rename_i other
    constructor
    · intro found
      cases found
    · intro found
      exact absurd found.1 other

/-- The name in `this.x` stands below the access, so it is a site of the same tree. -/
theorem mem_subtree_of_afterThis?
    {site name : Site}
    (found : afterThis? site = some name) :
    name ∈ site.subtree := by
  obtain ⟨-, -, child, -, -, childFound, nameFound⟩ := afterThis?_eq_some_iff.mp found
  have below := Site.mem_subtree_of_child (Site.mem_children_of_child? childFound)
  exact Site.mem_subtree_trans below (mem_subtree_of_simpleName? nameFound)

theorem afterThis?_eq_none
    {site : Site}
    (other : site.kind ≠ .memberAccessExpression) :
    afterThis? site = none := by
  rw [Option.eq_none_iff_forall_ne_some]
  intro name found
  exact other (afterThis?_eq_some_iff.mp found).1

end Reference

variable
  {tree : Tree}
  {table : MemberTable}

namespace MemberAccess

/-- The name at a site means an instance member of the sort that nothing local hides, where
the members of the enclosing type are read afresh. -/
def namesInstanceMember
    (kind : MemberKind)
    (usage : Usage)
    (identifier : Site) : Bool :=
  identifier.text != "" &&
    ((Member.meant? identifier identifier.text usage).any fun member =>
      member.kind == kind && !member.isStatic) &&
    !Scope.isShadowed identifier.text identifier

/-- A table that caches the tree answers as a fresh reading of the members does, and stays a
cache of the tree. -/
theorem meansInstanceMember_of_isCacheOf
    {identifier : Site}
    (cache : table.IsCacheOf tree)
    (inside : identifier ∈ tree.site.subtree)
    (kind : MemberKind)
    (usage : Usage) :
    (meansInstanceMember kind usage identifier table).1 =
        namesInstanceMember kind usage identifier ∧
      (meansInstanceMember kind usage identifier table).2.IsCacheOf tree := by
  obtain ⟨resolved, stillCache⟩ := cache.resolveReference inside identifier.text usage
  unfold meansInstanceMember namesInstanceMember
  by_cases empty : identifier.text = ""
  · rw [if_pos empty, empty]
    exact ⟨rfl, cache⟩
  · rw [if_neg empty, bne_iff_ne.mpr empty, ← resolved]
    exact ⟨by simp, stillCache⟩

/-- With a cache of the tree, a name is observed exactly if it means an instance member. -/
theorem observeName_of_isCacheOf
    {identifier : Site}
    (cache : table.IsCacheOf tree)
    (inside : identifier ∈ tree.site.subtree)
    (kind : MemberKind)
    (usage : Usage)
    (observation : Observation Detail) :
    (observeName kind usage observation identifier table).1 =
        (if namesInstanceMember kind usage identifier then [observation] else []) ∧
      (observeName kind usage observation identifier table).2.IsCacheOf tree := by
  obtain ⟨means, stillCache⟩ := meansInstanceMember_of_isCacheOf cache inside kind usage
  rw [observeName, means]
  exact ⟨rfl, stillCache⟩

/-- The evidence in a call, read without a table. -/
def callEvidence (invocation : Site) : List (Observation Detail) :=
  let usage := Usage.invocation (Reference.argumentCount invocation.node)
  match invocation.child? .function with
  | none => []
  | some function =>
      match Reference.afterThis? function with
      | some name => if namesInstanceMember .method usage name then [.yes none] else []
      | none =>
          match Reference.simpleName? function with
          | some name => if namesInstanceMember .method usage name then [.no] else []
          | none => []

/-- With a cache of the tree, a call leaves the evidence that it leaves without a table. -/
theorem observeCall_of_isCacheOf
    {invocation : Site}
    (cache : table.IsCacheOf tree)
    (inside : invocation ∈ tree.site.subtree) :
    (observeCall invocation table).1 = callEvidence invocation ∧
      (observeCall invocation table).2.IsCacheOf tree := by
  cases functionFound : invocation.child? .function with
  | none =>
      simp only [observeCall, callEvidence, functionFound]
      exact ⟨trivial, cache⟩
  | some function =>
      have functionInside := Site.mem_subtree_of_mem_children inside
        (Site.mem_children_of_child? functionFound)
      cases qualified : Reference.afterThis? function with
      | some name =>
          simp only [observeCall, callEvidence, functionFound, qualified]
          exact observeName_of_isCacheOf cache
            (Site.mem_subtree_trans functionInside (Reference.mem_subtree_of_afterThis? qualified))
            _ _ _
      | none =>
          cases bare : Reference.simpleName? function with
          | some name =>
              simp only [observeCall, callEvidence, functionFound, qualified, bare]
              exact observeName_of_isCacheOf cache
                (Site.mem_subtree_trans functionInside (Reference.mem_subtree_of_simpleName? bare))
                _ _ _
          | none =>
              simp only [observeCall, callEvidence, functionFound, qualified, bare]
              exact ⟨trivial, cache⟩

/-- The evidence in any other use of a member, read without a table. -/
def valueEvidence (kind : MemberKind) (site : Site) : List (Observation Detail) :=
  match site.kind with
  | .memberAccessExpression =>
      match Reference.afterThis? site with
      | some name => if namesInstanceMember kind .value name then [.yes none] else []
      | none => []
  | .identifier =>
      if isBarePosition kind site && namesInstanceMember kind .value site then [.no] else []
  | _ => []

/-- Below `this.x` there is nothing more to see. -/
def valueDescent (site : Site) : Descent :=
  if (Reference.afterThis? site).isSome then .skip else .enter

/-- With a cache of the tree, a visit for a member that is no method records and decides what it
does without a table. -/
theorem visitValue_of_isCacheOf
    {site : Site}
    (cache : table.IsCacheOf tree)
    (inside : site ∈ tree.site.subtree)
    (kind : MemberKind) :
    (visitValue kind site table).observations = valueEvidence kind site ∧
      (visitValue kind site table).descent = valueDescent site ∧
      (visitValue kind site table).scratch.IsCacheOf tree := by
  by_cases access : site.kind = .memberAccessExpression
  · cases qualified : Reference.afterThis? site with
    | none =>
        simp only [visitValue, valueEvidence, valueDescent, access, qualified]
        exact ⟨trivial, rfl, cache⟩
    | some name =>
        have nameInside := Site.mem_subtree_trans inside
          (Reference.mem_subtree_of_afterThis? qualified)
        obtain ⟨observed, stillCache⟩ :=
          observeName_of_isCacheOf cache nameInside kind .value (.yes none)
        simp only [visitValue, valueEvidence, valueDescent, access, qualified]
        exact ⟨observed, rfl, stillCache⟩
  · have unqualified := Reference.afterThis?_eq_none access
    by_cases bare : site.kind = .identifier
    · obtain ⟨observed, stillCache⟩ := observeName_of_isCacheOf cache inside kind .value .no
      simp only [visitValue, valueEvidence, valueDescent, bare, unqualified]
      cases isBarePosition kind site with
      | false => exact ⟨rfl, rfl, cache⟩
      | true => exact ⟨observed, rfl, stillCache⟩
    · have noEvidence : valueEvidence kind site = [] := by
        unfold valueEvidence
        split <;> first | contradiction | rfl
      have entered : visitValue kind site table = ⟨[], .enter, table⟩ := by
        unfold visitValue
        split <;> first | contradiction | rfl
      rw [noEvidence, entered, valueDescent, unqualified]
      exact ⟨rfl, rfl, cache⟩

/-- The evidence at a node, read without a table. -/
def evidence (kind : MemberKind) (site : Site) : List (Observation Detail) :=
  if prunes kind site.node then
    []
  else
    match kind with
    | .method => if site.kind = .invocationExpression then callEvidence site else []
    | other => valueEvidence other site

/-- Whether a walk goes on below a node. -/
def descent (kind : MemberKind) (site : Site) : Descent :=
  if prunes kind site.node then
    .skip
  else
    match kind with
    | .method => .enter
    | _ => valueDescent site

/-- With a cache of the tree, a visit of the rule for member access records and decides what it
does without a table. -/
theorem visit_of_isCacheOf
    {site : Site}
    (cache : table.IsCacheOf tree)
    (inside : site ∈ tree.site.subtree)
    (kind : MemberKind) :
    (visit kind site table).observations = evidence kind site ∧
      (visit kind site table).descent = descent kind site ∧
      (visit kind site table).scratch.IsCacheOf tree := by
  unfold visit evidence descent
  cases prunes kind site.node with
  | true => exact ⟨rfl, rfl, cache⟩
  | false =>
      cases kind with
      | method =>
          by_cases call : site.kind = .invocationExpression
          · obtain ⟨observed, stillCache⟩ := observeCall_of_isCacheOf cache inside
            simp only [visitCall, call, if_true]
            exact ⟨observed, rfl, stillCache⟩
          · simp only [visitCall, call, if_false]
            exact ⟨rfl, rfl, cache⟩
      | field => exact visitValue_of_isCacheOf cache inside .field
      | property => exact visitValue_of_isCacheOf cache inside .property
      | event => exact visitValue_of_isCacheOf cache inside .event

/-- What the visits preserve is that the table is a cache of the tree. -/
theorem readsLocally (kind : MemberKind) (tree : Tree) :
    (classifier kind).ReadsLocally tree (MemberTable.IsCacheOf tree) :=
  .of_reading (evidence kind) (descent kind) (MemberTable.isCacheOf_empty tree)
    fun _ inside _ cache => visit_of_isCacheOf cache inside kind

end MemberAccess

namespace BackingField

/-- A step from a site leads to a site at or below it. -/
def StaysBelow (step : Site → Option Site) : Prop :=
  ∀ site next, step site = some next → next ∈ site.subtree

/-- Two steps in a row stay below the site if each of them does. -/
theorem StaysBelow.bind
    {first second : Site → Option Site}
    (firstBelow : StaysBelow first)
    (secondBelow : StaysBelow second) :
    StaysBelow fun site => (first site).bind second := by
  intro site next found
  obtain ⟨middle, middleFound, nextFound⟩ := Option.bind_eq_some_iff.mp found
  exact Site.mem_subtree_trans (firstBelow site middle middleFound)
    (secondBelow middle next nextFound)

theorem StaysBelow.or
    {first second : Site → Option Site}
    (firstBelow : StaysBelow first)
    (secondBelow : StaysBelow second) :
    StaysBelow fun site => (first site).or (second site) := by
  intro site next found
  rcases Option.or_eq_some_iff.mp found with firstFound | ⟨-, secondFound⟩
  · exact firstBelow site next firstFound
  · exact secondBelow site next secondFound

theorem staysBelow_child? (field : Field) : StaysBelow (Site.child? field) := by
  intro site next found
  exact Site.mem_subtree_of_child (Site.mem_children_of_child? found)

theorem staysBelow_find? (wanted : Site → Bool) :
    StaysBelow fun site => site.namedChildren.find? wanted := by
  intro site next found
  exact Site.mem_subtree_of_child
    (Site.mem_children_of_mem_namedChildren (List.mem_of_find?_eq_some found))

theorem staysBelow_firstNamed? : StaysBelow firstNamed? := by
  intro site next found
  exact Site.mem_subtree_of_child
    (Site.mem_children_of_mem_namedChildren (List.mem_of_mem_head? found))

theorem staysBelow_fieldName? : StaysBelow fieldName? := by
  intro site next found
  unfold fieldName? at found
  split at found
  · cases found
    exact site.self_mem_subtree
  · exact Reference.mem_subtree_of_afterThis? found
  · cases found

/-- The returned expression of a body stands below the body, in an arrow clause as in a block
with a single `return`. -/
theorem staysBelow_returned? : StaysBelow returned? := by
  intro body next found
  unfold returned? at found
  split at found
  · exact staysBelow_firstNamed? body next found
  · split at found
    · rename_i statement only
      have below : statement ∈ body.namedChildren := by
        rw [only]
        exact List.mem_cons_self
      split at found
      · exact Site.mem_subtree_trans
          (Site.mem_subtree_of_child (Site.mem_children_of_mem_namedChildren below))
          (staysBelow_firstNamed? statement next found)
      · cases found
    · cases found
  · cases found

/-- What a getter returns stands below its property, in each of the forms of a getter. -/
theorem staysBelow_getterExpression? : StaysBelow getterExpression? := by
  have accessors : StaysBelow accessors? :=
    (staysBelow_child? .accessors).or (staysBelow_find? _)
  have body : StaysBelow body? :=
    (staysBelow_child? .body).or (staysBelow_find? _)
  have getter : StaysBelow getter? := staysBelow_find? _
  intro property next found
  unfold getterExpression? at found
  split at found
  · rename_i arrow arrowFound
    exact Site.mem_subtree_trans (staysBelow_find? _ property arrow arrowFound)
      (staysBelow_firstNamed? arrow next found)
  · exact ((accessors.bind getter).bind body).bind staysBelow_returned? property next found

/-- The name that a property returns is a site of the tree that the property is in. -/
theorem staysBelow_returnedName? : StaysBelow returnedName? :=
  staysBelow_getterExpression?.bind staysBelow_fieldName?

/-- The evidence in a property, read without a table. -/
def evidence (source : String) (property : Site) : List (Observation Detail) :=
  match returnedName? property with
  | none => []
  | some name =>
      if name.text = "" || Scope.isShadowed name.text name then
        []
      else
        match Member.meant? name name.text .value with
        | none => []
        | some member =>
            if member.kind = .field then [observeField source property member] else []

/-- With a cache of the tree, a property leaves the evidence that it leaves without a table. -/
theorem observe_of_isCacheOf
    {property : Site}
    (cache : table.IsCacheOf tree)
    (inside : property ∈ tree.site.subtree)
    (source : String) :
    (observe source property table).1 = evidence source property ∧
      (observe source property table).2.IsCacheOf tree := by
  cases returned : returnedName? property with
  | none =>
      simp only [observe, evidence, returned]
      exact ⟨trivial, cache⟩
  | some name =>
      have nameInside := Site.mem_subtree_trans inside
        (staysBelow_returnedName? property name returned)
      simp only [observe, evidence, returned]
      split
      · exact ⟨rfl, cache⟩
      · obtain ⟨resolved, stillCache⟩ :=
          cache.resolveReference nameInside name.text .value
        rw [resolved]
        cases Member.meant? name name.text .value with
        | none => exact ⟨rfl, stillCache⟩
        | some member =>
            by_cases field : member.kind = .field
            · simp only [field, if_true]
              exact ⟨trivial, stillCache⟩
            · simp only [field, if_false]
              exact ⟨trivial, stillCache⟩

/-- With a cache of the tree, a visit of the rule for backing fields records and decides what it
does without a table. -/
theorem visit_of_isCacheOf
    {site : Site}
    (cache : table.IsCacheOf tree)
    (inside : site ∈ tree.site.subtree)
    (source : String) :
    (visit source site table).observations =
        (if isSkipped site.kind then []
          else if site.kind = .propertyDeclaration then evidence source site else []) ∧
      (visit source site table).descent =
        (if isSkipped site.kind || site.kind = .propertyDeclaration then .skip else .enter) ∧
      (visit source site table).scratch.IsCacheOf tree := by
  unfold visit
  cases isSkipped site.kind with
  | true => exact ⟨rfl, rfl, cache⟩
  | false =>
      by_cases isProperty : site.kind = .propertyDeclaration
      · obtain ⟨observed, stillCache⟩ := observe_of_isCacheOf cache inside source
        simp only [isProperty, if_true]
        exact ⟨observed, rfl, stillCache⟩
      · simp only [isProperty, if_false]
        exact ⟨rfl, rfl, cache⟩

theorem readsLocally (tree : Tree) :
    classifier.ReadsLocally tree (MemberTable.IsCacheOf tree) :=
  .of_reading _ _ (MemberTable.isCacheOf_empty tree)
    fun _ inside _ cache => visit_of_isCacheOf cache inside tree.source

end BackingField

namespace FieldNaming

/-- The rule for field names does not look at the table. -/
theorem readsLocally (tree : Tree) :
    classifier.ReadsLocally tree (MemberTable.IsCacheOf tree) := by
  refine .of_untouched (MemberTable.isCacheOf_empty tree) fun site table => ?_
  simp only [Classifier.evidence, Classifier.descent, classifier, visit]
  split
  · rfl
  · split <;> rfl

end FieldNaming

namespace Directives

/-- The rule for directives does not look at the table. -/
theorem readsLocally (tree : Tree) :
    classifier.ReadsLocally tree (MemberTable.IsCacheOf tree) := by
  refine .of_untouched (MemberTable.isCacheOf_empty tree) fun site table => ?_
  simp only [Classifier.evidence, Classifier.descent, classifier, visit]
  split
  · rfl
  · split <;> rfl

end Directives

namespace Convention

/-- No rule of a convention can tell a cache of the tree from an empty table. -/
theorem readsLocally (convention : Convention) (tree : Tree) :
    convention.classifier.ReadsLocally tree (MemberTable.IsCacheOf tree) := by
  cases convention with
  | underscoreFields => exact FieldNaming.readsLocally tree
  | qualifyFieldAccess => exact MemberAccess.readsLocally .field tree
  | qualifyPropertyAccess => exact MemberAccess.readsLocally .property tree
  | qualifyMethodAccess => exact MemberAccess.readsLocally .method tree
  | qualifyEventAccess => exact MemberAccess.readsLocally .event tree
  | backingFieldAdjacency => exact BackingField.readsLocally tree
  | usingPlacement => exact Directives.readsLocally tree

/--
At every site of a tree, after visits to any other sites in any order, a
convention's rule records and decides what it would with fresh memory and no
evidence so far.  A whole visit has the join of the evidence at the named sites
with no pruned named site above them as its verdict, in whatever order that
evidence is merged, and the detail of the last positive observation.
-/
theorem visit_joins_local_evidence
    (convention : Convention)
    (tree : Tree) :
    (∀ visited : List Site, (∀ site ∈ visited, site ∈ tree.site.subtree) →
      ∀ site ∈ tree.site.subtree, ∀ tally : Tally Detail,
        let memory := convention.classifier.memoryAfter tree.source visited
        let offered := convention.classifier.offer tree.source site ⟨tally, memory⟩
        offered.1.tally =
            tally.recordAll (convention.classifier.evidence tree.source site) ∧
          offered.2 = convention.classifier.descent tree.source site) ∧
      ∀ memory : MemberTable,
        let outcome := (Walker.visit convention.classifier tree ⟨memory, .empty⟩).outcome
        let found := (convention.classifier.reached tree).flatMap
          (convention.classifier.evidence tree.source)
        (∀ arranged, arranged.Perm found → outcome.verdict = Verdict.join arranged) ∧
          ∀ detail, outcome = .yes detail ↔
            Verdict.join found = .yes ∧
              (found.filterMap Observation.detail?).getLast? = some detail := by
  have reads := convention.readsLocally tree
  constructor
  · intro visited visitedInside site inside tally
    have sound := reads.sound_memoryAfter visited visitedInside
    have recorded := reads.observations site inside _ sound
    exact ⟨congrArg tally.recordAll recorded, reads.descent site inside _ sound⟩
  · intro memory
    have recorded := reads.tally_walk Tally.empty
    have walked : (Walker.visit convention.classifier tree ⟨memory, .empty⟩).outcome =
        (Tally.empty.recordAll ((convention.classifier.reached tree).flatMap
          (convention.classifier.evidence tree.source))).outcome :=
      congrArg Tally.outcome recorded
    rw [walked]
    constructor
    · intro arranged rearranged
      rw [Tally.verdict_outcome_recordAll_empty, Verdict.join_perm rearranged]
    · exact Tally.outcome_recordAll_empty_eq_yes_iff _

/-- The tree of a class whose field is written bare and read qualified. -/
def sampleTree : Tree where
  source := "class C \x7b int m; void T() \x7b m = this.m; \x7d \x7d"
  root :=
    .rule 0 .compilationUnit none 0 43 "class C \x7b int m; void T() \x7b m = this.m; \x7d \x7d" [
      .rule 1 .classDeclaration none 0 43
          "class C \x7b int m; void T() \x7b m = this.m; \x7d \x7d" [
        .token 2 (.other "class") none 0 5 "class",
        .rule 3 .identifier (some .name) 6 7 "C" [],
        .rule 4 .declarationList (some .body) 8 43
            "\x7b int m; void T() \x7b m = this.m; \x7d \x7d" [
          .token 5 (.other "\x7b") none 8 9 "\x7b",
          .rule 6 .fieldDeclaration none 10 16 "int m;" [
            .rule 7 .variableDeclaration none 10 15 "int m" [
              .rule 8 (.other "predefined_type") (some (.other "type")) 10 13 "int" [],
              .rule 9 .variableDeclarator none 14 15 "m" [
                .rule 10 .identifier (some .name) 14 15 "m" []]],
            .token 11 (.other ";") none 15 16 ";"],
          .rule 12 .methodDeclaration none 17 41 "void T() \x7b m = this.m; \x7d" [
            .rule 13 (.other "predefined_type") (some (.other "returns")) 17 21 "void" [],
            .rule 14 .identifier (some .name) 22 23 "T" [],
            .rule 15 .parameterList (some .parameters) 23 25 "()" [
              .token 16 (.other "(") none 23 24 "(",
              .token 17 (.other ")") none 24 25 ")"],
            .rule 18 .block (some .body) 26 41 "\x7b m = this.m; \x7d" [
              .token 19 (.other "\x7b") none 26 27 "\x7b",
              .rule 20 (.other "expression_statement") none 28 39 "m = this.m;" [
                .rule 21 .assignmentExpression none 28 38 "m = this.m" [
                  .rule 22 .identifier (some .left) 28 29 "m" [],
                  .token 23 .equalsSign (some (.other "operator")) 30 31 "=",
                  .rule 24 .memberAccessExpression (some (.other "right")) 32 38 "this.m" [
                    .token 25 .thisKeyword (some .expression) 32 36 "this",
                    .token 26 (.other ".") none 36 37 ".",
                    .rule 27 .identifier (some .name) 37 38 "m" []]],
                .token 28 (.other ";") none 38 39 ";"],
              .token 29 (.other "\x7d") none 40 41 "\x7d"]],
          .token 30 (.other "\x7d") none 42 43 "\x7d"]]]
  distinct := by decide

/-- The order of the earlier visits does not matter, here all of them from back to front: one
qualified and one bare use of the field make the evidence mixed. -/
theorem visit_joins_local_evidence_sample :
    let rule := Convention.qualifyFieldAccess.classifier
    let memory := rule.memoryAfter sampleTree.source sampleTree.site.subtree.reverse
    (∀ site ∈ sampleTree.site.subtree,
      (rule.offer sampleTree.source site ⟨.empty, memory⟩).1.tally =
        Tally.empty.recordAll (rule.evidence sampleTree.source site)) ∧
      (Walker.visit rule sampleTree ⟨memory, .empty⟩).outcome.verdict =
        Verdict.join ([.yes none, .no] : List (Observation Detail)) := by
  obtain ⟨locally, joined⟩ := visit_joins_local_evidence .qualifyFieldAccess sampleTree
  constructor
  · intro site inside
    exact (locally _ (fun _ => List.mem_reverse.mp) site inside .empty).1
  · exact (joined _).1 [.yes none, .no] (by decide +kernel)

end Convention
end HouseStyle
