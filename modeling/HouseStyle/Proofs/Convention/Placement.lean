import HouseStyle.Proofs.Convention.Locality

/-!
# Which using directives count, and where they stand

The place of using directives is judged by the directives that are not global
and that no walk is kept away from.  A directive stands inside a namespace that
encloses it, or that is declared before it for the rest of the file.  Among
siblings, no directive that stands outside comes after one that stands inside.
-/

namespace HouseStyle
namespace Directives

open Syntax

/-- The nodes that a walk does not go into: declarations and statements that hold no directives,
and the directives themselves. -/
def prunedKinds : List Kind :=
  [.usingDirective, .classDeclaration, .structDeclaration, .recordDeclaration,
    .recordStructDeclaration, .interfaceDeclaration, .enumDeclaration, .delegateDeclaration,
    .globalStatement]

/-- A using directive outside of all pruned nodes that is not for the whole project. -/
def Counts (site : Site) : Prop :=
  site.node.isNamed = true ∧ site.kind = .usingDirective ∧ site.IsOutside prunedKinds ∧
    ∀ child ∈ site.node.children, child.kind ≠ .globalKeyword

instance (site : Site) : Decidable (Counts site) :=
  inferInstanceAs (Decidable (_ ∧ _ ∧ _ ∧ _))

/-- A directive has a namespace above it, or before it one for the rest of the file. -/
def IsInside (directive : Site) : Prop :=
  (∃ outer ∈ directive.ancestors,
      outer.kind ∈ [.namespaceDeclaration, .fileScopedNamespaceDeclaration]) ∨
    ∃ sibling ∈ directive.earlierSiblings,
      sibling.isNamed = true ∧ sibling.kind = .fileScopedNamespaceDeclaration

instance (directive : Site) : Decidable (IsInside directive) :=
  inferInstanceAs (Decidable (_ ∨ _))

/-- The directive that counts at a site, if there is one. -/
def directivesAt (site : Site) : List Site :=
  if Counts site then [site] else []

/-- The evidence in the place of a directive. -/
def observePlace (directive : Site) : Observation Detail :=
  if IsInside directive then .yes none else .no

theorem mem_directivesAt_iff {site directive : Site} :
    directive ∈ directivesAt site ↔ directive = site ∧ Counts site := by
  by_cases counts : Counts site <;> simp [directivesAt, counts]

theorem signal_observePlace_eq_yes_iff {directive : Site} :
    (observePlace directive).signal = .yes ↔ IsInside directive := by
  by_cases inside : IsInside directive <;> simp [observePlace, inside, Observation.signal]

/-! ## What a walk records -/

theorem mem_prunedKinds_iff {kind : Kind} :
    kind ∈ prunedKinds ↔ isPastDirectives kind = true ∨ kind = .usingDirective := by
  cases kind <;> simp [isPastDirectives, Kind.isType, Kind.isOpaque, prunedKinds]

theorem isInside_iff {directive : Site} :
    isInside directive = true ↔ IsInside directive := by
  have isNamespace (kind : Kind) : kind.isNamespace = true ↔
      kind ∈ [.namespaceDeclaration, .fileScopedNamespaceDeclaration] := by
    cases kind <;> simp [Kind.isNamespace]
  rw [isInside, Bool.or_eq_true, Site.ancestorWhere?, List.find?_isSome, List.any_eq_true]
  simp only [isNamespace, Site.earlierNamed, List.mem_filter, beq_iff_eq, and_assoc]
  rfl

theorem isGlobal_eq_false_iff {directive : Node} :
    isGlobal directive = false ↔ ∀ child ∈ directive.children, child.kind ≠ .globalKeyword := by
  simp [isGlobal, Node.hasChildOf]

/-- What the classifier does at a site, told by the pruned kinds. -/
theorem classifier_visit
    (source : String)
    (site : Site)
    (table : MemberTable) :
    classifier.visit source site table =
      ⟨if site.kind = .usingDirective then observations site else [],
        if site.kind ∈ prunedKinds then .skip else .enter, table⟩ := by
  change visit site table = _
  rw [visit]
  by_cases isDirective : site.kind = .usingDirective
  · have here : isPastDirectives .usingDirective = false := rfl
    simp [isDirective, here, mem_prunedKinds_iff]
  · cases past : isPastDirectives site.kind <;>
      simp [isDirective, past, mem_prunedKinds_iff]

theorem mem_reached_iff
    {tree : Tree}
    {site : Site}
    (inside : site ∈ tree.site.subtree) :
    site ∈ classifier.reached tree ↔
      site.node.isNamed = true ∧ site.IsOutside prunedKinds :=
  Classifier.ReadsLocally.mem_reached_iff_isOutside
    (fun outer => congrArg Visit.descent (classifier_visit _ outer _)) inside

theorem counts_iff_of_mem_reached
    {tree : Tree}
    {site : Site}
    (visited : site ∈ classifier.reached tree) :
    Counts site ↔ site.kind = .usingDirective ∧ isGlobal site.node = false := by
  have inside := Classifier.ReadsLocally.mem_subtree_of_mem_reached visited
  obtain ⟨named, outside⟩ := (mem_reached_iff inside).mp visited
  rw [isGlobal_eq_false_iff]
  exact ⟨fun counts => ⟨counts.2.1, counts.2.2.2⟩, fun found => ⟨named, found.1, outside, found.2⟩⟩

/-- At a site that a walk reaches, the evidence is the place of the directive that counts there. -/
theorem evidence_of_mem_reached
    {tree : Tree}
    {site : Site}
    (visited : site ∈ classifier.reached tree) :
    classifier.evidence tree.source site = (directivesAt site).map observePlace := by
  have counts := counts_iff_of_mem_reached visited
  rw [Classifier.evidence, classifier_visit, directivesAt]
  by_cases isDirective : site.kind = .usingDirective
  · cases project : isGlobal site.node with
    | true => simp [observations, counts, isDirective, project]
    | false =>
        by_cases inside : IsInside site <;>
          simp [observations, observePlace, counts, isDirective, project, isInside_iff, inside]
  · simp [counts, isDirective]

/-- A walk records at a site the place of the directive that counts there. -/
theorem recordedAt_eq_map_directivesAt
    {tree : Tree}
    {site : Site}
    (inside : site ∈ tree.site.subtree) :
    classifier.recordedAt tree site = (directivesAt site).map observePlace := by
  refine (readsLocally tree).recordedAt_eq (fun _ => evidence_of_mem_reached) inside ?_
  intro missed
  have noDirective : directivesAt site = [] := by
    refine if_neg fun counts => missed ?_
    exact (mem_reached_iff inside).mpr ⟨counts.1, counts.2.2.1⟩
  rw [noDirective, List.map_nil]

/-- The verdict judges the directives that count by their place. -/
theorem judges_outcome (tree : Tree) :
    (classifier.outcome tree).verdict.Judges
      (fun site => site ∈ tree.site.subtree ∧ Counts site) IsInside := by
  have judged := (readsLocally tree).judges_outcome fun _ => evidence_of_mem_reached
  have listed (directive : Site) :
      (∃ site ∈ classifier.reached tree, directive ∈ directivesAt site) ↔
        directive ∈ tree.site.subtree ∧ Counts directive := by
    simp only [mem_directivesAt_iff]
    constructor
    · rintro ⟨site, visited, rfl, counts⟩
      exact ⟨Classifier.ReadsLocally.mem_subtree_of_mem_reached visited, counts⟩
    · rintro ⟨inside, counts⟩
      exact ⟨directive, (mem_reached_iff inside).mpr ⟨counts.1, counts.2.2.1⟩, rfl, counts⟩
  simpa only [listed, signal_observePlace_eq_yes_iff] using judged

/-! ## Places of siblings -/

/-- A sibling further on has the same nodes above it and more siblings before it. -/
theorem pairwise_isInside_children (parent : Site) :
    parent.children.Pairwise fun earlier later => IsInside earlier → IsInside later := by
  have further := parent.pairwise_earlierSiblings_children
  refine further.imp_of_mem fun earlierBelow laterBelow siblings inside => ?_
  rw [IsInside, Site.ancestors_of_mem_children earlierBelow] at inside
  rw [IsInside, Site.ancestors_of_mem_children laterBelow]
  refine inside.imp_right fun ⟨sibling, before, isNamespace⟩ => ?_
  exact ⟨sibling, siblings.subset before, isNamespace⟩

section Runs

variable
  {α β : Type}
  (counts follows : α → Prop)
  [DecidablePred counts]
  [DecidablePred follows]

/-- What is said of items that all have a property is the same again and again. -/
theorem exists_run
    (no yes : β)
    (items : List α)
    (all : ∀ item ∈ items, counts item → follows item) :
    ∃ number, (items.flatMap fun item =>
        if counts item then [if follows item then yes else no] else []) =
      List.replicate number yes := by
  induction items with
  | nil => exact ⟨0, rfl⟩
  | cons item rest inductionHypothesis =>
      obtain ⟨number, said⟩ := inductionHypothesis
        fun other present => all other (List.mem_cons_of_mem item present)
      rw [List.flatMap_cons, said]
      by_cases count : counts item
      · have follow := all item List.mem_cons_self count
        exact ⟨number + 1, by simp [count, follow, List.replicate_succ]⟩
      · exact ⟨number, by simp [count]⟩

/-- Where a property passes on from item to item, what is said of them is one run without the
property and then one with it. -/
theorem exists_two_runs
    (no yes : β)
    (items : List α)
    (passes : items.Pairwise fun earlier later => follows earlier → follows later) :
    ∃ without having, (items.flatMap fun item =>
        if counts item then [if follows item then yes else no] else []) =
      List.replicate without no ++ List.replicate having yes := by
  induction passes with
  | nil => exact ⟨0, 0, rfl⟩
  | @cons item rest onward _ inductionHypothesis =>
      by_cases count : counts item
      · by_cases follow : follows item
        · -- From the first item with the property on, all items have it.
          obtain ⟨number, said⟩ := exists_run counts follows no yes rest
            fun other present _ => onward other present follow
          exact ⟨0, number + 1, by simp [said, count, follow, List.replicate_succ]⟩
        · obtain ⟨without, having, said⟩ := inductionHypothesis
          exact ⟨without + 1, having, by simp [said, count, follow, List.replicate_succ]⟩
      · obtain ⟨without, having, said⟩ := inductionHypothesis
        exact ⟨without, having, by simp [said, count]⟩

end Runs

/--
The verdict says whether the directives that count stand inside a namespace: none
counts, all do, none does or some do.  A walk records the place of each directive
that counts and nothing else.  Of two siblings, the later one stands inside if the
earlier one does, so that the evidence among siblings is one run of directives
outside and then one of directives inside.
-/
theorem placement_judged_by_namespaces (tree : Tree) :
    (classifier.outcome tree).verdict.Judges
        (fun site => site ∈ tree.site.subtree ∧ Counts site) IsInside ∧
      (∀ site ∈ tree.site.subtree, classifier.recordedAt tree site =
        if Counts site then [if IsInside site then .yes none else .no] else []) ∧
      ∀ parent ∈ tree.site.subtree,
        (parent.children.Pairwise fun earlier later =>
          Counts earlier → Counts later → IsInside earlier → IsInside later) ∧
        ∃ outside inside, parent.children.flatMap (classifier.recordedAt tree) =
          List.replicate outside .no ++ List.replicate inside (.yes none) := by
  have recorded : ∀ site ∈ tree.site.subtree, classifier.recordedAt tree site =
      if Counts site then [if IsInside site then .yes none else .no] else [] := by
    intro site inside
    rw [recordedAt_eq_map_directivesAt inside, directivesAt]
    by_cases counts : Counts site <;> simp [counts, observePlace]
  refine ⟨judges_outcome tree, recorded, fun parent parentInside => ⟨?_, ?_⟩⟩
  · exact (pairwise_isInside_children parent).imp fun passes _ _ => passes
  · rw [List.flatMap_congr fun child below =>
      recorded child (Site.mem_subtree_of_mem_children parentInside below)]
    exact exists_two_runs Counts IsInside Observation.no (.yes none) parent.children
      (pairwise_isInside_children parent)

/-- The tree of a file with one directive before its namespace and two after it, the last one for
the whole project, and with a further directive in a namespace block. -/
def directiveTree : Tree where
  source := "using A; namespace N; using B; global using C; namespace M \x7b using D; \x7d"
  root :=
    .rule 0 .compilationUnit none 0 0 "" [
      .rule 1 .usingDirective none 0 0 "" [],
      .rule 2 .fileScopedNamespaceDeclaration none 0 0 "" [],
      .rule 3 .usingDirective none 0 0 "" [],
      .rule 4 .usingDirective none 0 0 "" [
        .token 5 .globalKeyword none 0 0 "global"],
      .rule 6 .namespaceDeclaration none 0 0 "" [
        .rule 7 .declarationList (some .body) 0 0 "" [
          .rule 8 .usingDirective none 0 0 "" []]]]
  distinct := by decide

theorem placement_judged_by_namespaces_sample :
    let nested := directiveTree.site.subtree.get ⟨8, by decide⟩
    nested ∈ directiveTree.site.subtree ∧ Counts nested ∧ IsInside nested ∧
      classifier.recordedAt directiveTree nested = [.yes none] ∧
      (classifier.outcome directiveTree).verdict = .mixed ∧
      directiveTree.site.children.flatMap (classifier.recordedAt directiveTree) =
        [.no, .yes none] ∧
      ∃ outside inside, directiveTree.site.children.flatMap (classifier.recordedAt directiveTree) =
        List.replicate outside .no ++ List.replicate inside (.yes none) := by
  intro nested
  have nestedInside : nested ∈ directiveTree.site.subtree := List.get_mem _ _
  have counts : Counts nested := by decide +kernel
  have inside : IsInside nested := by decide +kernel
  have first : directiveTree.site.subtree.get ⟨1, by decide⟩ ∈ directiveTree.site.subtree ∧
      Counts (directiveTree.site.subtree.get ⟨1, by decide⟩) :=
    ⟨List.get_mem _ _, by decide +kernel⟩
  obtain ⟨judged, recorded, siblings⟩ := placement_judged_by_namespaces directiveTree
  have here := recorded nested nestedInside
  rw [if_pos counts, if_pos inside] at here
  have mixed := judged.mixed_iff.mpr
    ⟨⟨nested, ⟨nestedInside, counts⟩, inside⟩, ⟨_, first, by decide +kernel⟩⟩
  have among : directiveTree.site.children.flatMap (classifier.recordedAt directiveTree) =
      [.no, .yes none] := by
    decide +kernel
  have runs := (siblings directiveTree.site directiveTree.site.self_mem_subtree).2
  exact ⟨nestedInside, counts, inside, here, mixed, among, runs⟩

end Directives
end HouseStyle
