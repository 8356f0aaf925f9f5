import HouseStyle.Proofs.Convention.Locality
import HouseStyle.Proofs.Member.Denotation

/-!
# Which names of fields count

The convention for the names of fields is judged by the names in field
declarations that are neither public nor constant nor static and that no walk is
kept away from.  In the body of a type these are the names that the table of
members has for fields of instances that are not public, in the same order and
from the same declarations: the walk and the table read declarations on their own
ways, and come to the same fields.
-/

namespace HouseStyle
namespace FieldNaming

open Syntax

/-- The declarations that a walk does not go into: members that hold no fields, and the fields
themselves. -/
def prunedKinds : List Kind :=
  [.fieldDeclaration, .constructorDeclaration, .destructorDeclaration, .propertyDeclaration,
    .indexerDeclaration, .methodDeclaration, .operatorDeclaration, .conversionOperatorDeclaration,
    .eventDeclaration, .eventFieldDeclaration, .enumDeclaration, .delegateDeclaration]

/-- A field declaration outside of all pruned declarations that is not public, constant or
static. -/
def Counts (site : Site) : Prop :=
  site.node.isNamed = true ∧ site.kind = .fieldDeclaration ∧ site.IsOutside prunedKinds ∧
    ∀ modifier ∈ [Modifier.publicAccess, .const, .static], modifier ∉ Modifiers.of site.node

instance (site : Site) : Decidable (Counts site) :=
  inferInstanceAs (Decidable (_ ∧ _ ∧ _ ∧ _))

/-- The names that count at a site, declarator by declarator. -/
def namesAt (site : Site) : List String :=
  if Counts site then Declarator.names site.node else []

/-- The declarations that stand directly in the body of a type, without those that implement a
member of an interface under its name. -/
def bodyDeclarations (type : Site) : List Site :=
  match type.child? .body with
  | none => []
  | some body =>
      body.namedChildren.filter fun declaration =>
        !declaration.node.hasChildOf .explicitInterfaceSpecifier

/-- The declaration of a member is public. -/
def isDeclaredPublic (tree : Tree) (member : Member) : Bool :=
  tree.site.subtree.any fun site =>
    site.number == member.declaration && (Modifiers.of site.node).contains .publicAccess

/-- A member is a field of instances that is not public. -/
def isOwnField (tree : Tree) (member : Member) : Bool :=
  member.kind == .field && !member.isStatic && !isDeclaredPublic tree member

/-! ## What a walk records -/

theorem mem_prunedKinds_iff {kind : Kind} :
    kind ∈ prunedKinds ↔
      (isMemberBody kind || kind.isOpaque) = true ∨ kind = .fieldDeclaration := by
  cases kind <;> simp [isMemberBody, Kind.isOpaque, prunedKinds]

/-- What the classifier does at a site, told by the pruned kinds. -/
theorem classifier_visit
    (source : String)
    (site : Site)
    (table : MemberTable) :
    classifier.visit source site table =
      ⟨if site.kind = .fieldDeclaration then observations site.node else [],
        if site.kind ∈ prunedKinds then .skip else .enter, table⟩ := by
  have noBody : (isMemberBody .fieldDeclaration || Kind.fieldDeclaration.isOpaque) = false := rfl
  change visit site.node table = _
  rw [visit, ← Site.kind]
  by_cases isField : site.kind = .fieldDeclaration
  · simp [isField, noBody, mem_prunedKinds_iff]
  · cases pruned : isMemberBody site.kind || site.kind.isOpaque <;>
      simp [isField, pruned, mem_prunedKinds_iff]

theorem mem_reached_iff
    {tree : Tree}
    {site : Site}
    (inside : site ∈ tree.site.subtree) :
    site ∈ classifier.reached tree ↔
      site.node.isNamed = true ∧ site.IsOutside prunedKinds :=
  Classifier.ReadsLocally.mem_reached_iff_isOutside
    (fun outer => congrArg Visit.descent (classifier_visit _ outer _)) inside

theorem isExempt_eq_false_iff {declaration : Node} :
    isExempt declaration = false ↔
      ∀ modifier ∈ [Modifier.publicAccess, .const, .static],
        modifier ∉ Modifiers.of declaration := by
  simp [isExempt, and_assoc]

theorem counts_iff_of_mem_reached
    {tree : Tree}
    {site : Site}
    (visited : site ∈ classifier.reached tree) :
    Counts site ↔ site.kind = .fieldDeclaration ∧ isExempt site.node = false := by
  have inside := Classifier.ReadsLocally.mem_subtree_of_mem_reached visited
  obtain ⟨named, outside⟩ := (mem_reached_iff inside).mp visited
  rw [isExempt_eq_false_iff]
  exact ⟨fun counts => ⟨counts.2.1, counts.2.2.2⟩, fun found => ⟨named, found.1, outside, found.2⟩⟩

/-- At a site that a walk reaches, the evidence is that of the names that count there. -/
theorem evidence_of_mem_reached
    {tree : Tree}
    {site : Site}
    (visited : site ∈ classifier.reached tree) :
    classifier.evidence tree.source site = (namesAt site).map observe := by
  have counts := counts_iff_of_mem_reached visited
  rw [Classifier.evidence, classifier_visit, namesAt]
  by_cases isField : site.kind = .fieldDeclaration
  · cases exempt : isExempt site.node <;> simp [observations, counts, isField, exempt]
  · simp [counts, isField]

/-- A walk records at a site what the names that count there say. -/
theorem recordedAt_eq_map_namesAt
    {tree : Tree}
    {site : Site}
    (inside : site ∈ tree.site.subtree) :
    classifier.recordedAt tree site = (namesAt site).map observe := by
  refine (readsLocally tree).recordedAt_eq (fun _ => evidence_of_mem_reached) inside ?_
  intro missed
  have noNames : namesAt site = [] := by
    refine if_neg fun counts => missed ?_
    exact (mem_reached_iff inside).mpr ⟨counts.1, counts.2.2.1⟩
  rw [noNames, List.map_nil]

theorem signal_observe_eq_yes_iff {name : String} :
    (observe name).signal = .yes ↔ ['_'] <+: name.toList := by
  rw [observe, hasUnderscore]
  cases name.toList with
  | nil => simp [Observation.signal]
  | cons first rest =>
      by_cases marked : first = '_'
      · simp [marked, Observation.signal]
      · simp [marked, Ne.symm marked, Observation.signal]

theorem mem_namesAt_iff {site : Site} {name : String} :
    name ∈ namesAt site ↔ Counts site ∧ Member.States site.node name := by
  unfold namesAt
  by_cases counts : Counts site
  · have sort : site.node.kind ∈ [.fieldDeclaration, .eventFieldDeclaration] := by
      simp [← Site.kind.eq_def, counts.2.1]
    simp [counts, Member.states_iff_mem_names sort]
  · simp [counts]

/-- The verdict judges the names that count by their first letter. -/
theorem judges_outcome (tree : Tree) :
    (classifier.outcome tree).verdict.Judges
      (fun name => ∃ site ∈ tree.site.subtree, Counts site ∧ Member.States site.node name)
      (fun name => ['_'] <+: name.toList) := by
  have judged := (readsLocally tree).judges_outcome fun _ => evidence_of_mem_reached
  have listed (name : String) :
      (∃ site ∈ classifier.reached tree, name ∈ namesAt site) ↔
        ∃ site ∈ tree.site.subtree, Counts site ∧ Member.States site.node name := by
    constructor
    · rintro ⟨site, visited, present⟩
      exact ⟨site, Classifier.ReadsLocally.mem_subtree_of_mem_reached visited,
        mem_namesAt_iff.mp present⟩
    · rintro ⟨site, inside, counts, states⟩
      exact ⟨site, (mem_reached_iff inside).mpr ⟨counts.1, counts.2.2.1⟩,
        mem_namesAt_iff.mpr ⟨counts, states⟩⟩
  simpa only [listed, signal_observe_eq_yes_iff] using judged

/-! ## What the table of members has -/

/-- Items that contribute nothing may be left out before the contributions are joined. -/
theorem flatMap_filter_eq
    {α β : Type}
    {keeps : α → Bool}
    {kept all : α → List β}
    (items : List α)
    (same : ∀ item ∈ items, keeps item = true → kept item = all item)
    (nothing : ∀ item ∈ items, keeps item = false → all item = []) :
    (items.filter keeps).flatMap kept = items.flatMap all := by
  induction items with
  | nil => rfl
  | cons item rest inductionHypothesis =>
      have further := inductionHypothesis
        (fun other present => same other (List.mem_cons_of_mem item present))
        (fun other present => nothing other (List.mem_cons_of_mem item present))
      rw [List.filter_cons, List.flatMap_cons, ← further]
      cases keep : keeps item with
      | true => rw [if_pos rfl, List.flatMap_cons, same item List.mem_cons_self keep]
      | false => rw [nothing item List.mem_cons_self keep]; rfl

/-- The number of a declaration tells whether a member of it is public. -/
theorem isDeclaredPublic_eq
    {tree : Tree}
    {declaration : Site}
    {member : Member}
    (inside : declaration ∈ tree.site.subtree)
    (declares : member.declaration = declaration.number) :
    isDeclaredPublic tree member = (Modifiers.of declaration.node).contains .publicAccess := by
  rw [Bool.eq_iff_iff, isDeclaredPublic, List.any_eq_true]
  constructor
  · rintro ⟨site, present, found⟩
    obtain ⟨same, isPublic⟩ := Bool.and_eq_true_iff.mp found
    obtain rfl := Tree.site_eq_of_number_eq present inside ((beq_iff_eq.mp same).trans declares)
    exact isPublic
  · intro isPublic
    exact ⟨declaration, inside, Bool.and_eq_true_iff.mpr ⟨beq_iff_eq.mpr declares.symm, isPublic⟩⟩

/-- The modifiers that exempt a declaration are those that keep its fields out. -/
theorem isOwnField_ofNamed
    {tree : Tree}
    {declaration : Site}
    (inside : declaration ∈ tree.site.subtree)
    (name : String) :
    isOwnField tree (Member.ofNamed declaration.node .field name none) =
      !isExempt declaration.node := by
  have isPublic : isDeclaredPublic tree (Member.ofNamed declaration.node .field name none) =
      (Modifiers.of declaration.node).contains .publicAccess :=
    isDeclaredPublic_eq inside rfl
  rw [isOwnField, isPublic, isExempt]
  simp only [Member.ofNamed, Modifiers.isStaticContext]
  cases (Modifiers.of declaration.node).contains .publicAccess <;>
    cases (Modifiers.of declaration.node).contains .const <;>
    cases (Modifiers.of declaration.node).contains .static <;> rfl

theorem ofDeclaration_of_field
    {declaration : Node}
    (isField : declaration.kind = .fieldDeclaration)
    (implicit : declaration.hasChildOf .explicitInterfaceSpecifier = false) :
    Member.ofDeclaration declaration =
      (Declarator.names declaration).map fun name =>
        Member.ofNamed declaration .field name none := by
  simp [Member.ofDeclaration, MemberKind.ofDeclaration?, Member.ofKind, isField, implicit]

theorem kind_of_ofDeclaration?_eq_field
    {kind : Kind}
    (sort : MemberKind.ofDeclaration? kind = some .field) :
    kind = .fieldDeclaration := by
  unfold MemberKind.ofDeclaration? at sort
  split at sort
  · rfl
  all_goals cases sort

/-- Of the members that a declaration in a type body brings in, the fields that are asked for are
those whose names a walk counts. -/
theorem filter_isOwnField_ofDeclaration
    {tree : Tree}
    {declaration : Site}
    (visited : declaration ∈ classifier.reached tree)
    (implicit : declaration.node.hasChildOf .explicitInterfaceSpecifier = false) :
    (Member.ofDeclaration declaration.node).filter (isOwnField tree) =
      (namesAt declaration).map fun name =>
        Member.ofNamed declaration.node .field name none := by
  have inside := Classifier.ReadsLocally.mem_subtree_of_mem_reached visited
  have counts := counts_iff_of_mem_reached visited
  by_cases isField : declaration.kind = .fieldDeclaration
  · rw [ofDeclaration_of_field isField implicit, List.filter_map, namesAt]
    have own : isOwnField tree ∘ (fun name => Member.ofNamed declaration.node .field name none) =
        fun _ => !isExempt declaration.node :=
      funext fun name => isOwnField_ofNamed inside name
    rw [own]
    cases exempt : isExempt declaration.node <;> simp [counts, isField, exempt]
  · -- A declaration of another kind brings in no field.
    have noNames : namesAt declaration = [] := if_neg fun found => isField found.2.1
    rw [noNames, List.map_nil, List.filter_eq_nil_iff]
    intro member present own
    have sort := (Member.mem_ofDeclaration_iff.mp present).sort
    simp only [isOwnField, Bool.and_eq_true, beq_iff_eq] at own
    rw [own.1.1] at sort
    exact isField (kind_of_ofDeclaration?_eq_field sort)

theorem ofDeclaration_of_explicit
    {declaration : Node}
    (explicit : declaration.hasChildOf .explicitInterfaceSpecifier = true) :
    Member.ofDeclaration declaration = [] := by
  rw [Member.ofDeclaration, explicit]
  cases MemberKind.ofDeclaration? declaration.kind <;> rfl

theorem ofType_of_body
    {type body : Site}
    (found : type.child? .body = some body) :
    Member.ofType type.node =
      body.namedChildren.flatMap fun declaration => Member.ofDeclaration declaration.node := by
  rw [Member.ofType, ← Site.map_node_child?, found]
  simp only [Option.map_some, ← Site.map_node_namedChildren, List.flatMap_map]

theorem ofType_of_no_body
    {type : Site}
    (missing : type.child? .body = none) :
    Member.ofType type.node = [] := by
  rw [Member.ofType, ← Site.map_node_child?, missing]
  rfl

/-- The table has as fields of a type what a walk counts in its body. -/
theorem filter_isOwnField_ofType
    {tree : Tree}
    {type : Site}
    (inside : type ∈ tree.site.subtree)
    (clear : ∀ body, type.child? .body = some body → ∀ outer ∈ body :: body.ancestors,
      outer.node.isNamed = true → outer.kind ∉ prunedKinds) :
    (Member.ofType type.node).filter (isOwnField tree) =
      (bodyDeclarations type).flatMap fun declaration =>
        (namesAt declaration).map fun name =>
          Member.ofNamed declaration.node .field name none := by
  cases found : type.child? .body with
  | none =>
      rw [ofType_of_no_body found, bodyDeclarations, found]
      rfl
  | some body =>
      have bodyInside := Site.mem_subtree_of_mem_children inside (Site.mem_children_of_child? found)
      have visited : ∀ declaration ∈ body.namedChildren, declaration ∈ classifier.reached tree := by
        intro declaration present
        have below := Site.mem_children_of_mem_namedChildren present
        exact (mem_reached_iff (Site.mem_subtree_of_mem_children bodyInside below)).mpr
          ⟨(List.mem_filter.mp present).2, Site.isOutside_of_mem_children below (clear body found)⟩
      rw [ofType_of_body found, List.filter_flatMap, bodyDeclarations, found]
      symm
      apply flatMap_filter_eq
      · intro declaration present implicit
        exact (filter_isOwnField_ofDeclaration (visited declaration present)
          ((Bool.not_eq_true' _).mp implicit)).symm
      · intro declaration present explicit
        rw [ofDeclaration_of_explicit ((Bool.not_eq_false' _).mp explicit), List.filter_nil]

/--
The verdict says whether the names that count start with an underscore: none
counts, all do, none does or some do.  A walk records at every node what the
names that count there say.  Where no walk is kept away from the body of a type,
the names that count in the declarations in it are, with these declarations and in
the same order, those that the table of members has for fields of instances that
are not public, whatever it was asked before.
-/
theorem names_agree_with_member_table (tree : Tree) :
    (classifier.outcome tree).verdict.Judges
        (fun name => ∃ site ∈ tree.site.subtree, Counts site ∧ Member.States site.node name)
        (fun name => ['_'] <+: name.toList) ∧
      (∀ site ∈ tree.site.subtree,
        classifier.recordedAt tree site = (namesAt site).map observe) ∧
      ∀ (first : Tree) (requests : List MemberTable.Request),
        MemberTable.AsksOf first requests tree →
        ∀ type ∈ tree.site.subtree,
          (∀ body, type.child? .body = some body → ∀ outer ∈ body :: body.ancestors,
            outer.node.isNamed = true → outer.kind ∉ prunedKinds) →
          let entries := ((MemberTable.empty.runAll requests).2.membersOf type.node).1
          ((bodyDeclarations type).flatMap fun declaration =>
              (namesAt declaration).map (declaration.number, ·)) =
            (entries.filter (isOwnField tree)).map fun entry =>
              (entry.declaration, entry.name) := by
  refine ⟨judges_outcome tree, fun site inside => recordedAt_eq_map_namesAt inside, ?_⟩
  intro first requests asked type inside clear entries
  obtain ⟨-, sound⟩ := (MemberTable.isSound_empty first).runAll asked
  have afresh : entries = Member.ofType type.node :=
    (sound.cache.membersOf (Tree.node_mem_subtree inside)).1
  rw [afresh, filter_isOwnField_ofType inside clear, List.map_flatMap]
  simp only [List.map_map]
  rfl

/-- The tree of a class with two fields in one declaration, a public field and a class inside that
has a static field and one of its own. -/
def nestedFieldTree : Tree where
  source := "class C \x7b int _a, b; public int p; class D \x7b static int s; int _x; \x7d \x7d"
  root :=
    .rule 0 .classDeclaration none 0 0 "" [
      .rule 1 .declarationList (some .body) 0 0 "" [
        .rule 2 .fieldDeclaration none 0 0 "int _a, b;" [
          .rule 3 .variableDeclaration none 0 0 "int _a, b" [
            .rule 4 .variableDeclarator none 0 0 "_a" [
              .rule 5 .identifier (some .name) 0 0 "_a" []],
            .rule 6 .variableDeclarator none 0 0 "b" [
              .rule 7 .identifier (some .name) 0 0 "b" []]]],
        .rule 8 .fieldDeclaration none 0 0 "public int p;" [
          .rule 9 .modifier none 0 0 "public" [],
          .rule 10 .variableDeclaration none 0 0 "int p" [
            .rule 11 .variableDeclarator none 0 0 "p" [
              .rule 12 .identifier (some .name) 0 0 "p" []]]],
        .rule 13 .classDeclaration none 0 0 "" [
          .rule 14 .declarationList (some .body) 0 0 "" [
            .rule 15 .fieldDeclaration none 0 0 "static int s;" [
              .rule 16 .modifier none 0 0 "static" [],
              .rule 17 .variableDeclaration none 0 0 "int s" [
                .rule 18 .variableDeclarator none 0 0 "s" [
                  .rule 19 .identifier (some .name) 0 0 "s" []]]],
            .rule 20 .fieldDeclaration none 0 0 "int _x;" [
              .rule 21 .variableDeclaration none 0 0 "int _x" [
                .rule 22 .variableDeclarator none 0 0 "_x" [
                  .rule 23 .identifier (some .name) 0 0 "_x" []]]]]]]]
  distinct := by decide

theorem names_agree_with_member_table_sample :
    let requests : List MemberTable.Request := [.membersOf nestedFieldTree.root]
    let table := (MemberTable.empty.runAll requests).2
    let inner := nestedFieldTree.site.subtree.get ⟨13, by decide⟩
    MemberTable.AsksOf nestedFieldTree requests nestedFieldTree ∧
      (∃ name, (∃ site ∈ nestedFieldTree.site.subtree,
        Counts site ∧ Member.States site.node name) ∧ ¬ ['_'] <+: name.toList) ∧
      ((table.membersOf nestedFieldTree.root).1.filter (isOwnField nestedFieldTree)).map
          (fun entry => (entry.declaration, entry.name)) = [(2, "_a"), (2, "b")] ∧
      ((table.membersOf inner.node).1.filter (isOwnField nestedFieldTree)).map
          (fun entry => (entry.declaration, entry.name)) = [(20, "_x")] := by
  intro requests table inner
  obtain ⟨judged, -, agree⟩ := names_agree_with_member_table nestedFieldTree
  have rootInside : nestedFieldTree.root ∈ nestedFieldTree.root.subtree := by
    rw [Node.subtree_eq]
    exact List.mem_cons_self
  have asked : MemberTable.AsksOf nestedFieldTree requests nestedFieldTree :=
    .request rootInside (.nothing nestedFieldTree)
  have mixed : (classifier.outcome nestedFieldTree).verdict = .mixed := by
    decide +kernel
  refine ⟨asked, (judged.mixed_iff.mp mixed).2, ?_, ?_⟩
  · refine (agree nestedFieldTree requests asked nestedFieldTree.site ?_ ?_).symm.trans ?_
    · exact nestedFieldTree.site.self_mem_subtree
    · intro body found
      obtain rfl : nestedFieldTree.site.subtree.get ⟨1, by decide⟩ = body := Option.some.inj found
      decide +kernel
    · decide +kernel
  · refine (agree nestedFieldTree requests asked inner (List.get_mem _ _) ?_).symm.trans ?_
    · intro body found
      obtain rfl : nestedFieldTree.site.subtree.get ⟨14, by decide⟩ = body := Option.some.inj found
      decide +kernel
    · decide +kernel

end FieldNaming
end HouseStyle
