import HouseStyle.Proofs.Convention.Qualification
import HouseStyle.Proofs.Scope.Shadowing

/-!
# Pattern variables

A variable that a pattern introduces counts for the whole member that holds the
pattern, with one exception: a property is no scope of its own, so a pattern in
the expression that a property consists of hides nothing.  A name that is hidden
is never evidence for or against qualified access.
-/

namespace HouseStyle

open Syntax

/-! ## Hidden references -/

namespace MemberAccess

/-- The name that a function is called by, qualified or not. -/
def IsCalleeName (function identifier : Site) : Prop :=
  Reference.IsThisAccess function identifier ∨ Reference.simpleName? function = some identifier

/-- A node refers to something by the name at a site, in one of the forms that can count. -/
inductive RefersTo : Site → Site → Prop
  /-- A call `x(…)` or `this.x(…)`. -/
  | call
      {invocation function identifier : Site}
      (isCall : invocation.kind = .invocationExpression)
      (callee : invocation.child? .function = some function)
      (name : IsCalleeName function identifier) :
      RefersTo invocation identifier
  /-- An access `this.x`. -/
  | qualified
      {access identifier : Site}
      (name : Reference.IsThisAccess access identifier) :
      RefersTo access identifier
  /-- A bare name `x`. -/
  | bare
      {identifier : Site}
      (isName : identifier.kind = .identifier) :
      RefersTo identifier identifier

theorem IsCalleeName.unique
    {function one other : Site}
    (first : IsCalleeName function one)
    (second : IsCalleeName function other) :
    one = other := by
  simp only [IsCalleeName, ← Reference.afterThis?_eq_some_iff] at first second
  obtain first | first := first <;> obtain second | second := second
  · exact Option.some.inj (first.symm.trans second)
  · cases first.symm.trans (afterThis?_of_simpleName? second)
  · cases second.symm.trans (afterThis?_of_simpleName? first)
  · exact Option.some.inj (first.symm.trans second)

/-- A reference is to one name. -/
theorem RefersTo.unique
    {site one other : Site}
    (first : RefersTo site one)
    (second : RefersTo site other) :
    one = other := by
  cases first with
  | call isCall callee name =>
      cases second with
      | call _ otherCallee otherName =>
          obtain rfl := Option.some.inj (callee.symm.trans otherCallee)
          exact name.unique otherName
      | qualified otherName => cases isCall.symm.trans otherName.1
      | bare isName => cases isCall.symm.trans isName
  | qualified name =>
      cases second with
      | call isCall => cases isCall.symm.trans name.1
      | qualified otherName =>
          exact IsCalleeName.unique (.inl name) (.inl otherName)
      | bare isName => cases isName.symm.trans name.1
  | bare isName =>
      cases second with
      | call isCall => cases isCall.symm.trans isName
      | qualified otherName => cases isName.symm.trans otherName.1
      | bare => rfl

/-- What counts refers to a name that nothing hides. -/
theorem IsEvidence.exists_refersTo
    {kind : MemberKind}
    {site : Site}
    {observation : Observation Detail}
    (evidence : IsEvidence kind site observation) :
    ∃ identifier, RefersTo site identifier ∧
      Scope.isShadowed identifier.text identifier = false := by
  cases evidence with
  | qualifiedCall call callee qualified means =>
      exact ⟨_, .call call callee (.inl qualified), means.2.1⟩
  | bareCall call callee bare means =>
      exact ⟨_, .call call callee (.inr bare), means.2.1⟩
  | qualifiedUse _ qualified means => exact ⟨_, .qualified qualified, means.2.1⟩
  | bareUse _ bare _ means => exact ⟨_, .bare bare, means.2.1⟩

theorem recordedAt_of_isShadowed
    {tree : Tree}
    {reference identifier : Site}
    (kind : MemberKind)
    (inside : reference ∈ tree.site.subtree)
    (refers : RefersTo reference identifier)
    (hidden : Scope.isShadowed identifier.text identifier = true) :
    (classifier kind).recordedAt tree reference = [] := by
  have reads := readsLocally kind tree
  by_cases visited : reference ∈ (classifier kind).reached tree
  · rw [reads.recordedAt_of_mem_reached visited, classifier_evidence inside]
    have atMostOne := length_evidence_le kind reference
    match recorded : evidence kind reference with
    | [] => rfl
    | [observation] =>
        obtain ⟨-, isEvidence⟩ := evidence_eq_singleton_iff.mp recorded
        obtain ⟨other, otherRefers, visible⟩ := isEvidence.exists_refersTo
        obtain rfl := refers.unique otherRefers
        cases hidden.symm.trans visible
    | _ :: _ :: _ =>
        rw [recorded, List.length_cons, List.length_cons] at atMostOne
        omega
  · exact reads.recordedAt_of_not_mem_reached inside visited

end MemberAccess

/-! ## Members that hold patterns -/

namespace Scope

/-- The members that a pattern variable counts for as a whole. -/
def patternScopes : List Kind :=
  [.methodDeclaration, .constructorDeclaration, .destructorDeclaration, .operatorDeclaration,
    .conversionOperatorDeclaration, .indexerDeclaration, .accessorDeclaration]

theorem declares_of_holdsPattern
    {scope : Node}
    {name : String}
    (sort : scope.kind ∈ patternScopes)
    (holds : HoldsPattern scope name) :
    Declares scope name := by
  simp only [patternScopes, List.mem_cons, List.not_mem_nil, or_false] at sort
  unfold Declares
  rcases sort with sort | sort | sort | sort | sort | sort | sort <;> rw [sort] <;>
    exact .inr holds

theorem not_declares_of_property
    {scope : Node}
    {name : String}
    (property : scope.kind = .propertyDeclaration) :
    ¬ Declares scope name := by
  rw [Declares, property]
  exact id

/--
A pattern with a named variable and some other part hides the members with that
name everywhere in the method, constructor, destructor, operator, indexer or
accessor that holds it, and references to the name there are never evidence.  A
property that holds it makes no difference: there the name is hidden only where
some other scope declares it.  A pattern that has no part but its variable
introduces nothing.
-/
theorem pattern_variable_hides_members_outside_properties
    (member : Site)
    (pattern identifier : Node)
    (sort : member.kind ∈ .propertyDeclaration :: patternScopes)
    (below : pattern ∈ member.node.subtree)
    (isPattern : pattern.kind ∈
      [.declarationExpression, .declarationPattern, .varPattern, .recursivePattern])
    (named : pattern.child? .name = some identifier)
    (bare : identifier.kind = .identifier) :
    (member.kind ≠ .propertyDeclaration → 2 ≤ pattern.namedChildren.length →
      ∀ site, Encloses member site →
        isShadowed identifier.text site = true ∧
        ∀ (kind : MemberKind) (tree : Tree) (reference : Site), reference ∈ tree.site.subtree →
          MemberAccess.RefersTo reference site → site.text = identifier.text →
            (MemberAccess.classifier kind).recordedAt tree reference = []) ∧
    (member.kind = .propertyDeclaration → ∀ site, Encloses member site →
      (isShadowed identifier.text site = true ↔
        DeclaredBeyond member site identifier.text)) ∧
    (pattern.namedChildren.length < 2 → ∀ name, introduces name pattern = false) := by
  refine ⟨fun noProperty compound site encloses => ?_, fun property site encloses => ?_,
    fun single name => ?_⟩
  · have holds : HoldsPattern member.node identifier.text :=
      ⟨pattern, below, identifier, ⟨isPattern, compound, .inl named, bare⟩, rfl⟩
    have isScope : member.kind ∈ patternScopes := List.mem_of_ne_of_mem noProperty sort
    have hidden : isShadowed identifier.text site = true :=
      (isShadowed_iff_declares_or_declaredBeyond encloses).mpr
        (.inl (declares_of_holdsPattern isScope holds))
    refine ⟨hidden, fun kind tree reference inside refers sameText => ?_⟩
    rw [← sameText] at hidden
    exact MemberAccess.recordedAt_of_isShadowed kind inside refers hidden
  · rw [isShadowed_iff_declares_or_declaredBeyond encloses]
    exact or_iff_right (not_declares_of_property property)
  · refine Bool.eq_false_iff.mpr fun introduced => ?_
    obtain ⟨other, designates, -⟩ := introduces_iff.mp introduced
    exact absurd designates.compound (Nat.not_le.mpr single)

/-- The clause `=> x is int n && U(n)`, from a number and an offset on. -/
def sampleClause (number start : Nat) : Node :=
  let node own kind field first last text children :=
    Node.rule (number + own) kind field (start + first) (start + last) text children
  let token own kind field first last text :=
    Node.token (number + own) kind field (start + first) (start + last) text
  node 0 .arrowExpressionClause (some .body) 0 21 "=> x is int n && U(n)" [
    token 1 .arrow none 0 2 "=>",
    node 2 (.other "binary_expression") none 3 21 "x is int n && U(n)" [
      node 3 (.other "is_pattern_expression") (some .left) 3 13 "x is int n" [
        node 4 .identifier (some .expression) 3 4 "x" [],
        token 5 (.other "is") none 5 7 "is",
        node 6 .declarationPattern (some (.other "pattern")) 8 13 "int n" [
          node 7 (.other "predefined_type") (some (.other "type")) 8 11 "int" [],
          node 8 .identifier (some .name) 12 13 "n" []]],
      token 9 (.other "&&") (some (.other "operator")) 14 16 "&&",
      node 10 .invocationExpression (some (.other "right")) 17 21 "U(n)" [
        node 11 .identifier (some .function) 17 18 "U" [],
        node 12 (.other "argument_list") (some (.other "arguments")) 18 21 "(n)" [
          token 13 (.other "(") none 18 19 "(",
          node 14 .argument none 19 20 "n" [
            node 15 .identifier none 19 20 "n" []],
          token 16 (.other ")") none 20 21 ")"]]]]

/-- The tree of a class with one clause as a property and as a method. -/
def sampleTree : Tree where
  source :=
    "class C \x7b int n; bool P => x is int n && U(n); bool M() => x is int n && U(n); \x7d"
  root :=
    let members :=
      "\x7b int n; bool P => x is int n && U(n); bool M() => x is int n && U(n); \x7d"
    .rule 0 .compilationUnit none 0 80 ("class C " ++ members) [
      .rule 1 .classDeclaration none 0 80 ("class C " ++ members) [
        .token 2 (.other "class") none 0 5 "class",
        .rule 3 .identifier (some .name) 6 7 "C" [],
        .rule 4 .declarationList (some .body) 8 80 members [
          .token 5 (.other "\x7b") none 8 9 "\x7b",
          .rule 6 .fieldDeclaration none 10 16 "int n;" [
            .rule 7 .variableDeclaration none 10 15 "int n" [
              .rule 8 (.other "predefined_type") (some (.other "type")) 10 13 "int" [],
              .rule 9 .variableDeclarator none 14 15 "n" [
                .rule 10 .identifier (some .name) 14 15 "n" []]],
            .token 11 (.other ";") none 15 16 ";"],
          .rule 12 .propertyDeclaration none 17 46 "bool P => x is int n && U(n);" [
            .rule 13 (.other "predefined_type") (some (.other "type")) 17 21 "bool" [],
            .rule 14 .identifier (some .name) 22 23 "P" [],
            sampleClause 15 24,
            .token 32 (.other ";") none 45 46 ";"],
          .rule 33 .methodDeclaration none 47 78 "bool M() => x is int n && U(n);" [
            .rule 34 (.other "predefined_type") (some (.other "returns")) 47 51 "bool" [],
            .rule 35 .identifier (some .name) 52 53 "M" [],
            .rule 36 .parameterList (some .parameters) 53 55 "()" [
              .token 37 (.other "(") none 53 54 "(",
              .token 38 (.other ")") none 54 55 ")"],
            sampleClause 39 56,
            .token 56 (.other ";") none 77 78 ";"],
          .token 57 (.other "\x7d") none 79 80 "\x7d"]]]
  distinct := by decide

theorem pattern_variable_hides_members_outside_properties_sample :
    let sites := sampleTree.site.subtree
    let method := sites.get ⟨33, by decide⟩
    let argument := sites.get ⟨54, by decide⟩
    method.kind = .methodDeclaration ∧ argument.text = "n" ∧ Encloses method argument ∧
      isShadowed "n" argument = true ∧
      (MemberAccess.classifier .field).recordedAt sampleTree argument = [] := by
  intro sites method argument
  have encloses : Encloses method argument := by
    rw [← mem_enclosing_iff]
    exact List.mem_of_getElem? (i := 5) rfl
  obtain ⟨hides, -⟩ := pattern_variable_hides_members_outside_properties method
    (sites.get ⟨45, by decide⟩).node (sites.get ⟨47, by decide⟩).node (by decide)
    (List.mem_of_getElem? (i := 12) rfl) (by decide) rfl rfl
  obtain ⟨hidden, silent⟩ := hides (by decide) (by decide) argument encloses
  exact ⟨rfl, rfl, encloses, hidden, silent .field sampleTree argument (List.get_mem _ _)
    (.bare rfl) rfl⟩

/-- The same clause as a property: the variable of its pattern does not hide the field, and its
use is taken for a bare access to the field. -/
theorem pattern_variable_of_property_is_visible :
    let sites := sampleTree.site.subtree
    let property := sites.get ⟨12, by decide⟩
    let pattern := (sites.get ⟨21, by decide⟩).node
    let argument := sites.get ⟨30, by decide⟩
    property.kind = .propertyDeclaration ∧ pattern ∈ property.node.subtree ∧
      pattern.kind = .declarationPattern ∧ pattern.namedChildren.length = 2 ∧
      (pattern.child? .name).map Node.text = some "n" ∧
      Encloses property argument ∧ argument.text = "n" ∧
      isShadowed "n" argument = false ∧
      (MemberAccess.classifier .field).recordedAt sampleTree argument = [.no] := by
  intro sites property pattern argument
  refine ⟨rfl, List.mem_of_getElem? (i := 9) rfl, rfl, rfl, rfl, ?_, rfl, ?_, ?_⟩
  · rw [← mem_enclosing_iff]
    exact List.mem_of_getElem? (i := 5) rfl
  · decide +kernel
  · decide +kernel

end Scope
end HouseStyle
