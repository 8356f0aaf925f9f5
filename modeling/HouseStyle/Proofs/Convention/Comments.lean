import HouseStyle.Proofs.Convention.Adjacency
import HouseStyle.Proofs.Scope.Comments

/-!
# Comments and the place of backing fields

A property is the same evidence with and without the comments of its file, as
long as none of them stands in its getter where an expression or a statement is
read by position.  There a comment counts as an expression or as a statement of
its own, and the property is no evidence at all.
-/

namespace HouseStyle

open Syntax

/-! ## Members -/

/-- A comment among the modifiers of a declaration is none of them. -/
theorem Modifiers.of_stripped (declaration : Node) :
    of declaration.stripped = of declaration := by
  rw [of, Node.children_stripped, of]
  apply Node.filterMap_strippedAll
  · intro child
    rw [Modifier.ofChild?, Node.kind_stripped, Node.text_stripped, Node.isNamed_stripped,
      Modifier.ofChild?]
  · intro child loose
    simp [Modifier.ofChild?, Node.kind_of_isLooseComment loose]

namespace Member

theorem ofNamed_stripped
    (declaration : Node)
    (kind : MemberKind)
    (name : String)
    (arity : Option Arity) :
    ofNamed declaration.stripped kind name arity = ofNamed declaration kind name arity := by
  simp [ofNamed, Modifiers.of_stripped]

/-- Only for the arity of methods is the text of a comment ever read. -/
theorem ofKind_stripped
    {kind : MemberKind}
    (noMethod : kind ≠ .method)
    (declaration : Node) :
    ofKind declaration.stripped kind = ofKind declaration kind := by
  unfold ofKind
  simp only [Node.kind_stripped, Declarator.names_stripped, ofNamed_stripped, Node.child?_stripped,
    noMethod, if_false]
  cases declaration.child? .name with
  | none => rfl
  | some name => simp only [Option.map_some, Node.text_stripped]

theorem kind_of_mem_ofKind
    {declaration : Node}
    {kind : MemberKind}
    {member : Member}
    (sort : MemberKind.ofDeclaration? declaration.kind = some kind)
    (present : member ∈ ofKind declaration kind) :
    member.kind = kind := by
  obtain ⟨name, -, rfl⟩ := (mem_ofKind_iff sort).mp present
  rfl

/-- A declaration brings in the same members that a name can mean when it is not called. -/
theorem filter_fits_ofDeclaration_stripped (declaration : Node) :
    ((ofDeclaration declaration.stripped).filter fun member => member.fits .value) =
      (ofDeclaration declaration).filter fun member => member.fits .value := by
  have explicit : declaration.stripped.hasChildOf .explicitInterfaceSpecifier =
      declaration.hasChildOf .explicitInterfaceSpecifier := by
    rw [Node.hasChildOf, Node.children_stripped, Node.hasChildOf]
    apply Node.any_strippedAll
    · intro child _
      rw [Node.kind_stripped]
    · intro child loose
      rw [Node.kind_of_isLooseComment loose]
      rfl
  unfold ofDeclaration
  rw [Node.kind_stripped, explicit]
  cases sort : MemberKind.ofDeclaration? declaration.kind with
  | none => rfl
  | some kind =>
      dsimp only
      split
      · rfl
      · by_cases isMethod : kind = .method
        · have called (node : Node) (same : node.kind = declaration.kind) :
              ((ofKind node kind).filter fun member => member.fits .value) = [] := by
            rw [← same] at sort
            refine List.filter_eq_nil_iff.mpr fun member present => ?_
            simp [fits, kind_of_mem_ofKind sort present, isMethod]
          rw [called _ declaration.kind_stripped, called _ rfl]
        · rw [ofKind_stripped isMethod]

/-- Comments do not change what a name can mean other than in a call. -/
theorem filter_fits_ofType_stripped (type : Node) :
    ((ofType type.stripped).filter fun member => member.fits .value) =
      (ofType type).filter fun member => member.fits .value := by
  unfold ofType
  rw [Node.child?_stripped]
  cases type.child? .body with
  | none => rfl
  | some body =>
      rw [Option.map_some]
      dsimp only
      rw [Node.namedChildren_stripped, List.filter_flatMap, List.filter_flatMap]
      refine Node.flatMap_strippedAll filter_fits_ofDeclaration_stripped ?_ body.namedChildren
      intro declaration loose
      rw [ofDeclaration, Node.kind_of_isLooseComment loose]
      rfl

/-- A name that is not called means the same member with and without comments. -/
theorem meant?_value_stripped
    (site : Site)
    (name : String) :
    meant? site.stripped name .value = meant? site name .value := by
  have resolved (type : Node) :
      resolve? name .value (ofType type.stripped) = resolve? name .value (ofType type) := by
    rw [resolve?, named, List.filter_comm, filter_fits_ofType_stripped, ← List.filter_comm]
    rfl
  rw [meant?, Site.enclosingType?_stripped, meant?]
  cases site.enclosingType? with
  | none => rfl
  | some type => exact resolved type.node

end Member

namespace Reference

theorem simpleName?_stripped (site : Site) :
    simpleName? site.stripped = (simpleName? site).map Site.stripped := by
  unfold simpleName?
  rw [Site.kind_stripped, Site.find?_kind_namedChildren_stripped (· == .identifier) rfl]
  split <;> rfl

/-- A comment inside `this.x` does not hide the name. -/
theorem afterThis?_stripped (site : Site) :
    afterThis? site.stripped = (afterThis? site).map Site.stripped := by
  unfold afterThis?
  rw [Site.kind_stripped, Site.child?_stripped, Site.child?_stripped]
  split
  · cases site.child? .expression with
    | none => rfl
    | some receiver =>
        have same : isThis receiver.stripped.node = isThis receiver.node := by
          rw [isThis, Site.stripped, Node.kind_stripped, isThis]
        rw [Option.map_some]
        dsimp only
        rw [same]
        cases isThis receiver.node with
        | false => rfl
        | true =>
            cases site.child? .name with
            | none => rfl
            | some name => exact simpleName?_stripped name
  · rfl

/-- The member before a node is found past all comments. -/
theorem previousMember?_stripped (site : Site) :
    previousMember? site.stripped = (previousMember? site).map Node.stripped := by
  rw [previousMember?, Site.earlierNamed_stripped]
  exact Node.find?_kind_strippedAll (fun kind => kind != .comment && !kind.isPreprocessor) rfl _

end Reference

namespace BackingField

/-! ## Comments in a getter -/

/-- The first named child of a site is a loose comment. -/
def StartsWithComment (site : Site) : Prop :=
  ∃ comment, site.namedChildren.head? = some comment ∧ comment.node.isLooseComment = true

/-- A loose comment stands in a body where it is taken for an expression or a statement. -/
inductive BodyIsInterrupted (body : Site) : Prop
  /-- It comes first in an arrow. -/
  | arrow
      (isArrow : body.kind = .arrowExpressionClause)
      (starts : StartsWithComment body)
  /-- It stands among the statements of a block. -/
  | block
      {comment : Site}
      (isBlock : body.kind = .block)
      (present : comment ∈ body.namedChildren)
      (loose : comment.node.isLooseComment = true)
  /-- It comes first in the only statement of a block, which returns. -/
  | statement
      {statement : Site}
      (isBlock : body.kind = .block)
      (only : body.namedChildren = [statement])
      (isReturn : statement.kind = .returnStatement)
      (starts : StartsWithComment statement)

/-- A loose comment stands in the getter of a property where it is taken for an expression or a
statement. -/
inductive IsInterrupted (property : Site) : Prop
  /-- The property is an arrow. -/
  | arrow
      {clause : Site}
      (first : IsFirstWith (fun child => child.kind = .arrowExpressionClause)
        property.namedChildren clause)
      (starts : StartsWithComment clause)
  /-- The property has a getter of its own. -/
  | getter
      {body : Site}
      (isBody : IsGetterBody property body)
      (interrupted : BodyIsInterrupted body)

theorem getterExpression?_of_isGetterBody
    {property body : Site}
    (isBody : IsGetterBody property body) :
    getterExpression? property = returned? body := by
  have noArrow := firstOf?_eq_none_iff.mpr isBody.1
  rw [getterExpression?, noArrow]
  dsimp only
  rw [(bind_body?_eq_some_iff noArrow).mpr isBody, Option.bind_some]

theorem fieldName?_of_isLooseComment
    {comment : Site}
    (loose : comment.node.isLooseComment = true) :
    fieldName? comment = none := by
  have isComment : comment.kind = .comment := Node.kind_of_isLooseComment loose
  rw [fieldName?, isComment]

/-- A comment that comes first is taken for the expression, and it names no field. -/
theorem bind_fieldName?_of_startsWithComment
    {site : Site}
    (starts : StartsWithComment site) :
    (firstNamed? site).bind fieldName? = none := by
  obtain ⟨comment, head, loose⟩ := starts
  rw [firstNamed?, head, Option.bind_some, fieldName?_of_isLooseComment loose]

/-- A body with a comment in the way of what it returns names no field. -/
theorem bind_fieldName?_of_bodyIsInterrupted
    {body : Site}
    (interrupted : BodyIsInterrupted body) :
    (returned? body).bind fieldName? = none := by
  unfold returned?
  cases interrupted with
  | arrow isArrow starts =>
      rw [isArrow]
      exact bind_fieldName?_of_startsWithComment starts
  | @block comment isBlock present loose =>
      rw [isBlock]
      dsimp only
      split
      · rename_i statement only
        -- The comment is the only statement, and it returns nothing.
        rw [only, List.mem_singleton] at present
        subst present
        have noReturn : comment.kind ≠ .returnStatement := by
          intro isReturn
          cases isReturn.symm.trans (Node.kind_of_isLooseComment loose)
        rw [if_neg noReturn, Option.bind_none]
      · rfl
  | statement isBlock only isReturn starts =>
      rw [isBlock, only]
      dsimp only
      rw [if_pos isReturn]
      exact bind_fieldName?_of_startsWithComment starts

/-- An interrupted getter does not return a name. -/
theorem returnedName?_of_isInterrupted
    {property : Site}
    (interrupted : IsInterrupted property) :
    returnedName? property = none := by
  rw [returnedName?]
  cases interrupted with
  | arrow first starts =>
      rw [getterExpression?, firstOf?_eq_some_iff.mpr first]
      exact bind_fieldName?_of_startsWithComment starts
  | getter isBody interrupted =>
      rw [getterExpression?_of_isGetterBody isBody]
      exact bind_fieldName?_of_bodyIsInterrupted interrupted

/-! ## Getters without comments -/

theorem firstOf?_stripped
    {kind : Kind}
    (other : kind ≠ .comment)
    (site : Site) :
    firstOf? kind site.stripped = (firstOf? kind site).map Site.stripped :=
  Site.find?_kind_namedChildren_stripped (· == kind) (beq_false_of_ne other.symm) site

theorem accessors?_stripped (property : Site) :
    accessors? property.stripped = (accessors? property).map Site.stripped := by
  rw [accessors?, Site.child?_stripped, firstOf?_stripped (by decide), ← Option.map_or, accessors?]

theorem getter?_stripped (accessors : Site) :
    getter? accessors.stripped = (getter? accessors).map Site.stripped := by
  refine Site.find?_namedChildren_stripped ?_ ?_ accessors
  · intro accessor
    rw [Site.kind_stripped, Site.stripped, Accessor.ofDeclaration?_stripped]
  · intro accessor loose
    have isComment : accessor.kind = .comment := Node.kind_of_isLooseComment loose
    rw [isComment]
    rfl

theorem body?_stripped (getter : Site) :
    body? getter.stripped = (body? getter).map Site.stripped := by
  rw [body?, Site.child?_stripped,
    Site.find?_kind_namedChildren_stripped
      (fun kind => kind == .block || kind == .arrowExpressionClause) rfl,
    ← Option.map_or, body?]

theorem fieldName?_stripped (expression : Site) :
    fieldName? expression.stripped = (fieldName? expression).map Site.stripped := by
  unfold fieldName?
  rw [Site.kind_stripped]
  split
  · rfl
  · exact Reference.afterThis?_stripped expression
  · rfl

/-- The first named child stays the first unless a comment stands before it. -/
theorem firstNamed?_stripped
    {site : Site}
    (starts : ¬ StartsWithComment site) :
    firstNamed? site.stripped = (firstNamed? site).map Site.stripped := by
  rw [firstNamed?, Site.namedChildren_stripped, firstNamed?]
  cases children : site.namedChildren with
  | nil => rfl
  | cons first rest =>
      have kept : first.node.isLooseComment = false := by
        refine Bool.eq_false_iff.mpr fun loose => starts ⟨first, ?_, loose⟩
        rw [children, List.head?_cons]
      rw [List.filter_cons_of_pos (by rw [kept]; rfl)]
      rfl

/-- A body that no comment interrupts returns the same without comments. -/
theorem returned?_stripped
    {body : Site}
    (uninterrupted : ¬ BodyIsInterrupted body) :
    returned? body.stripped = (returned? body).map Site.stripped := by
  unfold returned?
  rw [Site.kind_stripped]
  split
  · rename_i isArrow
    exact firstNamed?_stripped fun starts => uninterrupted (.arrow isArrow starts)
  · rename_i isBlock
    have kept : (body.namedChildren.filter fun child => !child.node.isLooseComment) =
        body.namedChildren := by
      refine List.filter_eq_self.mpr fun child present => ?_
      rw [Bool.not_eq_true', Bool.eq_false_iff]
      exact fun loose => uninterrupted (.block isBlock present loose)
    rw [Site.namedChildren_stripped, kept]
    match statements : body.namedChildren with
    | [] => rfl
    | [statement] =>
        rw [List.map_cons, List.map_nil]
        dsimp only
        rw [Site.kind_stripped]
        split
        · rename_i isReturn
          exact firstNamed?_stripped fun starts =>
            uninterrupted (.statement isBlock statements isReturn starts)
        · rfl
    | _ :: _ :: _ => rfl
  · rfl

theorem getterExpression?_stripped
    {property : Site}
    (uninterrupted : ¬ IsInterrupted property) :
    getterExpression? property.stripped = (getterExpression? property).map Site.stripped := by
  unfold getterExpression?
  rw [firstOf?_stripped (by decide)]
  cases clause : firstOf? .arrowExpressionClause property with
  | some arrow =>
      exact firstNamed?_stripped fun starts =>
        uninterrupted (.arrow (firstOf?_eq_some_iff.mp clause) starts)
  | none =>
      have getters : (accessors? property.stripped).bind getter? =
          ((accessors? property).bind getter?).map Site.stripped := by
        rw [accessors?_stripped]
        cases accessors? property with
        | none => rfl
        | some accessors => exact getter?_stripped accessors
      have bodies : ((accessors? property.stripped).bind getter?).bind body? =
          (((accessors? property).bind getter?).bind body?).map Site.stripped := by
        rw [getters]
        cases (accessors? property).bind getter? with
        | none => rfl
        | some getter => exact body?_stripped getter
      rw [Option.map_none]
      dsimp only
      rw [bodies]
      cases found : ((accessors? property).bind getter?).bind body? with
      | none => rfl
      | some body =>
          have isBody := (bind_body?_eq_some_iff clause).mp found
          exact returned?_stripped fun interrupted => uninterrupted (.getter isBody interrupted)

/-- A property that no comment interrupts returns the same name without comments. -/
theorem returnedName?_stripped
    {property : Site}
    (uninterrupted : ¬ IsInterrupted property) :
    returnedName? property.stripped = (returnedName? property).map Site.stripped := by
  rw [returnedName?, getterExpression?_stripped uninterrupted, returnedName?]
  cases getterExpression? property with
  | none => rfl
  | some expression => exact fieldName?_stripped expression

/-! ## The evidence in a property -/

/-- Comments between a field and its property do not separate them. -/
theorem observeField_stripped
    (source : String)
    (property : Site)
    (field : Member) :
    observeField source property.stripped field = observeField source property field := by
  unfold observeField
  rw [Reference.previousMember?_stripped, Site.stripped, Node.start_stripped]
  cases Reference.previousMember? property with
  | none => rfl
  | some sibling => simp

/-- A property that no comment interrupts leaves the same evidence without comments. -/
theorem evidence_stripped
    {property : Site}
    (source : String)
    (uninterrupted : ¬ IsInterrupted property)
    (plain : ∀ name, returnedName? property = some name →
      ∀ scope ∈ Scope.enclosing name, Scope.searchesPatterns scope.kind = true →
        Scope.HoldsPlainPatterns scope.node) :
    evidence source property.stripped = evidence source property := by
  unfold evidence
  rw [returnedName?_stripped uninterrupted]
  cases returned : returnedName? property with
  | none => rfl
  | some name =>
      simp only [Option.map_some, Site.text_stripped, Member.meant?_value_stripped,
        Scope.isShadowed_stripped name.text (plain name returned), observeField_stripped]

/-- A property that a comment interrupts leaves no evidence. -/
theorem evidence_of_isInterrupted
    {property : Site}
    (source : String)
    (interrupted : IsInterrupted property) :
    evidence source property = [] := by
  rw [evidence, returnedName?_of_isInterrupted interrupted]

/-- A walk comes to the same nodes without comments. -/
theorem mem_reached_stripped_iff
    {tree : Tree}
    {site : Site}
    (inside : site ∈ tree.site.subtree)
    (kept : site.node.isLooseComment = false) :
    site.stripped ∈ classifier.reached tree.stripped ↔ site ∈ classifier.reached tree := by
  rw [mem_reached_iff (Tree.mem_subtree_stripped inside kept), mem_reached_iff inside,
    Site.ancestors_stripped]
  simp [Site.stripped, Site.kind]

/-- A walk that comes to a property records the evidence in it. -/
theorem recordedAt_of_property
    {tree : Tree}
    {property : Site}
    (visited : property ∈ classifier.reached tree)
    (isProperty : property.kind = .propertyDeclaration) :
    classifier.recordedAt tree property = evidence tree.source property := by
  have inside := Classifier.ReadsLocally.mem_subtree_of_mem_reached visited
  rw [(readsLocally tree).recordedAt_of_mem_reached visited, classifier_evidence inside,
    if_pos isProperty]

/--
A walk records the same at a property with and without the comments of the
tree, unless a comment stands in the getter where it is taken for an expression
or a statement; at such a property it records nothing.  Set aside are comments in
patterns below a scope around the returned name that is searched for patterns; in
a class this is at most the getter itself.
-/
theorem comments_count_only_inside_getters
    (tree : Tree)
    (property : Site)
    (inside : property ∈ tree.site.subtree)
    (isProperty : property.kind = .propertyDeclaration) :
    (¬ IsInterrupted property →
      (∀ name, returnedName? property = some name →
        ∀ scope ∈ Scope.enclosing name, Scope.searchesPatterns scope.kind = true →
          Scope.HoldsPlainPatterns scope.node) →
      classifier.recordedAt tree.stripped property.stripped =
        classifier.recordedAt tree property) ∧
      (IsInterrupted property → classifier.recordedAt tree property = []) := by
  have kept : property.node.isLooseComment = false := by
    refine Node.isLooseComment_of_kind fun isComment => ?_
    cases isProperty.symm.trans isComment
  have strippedInside := Tree.mem_subtree_stripped inside kept
  have sameReach := mem_reached_stripped_iff inside kept
  by_cases visited : property ∈ classifier.reached tree
  · rw [recordedAt_of_property visited isProperty,
      recordedAt_of_property (sameReach.mpr visited) (property.kind_stripped.trans isProperty)]
    exact ⟨evidence_stripped tree.source, evidence_of_isInterrupted tree.source⟩
  · rw [(readsLocally tree).recordedAt_of_not_mem_reached inside visited,
      (readsLocally tree.stripped).recordedAt_of_not_mem_reached strippedInside
        fun found => visited (sameReach.mp found)]
    exact ⟨fun _ _ => rfl, fun _ => rfl⟩

/-- The tree of a class with two properties of one field.  There are comments after the name of
the field, before the first property, after the name that it returns, after the statement with
which the second property returns, and in a pattern of a method. -/
def commentedTree : Tree where
  source :=
    "class C \x7b int a /* 1 */; /* 2 */ int A \x7b get \x7b return a /* 3 */; \x7d \x7d " ++
      "int B \x7b get \x7b return a; /* 4 */ \x7d \x7d " ++
      "void M(object o) \x7b if (o is int /* 5 */ b) \x7b \x7d \x7d \x7d"
  root :=
    .rule 0 .classDeclaration none 0 155 "" [
      .rule 1 .declarationList (some .body) 8 155 "" [
        .rule 2 .fieldDeclaration none 10 24 "int a /* 1 */;" [
          .rule 3 .variableDeclaration none 10 15 "int a" [
            .rule 4 .variableDeclarator none 14 15 "a" [
              .rule 5 .identifier (some .name) 14 15 "a" []]],
          .rule 6 .comment none 16 23 "/* 1 */" []],
        .rule 7 .comment none 25 32 "/* 2 */" [],
        .rule 8 .propertyDeclaration none 33 68 "" [
          .rule 9 .identifier (some .name) 37 38 "A" [],
          .rule 10 .accessorList (some .accessors) 39 68 "" [
            .rule 11 .accessorDeclaration none 41 66 "" [
              .token 12 .getKeyword (some .name) 41 44 "get",
              .rule 13 .block (some .body) 45 66 "" [
                .rule 14 .returnStatement none 47 64 "return a /* 3 */;" [
                  .rule 15 .identifier none 54 55 "a" [],
                  .rule 16 .comment none 56 63 "/* 3 */" []]]]]],
        .rule 17 .propertyDeclaration none 69 104 "" [
          .rule 18 .identifier (some .name) 73 74 "B" [],
          .rule 19 .accessorList (some .accessors) 75 104 "" [
            .rule 20 .accessorDeclaration none 77 102 "" [
              .token 21 .getKeyword (some .name) 77 80 "get",
              .rule 22 .block (some .body) 81 102 "" [
                .rule 23 .returnStatement none 83 92 "return a;" [
                  .rule 24 .identifier none 90 91 "a" []],
                .rule 25 .comment none 93 100 "/* 4 */" []]]]],
        .rule 26 .methodDeclaration none 105 153 "" [
          .rule 27 .identifier (some .name) 110 111 "M" [],
          .rule 28 .block (some .body) 122 153 "" [
            .rule 29 (.other "is_pattern_expression") none 128 146 "o is int /* 5 */ b" [
              .rule 30 .declarationPattern none 133 146 "int /* 5 */ b" [
                .rule 31 (.other "predefined_type") none 133 136 "int" [],
                .rule 32 .comment none 137 144 "/* 5 */" [],
                .rule 33 .identifier (some .name) 145 146 "b" []]]]]]]
  distinct := by decide

theorem comments_count_only_inside_getters_sample :
    let property := commentedTree.site.subtree.get ⟨8, by decide⟩
    ¬ Scope.HoldsPlainPatterns commentedTree.root ∧ ¬ IsInterrupted property ∧
      classifier.recordedAt commentedTree property = [.yes (some false)] ∧
      classifier.recordedAt commentedTree.stripped property.stripped = [.yes (some false)] := by
  intro property
  have returned : returnedName? property =
      some (commentedTree.site.subtree.get ⟨15, by decide⟩) := rfl
  have uninterrupted : ¬ IsInterrupted property := by
    intro interrupted
    cases returned.symm.trans (returnedName?_of_isInterrupted interrupted)
  have recorded : classifier.recordedAt commentedTree property = [.yes (some false)] := by
    decide +kernel
  refine ⟨by decide +kernel, uninterrupted, recorded, ?_⟩
  rw [← recorded]
  refine (comments_count_only_inside_getters commentedTree property (List.get_mem _ _) rfl).1
    uninterrupted ?_
  intro name found
  obtain rfl := Option.some.inj (returned.symm.trans found)
  decide +kernel

/-- A comment after the only statement of a getter keeps its property from being evidence. -/
theorem comment_after_return_hides_evidence :
    let property := commentedTree.site.subtree.get ⟨17, by decide⟩
    property.kind = .propertyDeclaration ∧
      classifier.recordedAt commentedTree property = [] ∧
      classifier.recordedAt commentedTree.stripped property.stripped = [.no] := by
  intro property
  refine ⟨rfl, ?_, ?_⟩
  · decide +kernel
  · decide +kernel

end BackingField
end HouseStyle
