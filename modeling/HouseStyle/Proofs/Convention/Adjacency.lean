import HouseStyle.Proofs.Convention.Qualification
import HouseStyle.Proofs.Member.Denotation
import HouseStyle.Proofs.Text.BlankLines

/-!
# What counts as evidence for the place of backing fields

A property is evidence exactly if its getter does nothing but return a field of
the enclosing type, in one of three shapes, and no walk is kept away from it.
The evidence is positive if the declaration of that very field is the member
right before the property.  The shapes, the field and the member before are
described here on their own, by the places of nodes in the tree.
-/

namespace HouseStyle
namespace BackingField

open Syntax

/-! ## The expression that a getter returns -/

/-- A site is the first one of a list with a property. -/
def IsFirstWith
    (wanted : Site → Prop)
    (sites : List Site)
    (site : Site) : Prop :=
  ∃ before after, sites = before ++ site :: after ∧ wanted site ∧ ∀ other ∈ before, ¬ wanted other

/-- The list of the accessors of a property, by its label or else the first one there is. -/
def IsAccessorList (property list : Site) : Prop :=
  property.child? .accessors = some list ∨
    property.child? .accessors = none ∧
      IsFirstWith (fun child => child.kind = .accessorList) property.namedChildren list

/-- A site is an accessor with the keyword `get`. -/
def ReadsValue (accessor : Site) : Prop :=
  accessor.kind = .accessorDeclaration ∧
    ∃ token, Accessor.IsKeywordOf accessor.node token ∧ token.kind = .getKeyword

/-- The body of an accessor, by its label or else the first block or arrow there is. -/
def IsBodyOf (accessor body : Site) : Prop :=
  accessor.child? .body = some body ∨
    accessor.child? .body = none ∧
      IsFirstWith (fun child => child.kind = .block ∨ child.kind = .arrowExpressionClause)
        accessor.namedChildren body

/-- The body of the first accessor of a property that reads its value.  It counts only for a
property without an arrow of its own. -/
def IsGetterBody (property body : Site) : Prop :=
  (∀ child ∈ property.namedChildren, child.kind ≠ .arrowExpressionClause) ∧
    ∃ list accessor, IsAccessorList property list ∧
      IsFirstWith ReadsValue list.namedChildren accessor ∧ IsBodyOf accessor body

/-- The getter of a property does nothing but return an expression. -/
inductive Returns (property expression : Site) : Prop
  /-- The property is an arrow with the expression. -/
  | arrow
      {clause : Site}
      (first : IsFirstWith (fun child => child.kind = .arrowExpressionClause)
        property.namedChildren clause)
      (head : clause.namedChildren.head? = some expression)
  /-- The getter is an arrow with the expression. -/
  | getterArrow
      {clause : Site}
      (body : IsGetterBody property clause)
      (isArrow : clause.kind = .arrowExpressionClause)
      (head : clause.namedChildren.head? = some expression)
  /-- The getter is a block with a statement that returns the expression, and with nothing else. -/
  | block
      {block statement : Site}
      (body : IsGetterBody property block)
      (isBlock : block.kind = .block)
      (only : block.namedChildren = [statement])
      (isReturn : statement.kind = .returnStatement)
      (head : statement.namedChildren.head? = some expression)

theorem find?_eq_some_iff_isFirstWith
    {test : Site → Bool}
    {wanted : Site → Prop}
    {sites : List Site}
    {site : Site}
    (tests : ∀ other, test other = true ↔ wanted other) :
    sites.find? test = some site ↔ IsFirstWith wanted sites site := by
  simp only [List.find?_eq_some_iff_append, IsFirstWith, tests, Bool.not_eq_true',
    ← Bool.not_eq_true]
  constructor
  · rintro ⟨isWanted, before, after, split, others⟩
    exact ⟨before, after, split, isWanted, others⟩
  · rintro ⟨before, after, split, isWanted, others⟩
    exact ⟨isWanted, before, after, split, others⟩

theorem firstOf?_eq_some_iff
    {kind : Kind}
    {site child : Site} :
    firstOf? kind site = some child ↔
      IsFirstWith (fun child => child.kind = kind) site.namedChildren child :=
  find?_eq_some_iff_isFirstWith fun _ => beq_iff_eq

/-- The accessors of a property are found under their label or else by their kind. -/
theorem accessors?_eq_some_iff {property list : Site} :
    accessors? property = some list ↔ IsAccessorList property list := by
  rw [accessors?, Option.or_eq_some_iff, firstOf?_eq_some_iff, IsAccessorList]

theorem readsValue_iff {accessor : Site} :
    (accessor.kind == .accessorDeclaration &&
        Accessor.ofDeclaration? accessor.node == some .get) = true ↔ ReadsValue accessor := by
  have getter (kind : Kind) : Accessor.ofKind? kind = some .get ↔ kind = .getKeyword := by
    cases kind <;> simp [Accessor.ofKind?]
  rw [Bool.and_eq_true, beq_iff_eq, beq_iff_eq, Accessor.ofDeclaration?_eq_some_iff]
  simp only [getter, ReadsValue]

/-- Of several getters the first one counts. -/
theorem getter?_eq_some_iff {list accessor : Site} :
    getter? list = some accessor ↔ IsFirstWith ReadsValue list.namedChildren accessor :=
  find?_eq_some_iff_isFirstWith fun _ => readsValue_iff

/-- The body of an accessor is found under its label or else as its first block or arrow. -/
theorem body?_eq_some_iff {accessor body : Site} :
    body? accessor = some body ↔ IsBodyOf accessor body := by
  rw [body?, Option.or_eq_some_iff, IsBodyOf, find?_eq_some_iff_isFirstWith]
  intro child
  rw [Bool.or_eq_true, beq_iff_eq, beq_iff_eq]

theorem firstOf?_eq_none_iff
    {kind : Kind}
    {site : Site} :
    firstOf? kind site = none ↔ ∀ child ∈ site.namedChildren, child.kind ≠ kind := by
  simp [firstOf?]

/-- Without an arrow of its own, a property is read through the body of its getter. -/
theorem bind_body?_eq_some_iff
    {property body : Site}
    (noArrow : firstOf? .arrowExpressionClause property = none) :
    ((accessors? property).bind getter?).bind body? = some body ↔ IsGetterBody property body := by
  simp only [Option.bind_eq_some_iff, accessors?_eq_some_iff, getter?_eq_some_iff,
    body?_eq_some_iff, IsGetterBody, and_iff_right (firstOf?_eq_none_iff.mp noArrow)]
  constructor
  · rintro ⟨accessor, ⟨list, isList, first⟩, isBody⟩
    exact ⟨list, accessor, isList, first, isBody⟩
  · rintro ⟨list, accessor, isList, first, isBody⟩
    exact ⟨accessor, ⟨list, isList, first⟩, isBody⟩

/-- A body returns an expression if it is an arrow or a block of a single `return`. -/
theorem returned?_eq_some_iff {body expression : Site} :
    returned? body = some expression ↔
      body.kind = .arrowExpressionClause ∧ body.namedChildren.head? = some expression ∨
        body.kind = .block ∧ ∃ statement, body.namedChildren = [statement] ∧
          statement.kind = .returnStatement ∧
          statement.namedChildren.head? = some expression := by
  unfold returned? firstNamed?
  split
  · rename_i isArrow
    simp [isArrow]
  · rename_i isBlock
    simp only [isBlock, reduceCtorEq, false_and, true_and, false_or]
    split
    · rename_i statement only
      simp [only, eq_comm]
    · rename_i several
      constructor
      · intro found
        cases found
      · rintro ⟨statement, only, -⟩
        exact absurd only (several statement)
  · rename_i noArrow noBlock
    constructor
    · intro found
      cases found
    · rintro (⟨isArrow, -⟩ | ⟨isBlock, -⟩)
      · exact absurd isArrow noArrow
      · exact absurd isBlock noBlock

/-- The search finds exactly the expression that a property returns. -/
theorem getterExpression?_eq_some_iff {property expression : Site} :
    getterExpression? property = some expression ↔ Returns property expression := by
  unfold getterExpression?
  split
  · rename_i clause found
    have first := firstOf?_eq_some_iff.mp found
    -- A property with an arrow has no getter that counts, so only the first shape is left.
    have isArrow := List.find?_some found
    have present := List.mem_of_find?_eq_some found
    constructor
    · exact .arrow first
    · rintro (⟨otherFirst, head⟩ | ⟨⟨noArrow, -⟩, -⟩ | ⟨⟨noArrow, -⟩, -⟩)
      · obtain rfl := Option.some.inj (found.symm.trans (firstOf?_eq_some_iff.mpr otherFirst))
        exact head
      · exact absurd (beq_iff_eq.mp isArrow) (noArrow clause present)
      · exact absurd (beq_iff_eq.mp isArrow) (noArrow clause present)
  · rename_i noArrow
    rw [Option.bind_eq_some_iff]
    simp only [bind_body?_eq_some_iff noArrow, returned?_eq_some_iff]
    constructor
    · rintro ⟨body, isBody, ⟨isArrow, head⟩ | ⟨isBlock, statement, only, isReturn, head⟩⟩
      · exact .getterArrow isBody isArrow head
      · exact .block isBody isBlock only isReturn head
    · rintro (⟨first, -⟩ | ⟨isBody, isArrow, head⟩ | ⟨isBody, isBlock, only, isReturn, head⟩)
      · cases noArrow.symm.trans (firstOf?_eq_some_iff.mpr first)
      · exact ⟨_, isBody, .inl ⟨isArrow, head⟩⟩
      · exact ⟨_, isBody, .inr ⟨isBlock, _, only, isReturn, head⟩⟩

/-! ## The field that a getter returns -/

/-- An expression is a plain name, or a name after `this.`, there with or without type
arguments. -/
def IsPlainName (expression name : Site) : Prop :=
  expression.kind = .identifier ∧ name = expression ∨ Reference.IsThisAccess expression name

/-- A field is named plainly or behind `this.`. -/
theorem fieldName?_eq_some_iff {expression name : Site} :
    fieldName? expression = some name ↔ IsPlainName expression name := by
  rw [IsPlainName, ← Reference.afterThis?_eq_some_iff]
  unfold fieldName?
  split
  · rename_i isName
    simp [isName, Reference.afterThis?, eq_comm]
  · rename_i isAccess
    simp [isAccess]
  · rename_i noName noAccess
    simp only [Reference.afterThis?_eq_none noAccess, reduceCtorEq, or_false, false_iff]
    rintro ⟨isName, -⟩
    exact noName isName

/-- The getter of a property does nothing but return the field that a declaration declares: the
expression is a name that nothing local hides, and of the members of the nearest enclosing type
that are no methods only a field of that declaration has the name. -/
inductive Backs (property declaration : Site) : Prop
  | intro
      {expression name type : Site}
      {field : Member}
      (returns : Returns property expression)
      (plain : IsPlainName expression name)
      (nonempty : name.text ≠ "")
      (visible : Scope.isShadowed name.text name = false)
      (enclosing : name.enclosingType? = some type)
      (only : Member.IsOnly (Member.ofType type.node)
        (fun member => member.name = name.text ∧ member.kind ≠ .method) field)
      (isField : field.kind = .field)
      (holds : Member.HoldsDirectly type declaration)
      (entry : Member.IsEntryOf declaration.node field)

/-- The member right before a property: the nearest node before it, tokens apart, that is neither
a comment nor a preprocessor line. -/
def IsMemberBefore (property : Site) (sibling : Node) : Prop :=
  ∃ nearer further, property.earlierNamed = nearer ++ sibling :: further ∧
    sibling.kind ≠ .comment ∧ sibling.kind.isPreprocessor = false ∧
    ∀ other ∈ nearer, other.kind = .comment ∨ other.kind.isPreprocessor = true

/-- A blank line stands strictly inside the text between two nodes. -/
def IsSetApart
    (source : String)
    (declaration property : Node) : Prop :=
  ∃ gap, Text.slice? source.toList declaration.stop property.start = some gap ∧
    Text.HoldsBlankLine gap

/-- The evidence in a property whose getter returns a field. -/
inductive IsEvidence (source : String) (property : Site) : Observation Detail → Prop
  /-- The field is declared right before the property. -/
  | adjacent
      {declaration : Site}
      {detail : Bool}
      (backs : Backs property declaration)
      (before : IsMemberBefore property declaration.node)
      (blank : detail = true ↔ IsSetApart source declaration.node property.node) :
      IsEvidence source property (.yes (some detail))
  /-- The field is declared anywhere else. -/
  | apart
      {declaration : Site}
      (backs : Backs property declaration)
      (elsewhere : ¬ IsMemberBefore property declaration.node) :
      IsEvidence source property .no

/-- Comments and preprocessor lines do not come between a property and the member before it. -/
theorem previousMember?_eq_some_iff
    {property : Site}
    {sibling : Node} :
    Reference.previousMember? property = some sibling ↔ IsMemberBefore property sibling := by
  rw [Reference.previousMember?, List.find?_eq_some_iff_append, IsMemberBefore]
  simp only [Bool.and_eq_true, bne_iff_ne, ne_eq, Bool.not_eq_true', Bool.not_and,
    Bool.or_eq_true, bne_eq_false_iff_eq, Bool.not_not]
  constructor
  · rintro ⟨⟨noComment, noLine⟩, nearer, further, split, others⟩
    exact ⟨nearer, further, split, noComment, noLine, others⟩
  · rintro ⟨nearer, further, split, noComment, noLine, others⟩
    exact ⟨⟨noComment, noLine⟩, nearer, further, split, others⟩

/-! ## The evidence in a property -/

/-- Of the nodes of a tree, the one before a property is told by its number. -/
theorem any_previousMember?_iff
    {tree : Tree}
    {property : Site}
    {declaration : Node}
    (inside : property ∈ tree.site.subtree)
    (declarationInside : declaration ∈ tree.root.subtree) :
    ((Reference.previousMember? property).any fun sibling =>
        sibling.number == declaration.number) = true ↔
      IsMemberBefore property declaration := by
  rw [← previousMember?_eq_some_iff, Option.any_eq_true]
  constructor
  · rintro ⟨sibling, previous, same⟩
    have before : sibling ∈ property.earlierSiblings :=
      (List.mem_filter.mp (List.mem_of_find?_eq_some previous)).1
    have siblingInside := Tree.mem_subtree_of_mem_earlierSiblings inside before
    obtain rfl := Tree.node_eq_of_number_eq siblingInside declarationInside (beq_iff_eq.mp same)
    exact previous
  · intro previous
    exact ⟨declaration, previous, beq_self_eq_true _⟩

/-- What a field is evidence for, by the node that declares it. -/
theorem observeField_eq_iff
    {tree : Tree}
    {property declaration : Site}
    {field : Member}
    {observation : Observation Detail}
    (source : String)
    (inside : property ∈ tree.site.subtree)
    (declarationInside : declaration ∈ tree.site.subtree)
    (entry : Member.IsEntryOf declaration.node field) :
    observeField source property field = observation ↔
      IsMemberBefore property declaration.node ∧
          (∃ detail, .yes (some detail) = observation ∧
            (detail = true ↔ IsSetApart source declaration.node property.node)) ∨
        ¬ IsMemberBefore property declaration.node ∧ .no = observation := by
  have stop : field.stop = declaration.node.stop := by
    rw [entry.reads]
    rfl
  have isBefore := any_previousMember?_iff inside (Tree.node_mem_subtree declarationInside)
  unfold observeField
  rw [← entry.number_eq, stop, ← isBefore]
  split
  · rename_i before
    simp only [before, true_and, not_true_eq_false, false_and, or_false]
    constructor
    · intro same
      exact ⟨_, same, blankLineBetween_iff⟩
    · rintro ⟨detail, same, blank⟩
      rw [← same]
      have details := Bool.eq_iff_iff.mpr (blankLineBetween_iff.trans blank.symm)
      exact congrArg (fun detail => Observation.yes (some detail)) details
  · rename_i elsewhere
    simp only [elsewhere, Bool.false_eq_true, false_and, not_false_eq_true, true_and, false_or]

theorem returnedName?_eq_some_iff {property name : Site} :
    returnedName? property = some name ↔
      ∃ expression, Returns property expression ∧ IsPlainName expression name := by
  simp only [returnedName?, Option.bind_eq_some_iff, getterExpression?_eq_some_iff,
    fieldName?_eq_some_iff]

/-- A property leaves an observation exactly if it returns a name that nothing local hides and
that means a field. -/
theorem evidence_eq_singleton_iff_observeField
    {source : String}
    {property : Site}
    {observation : Observation Detail} :
    evidence source property = [observation] ↔
      ∃ name field, returnedName? property = some name ∧ name.text ≠ "" ∧
        Scope.isShadowed name.text name = false ∧
        Member.meant? name name.text .value = some field ∧ field.kind = .field ∧
        observeField source property field = observation := by
  unfold evidence
  constructor
  · intro recorded
    split at recorded
    · cases recorded
    · rename_i name returned
      split at recorded
      · cases recorded
      · rename_i counts
        simp only [Bool.or_eq_true, decide_eq_true_eq, not_or, Bool.not_eq_true] at counts
        split at recorded
        · cases recorded
        · rename_i field meant
          split at recorded
          · rename_i isField
            exact ⟨name, field, returned, counts.1, counts.2, meant, isField,
              List.singleton_inj.mp recorded⟩
          · cases recorded
  · rintro ⟨name, field, returned, nonempty, visible, meant, isField, rfl⟩
    simp [returned, nonempty, visible, meant, isField]

theorem returnedName?_mem_subtree
    {tree : Tree}
    {property name : Site}
    (inside : property ∈ tree.site.subtree)
    (returned : returnedName? property = some name) :
    name ∈ tree.site.subtree :=
  Site.mem_subtree_trans inside (staysBelow_returnedName? property name returned)

/-- The field behind a property is found by the name that its getter returns. -/
theorem backs_iff
    {tree : Tree}
    {property declaration : Site}
    (inside : property ∈ tree.site.subtree) :
    Backs property declaration ↔
      ∃ name field, returnedName? property = some name ∧ name.text ≠ "" ∧
        Scope.isShadowed name.text name = false ∧
        Member.meant? name name.text .value = some field ∧ field.kind = .field ∧
        declaration ∈ tree.site.subtree ∧ Member.IsEntryOf declaration.node field := by
  constructor
  · rintro (@⟨expression, name, type, field, returns, plain, nonempty, visible, enclosing, only,
      isField, holds, entry⟩)
    have returned := returnedName?_eq_some_iff.mpr ⟨expression, returns, plain⟩
    have nameInside := returnedName?_mem_subtree inside returned
    have meant : Member.meant? name name.text .value = some field :=
      (Member.meant?_eq_some_iff nameInside).mpr ⟨type, enclosing, only⟩
    have typeInside := Member.enclosingType?_mem_subtree nameInside enclosing
    exact ⟨name, field, returned, nonempty, visible, meant, isField,
      holds.mem_subtree typeInside, entry⟩
  · rintro ⟨name, field, returned, nonempty, visible, meant, isField, present, entry⟩
    obtain ⟨expression, returns, plain⟩ := returnedName?_eq_some_iff.mp returned
    have nameInside := returnedName?_mem_subtree inside returned
    obtain ⟨type, enclosing, only⟩ := (Member.meant?_eq_some_iff nameInside).mp meant
    obtain ⟨other, holds, otherEntry⟩ := Member.mem_ofType_iff.mp only.mem
    have typeInside := Member.enclosingType?_mem_subtree nameInside enclosing
    obtain rfl := Tree.site_eq_of_number_eq (holds.mem_subtree typeInside) present
      (otherEntry.number_eq.trans entry.number_eq.symm)
    exact .intro returns plain nonempty visible enclosing only isField holds entry

/-- What a name in a tree means is declared in that tree. -/
theorem exists_isEntryOf_of_meant?
    {tree : Tree}
    {name : Site}
    {usage : Usage}
    {member : Member}
    (inside : name ∈ tree.site.subtree)
    (meant : Member.meant? name name.text usage = some member) :
    ∃ declaration ∈ tree.site.subtree, Member.IsEntryOf declaration.node member := by
  obtain ⟨type, declaration, enclosing, holds, entry, -⟩ := Member.belongsAt_of_meant? inside meant
  have typeInside := Member.enclosingType?_mem_subtree inside enclosing
  exact ⟨declaration, holds.mem_subtree typeInside, entry⟩

/-- A property leaves an observation exactly if it is evidence for it. -/
theorem evidence_eq_singleton_iff
    {tree : Tree}
    {property : Site}
    {observation : Observation Detail}
    (source : String)
    (inside : property ∈ tree.site.subtree) :
    evidence source property = [observation] ↔ IsEvidence source property observation := by
  rw [evidence_eq_singleton_iff_observeField]
  constructor
  · rintro ⟨name, field, returned, nonempty, visible, meant, isField, observed⟩
    obtain ⟨declaration, present, entry⟩ :=
      exists_isEntryOf_of_meant? (returnedName?_mem_subtree inside returned) meant
    have backs : Backs property declaration := (backs_iff inside).mpr
      ⟨name, field, returned, nonempty, visible, meant, isField, present, entry⟩
    rcases (observeField_eq_iff source inside present entry).mp observed with
      ⟨before, detail, rfl, blank⟩ | ⟨elsewhere, rfl⟩
    · exact .adjacent backs before blank
    · exact .apart backs elsewhere
  · intro evidence
    cases evidence with
    | adjacent backs before blank =>
        obtain ⟨name, field, returned, nonempty, visible, meant, isField, present, entry⟩ :=
          (backs_iff inside).mp backs
        have observed := (observeField_eq_iff source inside present entry).mpr
          (.inl ⟨before, _, rfl, blank⟩)
        exact ⟨name, field, returned, nonempty, visible, meant, isField, observed⟩
    | apart backs elsewhere =>
        obtain ⟨name, field, returned, nonempty, visible, meant, isField, present, entry⟩ :=
          (backs_iff inside).mp backs
        have observed := (observeField_eq_iff source inside present entry).mpr
          (.inr ⟨elsewhere, rfl⟩)
        exact ⟨name, field, returned, nonempty, visible, meant, isField, observed⟩

/-- No property counts twice. -/
theorem length_evidence_le
    (source : String)
    (property : Site) :
    (evidence source property).length ≤ 1 := by
  unfold evidence
  split
  · exact Nat.zero_le 1
  · split
    · exact Nat.zero_le 1
    · split
      · exact Nat.zero_le 1
      · split
        · exact Nat.le_refl 1
        · exact Nat.zero_le 1

/-! ## The evidence that a walk records -/

/-- The declarations that a walk does not go into: members that hold no properties, and the
properties themselves. -/
def prunedKinds : List Kind :=
  [.propertyDeclaration, .fieldDeclaration, .eventFieldDeclaration, .eventDeclaration,
    .methodDeclaration, .constructorDeclaration, .destructorDeclaration, .indexerDeclaration,
    .operatorDeclaration, .conversionOperatorDeclaration, .enumDeclaration, .delegateDeclaration]

theorem classifier_evidence
    {tree : Tree}
    {site : Site}
    (inside : site ∈ tree.site.subtree) :
    classifier.evidence tree.source site =
      if site.kind = .propertyDeclaration then evidence tree.source site else [] := by
  rw [Classifier.evidence]
  refine (visit_of_isCacheOf (MemberTable.isCacheOf_empty tree) inside tree.source).1.trans ?_
  by_cases isProperty : site.kind = .propertyDeclaration
  · simp [isProperty, isSkipped, Kind.isOpaque]
  · simp [isProperty]

/-- The rule does not go below exactly the nodes of the pruned kinds. -/
theorem descent_eq_skip_iff
    {tree : Tree}
    {site : Site}
    (inside : site ∈ tree.site.subtree) :
    classifier.descent tree.source site = .skip ↔ site.kind ∈ prunedKinds := by
  have descends := (visit_of_isCacheOf (MemberTable.isCacheOf_empty tree) inside tree.source).2.1
  have skips : (isSkipped site.kind || site.kind = .propertyDeclaration) = true ↔
      site.kind ∈ prunedKinds := by
    cases site.kind <;> simp [isSkipped, Kind.isOpaque, prunedKinds]
  rw [← skips]
  refine (Eq.congr_left descends).trans ?_
  cases isSkipped site.kind || decide (site.kind = .propertyDeclaration) <;> simp

/-- A walk comes to a named node exactly if no named node above it is of a pruned kind. -/
theorem mem_reached_iff
    {tree : Tree}
    {site : Site}
    (inside : site ∈ tree.site.subtree) :
    site ∈ classifier.reached tree ↔
      site.node.isNamed = true ∧
        ∀ outer ∈ site.ancestors, outer.node.isNamed = true → outer.kind ∉ prunedKinds := by
  rw [Classifier.ReadsLocally.mem_reached_iff inside]
  refine and_congr_right fun _ => forall₃_congr fun outer above _ => ?_
  exact not_congr (descent_eq_skip_iff (Tree.mem_subtree_of_mem_ancestors inside above))

/--
A walk records at a node exactly if the node is a property with no pruned node
above it whose getter does nothing but return a field, and then it records one
observation: whether the declaration of that field is the member right before the
property and, if so, whether a blank line stands between the two.
-/
theorem records_exactly_properties_that_return_a_field
    (tree : Tree)
    (site : Site)
    (inside : site ∈ tree.site.subtree) :
    (∀ observation, classifier.recordedAt tree site = [observation] ↔
      site.node.isNamed = true ∧ site.kind = .propertyDeclaration ∧
        (∀ outer ∈ site.ancestors, outer.node.isNamed = true → outer.kind ∉ prunedKinds) ∧
        IsEvidence tree.source site observation) ∧
      (classifier.recordedAt tree site).length ≤ 1 := by
  have reads := readsLocally tree
  by_cases visited : site ∈ classifier.reached tree
  · obtain ⟨named, opened⟩ := (mem_reached_iff inside).mp visited
    rw [reads.recordedAt_of_mem_reached visited, classifier_evidence inside]
    by_cases isProperty : site.kind = .propertyDeclaration
    · rw [if_pos isProperty]
      refine ⟨fun observation => ?_, length_evidence_le tree.source site⟩
      rw [evidence_eq_singleton_iff tree.source inside]
      exact ⟨fun evidence => ⟨named, isProperty, opened, evidence⟩, fun found => found.2.2.2⟩
    · rw [if_neg isProperty]
      exact ⟨fun observation => by simp [isProperty], Nat.zero_le 1⟩
  · rw [reads.recordedAt_of_not_mem_reached inside visited]
    refine ⟨fun observation => ⟨fun found => ?_, fun found => ?_⟩, Nat.zero_le 1⟩
    · cases found
    · exact absurd ((mem_reached_iff inside).mpr ⟨found.1, found.2.2.1⟩) visited

/-- The tree of a class with two fields in one declaration.  The property of the second field
comes after a blank line and a comment, the property of the first field after that. -/
def backedTree : Tree where
  source :=
    "class C \x7b int a, b;\n\n// c\nint B \x7b get \x7b return this.b; \x7d \x7d\nint A => a; \x7d"
  root :=
    .rule 0 .classDeclaration none 0 72 "" [
      .rule 1 .declarationList (some .body) 8 72 "" [
        .rule 2 .fieldDeclaration none 10 19 "int a, b;" [
          .rule 3 .variableDeclaration none 10 18 "int a, b" [
            .rule 4 .variableDeclarator none 14 15 "a" [
              .rule 5 .identifier (some .name) 14 15 "a" []],
            .rule 6 .variableDeclarator none 17 18 "b" [
              .rule 7 .identifier (some .name) 17 18 "b" []]]],
        .rule 8 .comment none 21 25 "// c" [],
        .rule 9 .propertyDeclaration none 26 58 "" [
          .rule 10 .identifier (some .name) 30 31 "B" [],
          .rule 11 .accessorList (some .accessors) 32 58 "" [
            .rule 12 .accessorDeclaration none 34 56 "" [
              .token 13 .getKeyword (some .name) 34 37 "get",
              .rule 14 .block (some .body) 38 56 "" [
                .rule 15 .returnStatement none 40 54 "return this.b;" [
                  .rule 16 .memberAccessExpression none 47 53 "this.b" [
                    .token 17 .thisKeyword (some .expression) 47 51 "this",
                    .rule 18 .identifier (some .name) 52 53 "b" []]]]]]],
        .rule 19 .propertyDeclaration none 59 70 "int A => a;" [
          .rule 20 .identifier (some .name) 63 64 "A" [],
          .rule 21 .arrowExpressionClause (some .body) 65 69 "=> a" [
            .rule 22 .identifier none 68 69 "a" []]]]]
  distinct := by decide

theorem records_exactly_properties_that_return_a_field_sample :
    let sites := backedTree.site.subtree
    let near := sites.get ⟨9, by decide⟩
    let far := sites.get ⟨19, by decide⟩
    classifier.recordedAt backedTree near = [.yes (some true)] ∧
      IsEvidence backedTree.source near (.yes (some true)) ∧
      classifier.recordedAt backedTree far = [.no] ∧
      IsEvidence backedTree.source far .no := by
  intro sites near far
  have exactNear := (records_exactly_properties_that_return_a_field backedTree near
    (List.get_mem _ _)).1 (.yes (some true))
  have exactFar := (records_exactly_properties_that_return_a_field backedTree far
    (List.get_mem _ _)).1 .no
  have recordedNear : classifier.recordedAt backedTree near = [.yes (some true)] := by
    decide +kernel
  have recordedFar : classifier.recordedAt backedTree far = [.no] := by
    decide +kernel
  exact ⟨recordedNear, (exactNear.mp recordedNear).2.2.2, recordedFar,
    (exactFar.mp recordedFar).2.2.2⟩

end BackingField
end HouseStyle
