import HouseStyle.Proofs.Syntax.Searches

/-!
# Trees without their comments

Comments can stand anywhere in a tree.  Here the comments that no label marks
are taken out of a tree and nothing else changes: every other node keeps what
it says about itself and its order among its siblings.  What a node finds under
a label or by a kind is the same before and after; what it finds by position
need not be.
-/

namespace HouseStyle
namespace Syntax

section Lists

variable
  {α : Type}
  {keeps test : α → Bool}
  {change : α → α}

/-- A search finds the same element after a change that it does not see, in a list that lost
only elements that it would pass over. -/
theorem find?_map_filter
    (unseen : ∀ element, test (change element) = test element)
    (passed : ∀ element, keeps element = false → test element = false)
    (elements : List α) :
    ((elements.filter keeps).map change).find? test = (elements.find? test).map change := by
  have seen : test ∘ change = test :=
    funext unseen
  have implied : (fun element => decide (keeps element = true ∧ test element = true)) = test := by
    funext element
    cases kept : keeps element with
    | false => simp [passed element kept]
    | true => simp
  rw [List.find?_map, seen, List.find?_filter, implied]

theorem filter_map_filter
    (unseen : ∀ element, test (change element) = test element)
    (elements : List α) :
    ((elements.filter keeps).map change).filter test =
      ((elements.filter test).filter keeps).map change := by
  have seen : test ∘ change = test :=
    funext unseen
  rw [List.filter_map, seen, List.filter_filter, List.filter_filter]
  simp only [Bool.and_comm]

end Lists

namespace Node

/-- A comment with nothing below it that its parent does not find under a label. -/
def isLooseComment (node : Node) : Bool :=
  node.kind == .comment && node.children.isEmpty && node.field.isNone

/-- A comment can be taken away if it has no children and no label. -/
theorem isLooseComment_iff {node : Node} :
    node.isLooseComment = true ↔
      node.kind = .comment ∧ node.children = [] ∧ node.field = none := by
  simp [isLooseComment, and_assoc]

theorem kind_of_isLooseComment
    {node : Node}
    (loose : node.isLooseComment = true) :
    node.kind = .comment :=
  (isLooseComment_iff.mp loose).1

theorem isLooseComment_of_kind
    {node : Node}
    (other : node.kind ≠ .comment) :
    node.isLooseComment = false :=
  Bool.eq_false_iff.mpr fun loose => other (kind_of_isLooseComment loose)

mutual

/-- The node without the loose comments below it. -/
def stripped : Node → Node
  | branch label children => branch label (strippedAll children)

/-- The nodes of a list that are no loose comments, without the loose comments below them. -/
def strippedAll : List Node → List Node
  | [] => []
  | node :: rest =>
      if node.isLooseComment then strippedAll rest else node.stripped :: strippedAll rest

end

/-- Loose comments are taken out of a list, and those below from what remains. -/
theorem strippedAll_eq (nodes : List Node) :
    strippedAll nodes = (nodes.filter fun node => !node.isLooseComment).map stripped := by
  induction nodes with
  | nil => rfl
  | cons node rest inductionHypothesis =>
      rw [strippedAll, List.filter_cons, inductionHypothesis]
      cases node.isLooseComment <;> rfl

theorem strippedAll_append (left right : List Node) :
    strippedAll (left ++ right) = strippedAll left ++ strippedAll right := by
  simp only [strippedAll_eq, List.filter_append, List.map_append]

/-! ## What a node says about itself -/

/-- What a node says about itself does not depend on the comments below it. -/
@[simp]
theorem label_stripped (node : Node) : node.stripped.label = node.label := by
  cases node
  rfl

@[simp]
theorem number_stripped (node : Node) : node.stripped.number = node.number :=
  congrArg Label.number node.label_stripped

@[simp]
theorem kind_stripped (node : Node) : node.stripped.kind = node.kind :=
  congrArg Label.kind node.label_stripped

@[simp]
theorem field_stripped (node : Node) : node.stripped.field = node.field :=
  congrArg Label.field node.label_stripped

@[simp]
theorem start_stripped (node : Node) : node.stripped.start = node.start :=
  congrArg Label.start node.label_stripped

@[simp]
theorem stop_stripped (node : Node) : node.stripped.stop = node.stop :=
  congrArg Label.stop node.label_stripped

@[simp]
theorem isNamed_stripped (node : Node) : node.stripped.isNamed = node.isNamed :=
  congrArg Label.named node.label_stripped

@[simp]
theorem text_stripped (node : Node) : node.stripped.text = node.text :=
  congrArg Label.text node.label_stripped

/-! ## What a node finds among its children -/

theorem children_stripped (node : Node) :
    node.stripped.children = strippedAll node.children := by
  cases node
  rfl

/-- A test on the kind of nodes that comments fail passes over loose comments. -/
theorem not_of_isLooseComment
    {test : Kind → Bool}
    (fails : test .comment = false)
    (node : Node)
    (loose : node.isLooseComment = true) :
    test node.kind = false := by
  rw [kind_of_isLooseComment loose, fails]

/-- A search that cannot see comments finds the same node without them. -/
theorem find?_strippedAll
    {test : Node → Bool}
    (unseen : ∀ node, test node.stripped = test node)
    (passed : ∀ node : Node, node.isLooseComment = true → test node = false)
    (nodes : List Node) :
    (strippedAll nodes).find? test = (nodes.find? test).map stripped := by
  rw [strippedAll_eq]
  exact find?_map_filter unseen (fun node lost => passed node (by simpa using lost)) nodes

/-- A search by kind finds the same node with and without comments. -/
theorem find?_kind_strippedAll
    (test : Kind → Bool)
    (fails : test .comment = false)
    (nodes : List Node) :
    ((strippedAll nodes).find? fun node => test node.kind) =
      (nodes.find? fun node => test node.kind).map stripped :=
  find?_strippedAll (fun node => congrArg test node.kind_stripped) (not_of_isLooseComment fails)
    nodes

/-- A filter that cannot tell a node from its stripped form commutes with stripping. -/
theorem filter_strippedAll
    {test : Node → Bool}
    (unseen : ∀ node, test node.stripped = test node)
    (nodes : List Node) :
    (strippedAll nodes).filter test = strippedAll (nodes.filter test) := by
  rw [strippedAll_eq, strippedAll_eq]
  exact filter_map_filter unseen nodes

/-- Where no loose comment stands, only what is below the nodes changes. -/
theorem strippedAll_of_forall_kept
    {nodes : List Node}
    (kept : ∀ node ∈ nodes, node.isLooseComment = false) :
    strippedAll nodes = nodes.map stripped := by
  rw [strippedAll_eq, List.filter_eq_self.mpr]
  intro node present
  simp [kept node present]

/-- Nothing is lost of the nodes of a kind other than comments. -/
theorem filter_kind_strippedAll
    (test : Kind → Bool)
    (fails : test .comment = false)
    (nodes : List Node) :
    ((strippedAll nodes).filter fun node => test node.kind) =
      (nodes.filter fun node => test node.kind).map stripped := by
  rw [filter_strippedAll fun node => congrArg test node.kind_stripped]
  apply strippedAll_of_forall_kept
  intro node present
  apply isLooseComment_of_kind
  intro comment
  have passes := (List.mem_filter.mp present).2
  rw [comment, fails] at passes
  cases passes

/-- A test that no comment passes is passed without comments just as well. -/
theorem any_strippedAll
    {test : Node → Bool}
    {nodes : List Node}
    (unseen : ∀ node ∈ nodes, test node.stripped = test node)
    (passed : ∀ node : Node, node.isLooseComment = true → test node = false) :
    (strippedAll nodes).any test = nodes.any test := by
  induction nodes with
  | nil => rfl
  | cons node rest inductionHypothesis =>
      have others := inductionHypothesis fun other later =>
        unseen other (List.mem_cons_of_mem node later)
      rw [strippedAll, List.any_cons]
      cases loose : node.isLooseComment with
      | true =>
          rw [passed node loose, Bool.false_or]
          exact others
      | false =>
          rw [← others, ← unseen node List.mem_cons_self]
          rfl

theorem flatMap_strippedAll
    {β : Type}
    {parts : Node → List β}
    (unseen : ∀ node, parts node.stripped = parts node)
    (passed : ∀ node : Node, node.isLooseComment = true → parts node = [])
    (nodes : List Node) :
    (strippedAll nodes).flatMap parts = nodes.flatMap parts := by
  induction nodes with
  | nil => rfl
  | cons node rest inductionHypothesis =>
      rw [strippedAll, List.flatMap_cons]
      cases loose : node.isLooseComment with
      | true =>
          rw [passed node loose, List.nil_append]
          exact inductionHypothesis
      | false =>
          rw [← inductionHypothesis, ← unseen node]
          rfl

/-- What is read from nodes that are no comments is read without comments too. -/
theorem filterMap_strippedAll
    {β : Type}
    {part? : Node → Option β}
    (unseen : ∀ node, part? node.stripped = part? node)
    (passed : ∀ node : Node, node.isLooseComment = true → part? node = none)
    (nodes : List Node) :
    (strippedAll nodes).filterMap part? = nodes.filterMap part? := by
  rw [List.filterMap_eq_flatMap_toList, List.filterMap_eq_flatMap_toList]
  apply flatMap_strippedAll
  · intro node
    rw [unseen]
  · intro node loose
    rw [passed node loose, Option.toList_none]

/-- What stands before the first node of a kind is what stood there, less comments. -/
theorem takeWhile_kind_strippedAll
    (test : Kind → Bool)
    (holds : test .comment = true)
    (nodes : List Node) :
    ((strippedAll nodes).takeWhile fun node => test node.kind) =
      strippedAll (nodes.takeWhile fun node => test node.kind) := by
  induction nodes with
  | nil => rfl
  | cons node rest inductionHypothesis =>
      rw [strippedAll, List.takeWhile_cons]
      cases loose : node.isLooseComment with
      | true =>
          rw [kind_of_isLooseComment loose, holds, if_pos rfl, if_pos rfl, strippedAll, loose,
            if_pos rfl]
          exact inductionHypothesis
      | false =>
          rw [if_neg Bool.false_ne_true, List.takeWhile_cons, kind_stripped]
          cases test node.kind with
          | true =>
              rw [if_pos rfl, if_pos rfl, strippedAll, loose, if_neg Bool.false_ne_true,
                inductionHypothesis]
          | false => rfl

theorem namedChildren_stripped (node : Node) :
    node.stripped.namedChildren = strippedAll node.namedChildren := by
  rw [namedChildren, children_stripped, filter_strippedAll isNamed_stripped, namedChildren]

/-- A loose comment has no label, so it is never found under one. -/
theorem child?_stripped (node : Node) (field : Field) :
    node.stripped.child? field = (node.child? field).map stripped := by
  rw [child?, children_stripped]
  refine find?_strippedAll ?_ ?_ node.children
  · intro child
    rw [field_stripped]
  · intro child loose
    rw [(isLooseComment_iff.mp loose).2.2]
    rfl

/-! ## The nodes below a node -/

theorem subtree_eq_cons_subtreeAll (node : Node) :
    node.subtree = node :: subtreeAll node.children := by
  cases node
  rfl

mutual

/-- Stripping a node strips its subtree node by node. -/
theorem subtree_stripped : ∀ node : Node,
    node.stripped.subtree = node.stripped :: strippedAll (subtreeAll node.children)
  | branch label children => by
      rw [stripped, subtree, subtreeAll_strippedAll children]
      rfl

/-- The nodes below are those that were below, less loose comments. -/
theorem subtreeAll_strippedAll : ∀ nodes : List Node,
    subtreeAll (strippedAll nodes) = strippedAll (subtreeAll nodes)
  | [] => rfl
  | node :: rest => by
      have others := subtreeAll_strippedAll rest
      have here := subtree_stripped node
      rw [strippedAll, subtreeAll, strippedAll_append, subtree_eq_cons_subtreeAll, strippedAll]
      cases loose : node.isLooseComment with
      | true =>
          rw [(isLooseComment_iff.mp loose).2.1, if_pos rfl, if_pos rfl, others]
          rfl
      | false =>
          rw [if_neg Bool.false_ne_true, if_neg Bool.false_ne_true, subtreeAll, here, others]
end

/-- A test that sees no difference at any node tells the same with and without comments. -/
theorem any_subtree_stripped
    {holds : Node → Bool}
    {node : Node}
    (unseen : ∀ inner ∈ node.subtree, holds inner.stripped = holds inner)
    (passed : ∀ inner : Node, inner.isLooseComment = true → holds inner = false) :
    node.stripped.subtree.any holds = node.subtree.any holds := by
  rw [subtree_eq_cons_subtreeAll] at unseen
  have below : (strippedAll (subtreeAll node.children)).any holds =
      (subtreeAll node.children).any holds :=
    any_strippedAll (fun inner present => unseen inner (List.mem_cons_of_mem node present)) passed
  rw [subtree_stripped, subtree_eq_cons_subtreeAll, List.any_cons, List.any_cons, below,
    unseen node List.mem_cons_self]

/-- Stripping takes numbers away and does not change the others. -/
theorem numbers_strippedAll_sublist (nodes : List Node) :
    ((strippedAll nodes).map number).Sublist (nodes.map number) := by
  have same : number ∘ stripped = number :=
    funext number_stripped
  rw [strippedAll_eq, List.map_map, same]
  exact List.filter_sublist.map number

end Node

/-- A level without loose comments. -/
def Level.stripped (level : Level) : Level where
  parent := level.parent.stripped
  earlier := Node.strippedAll level.earlier
  later := Node.strippedAll level.later

namespace Site

/-- The node in the place that it has when all loose comments are taken out. -/
def stripped (site : Site) : Site where
  node := site.node.stripped
  above := site.above.map Level.stripped

@[simp]
theorem kind_stripped (site : Site) : site.stripped.kind = site.kind :=
  site.node.kind_stripped

@[simp]
theorem number_stripped (site : Site) : site.stripped.number = site.number :=
  site.node.number_stripped

@[simp]
theorem text_stripped (site : Site) : site.stripped.text = site.text :=
  site.node.text_stripped

/-- A search that sees no difference at any node finds the same with and without comments. -/
theorem anyBelow_stripped
    {holds : Node → Bool}
    {site : Site}
    (unseen : ∀ inner ∈ site.node.subtree, holds inner.stripped = holds inner)
    (passed : ∀ inner : Node, inner.isLooseComment = true → holds inner = false) :
    site.stripped.anyBelow holds = site.anyBelow holds := by
  rw [anyBelow_eq, anyBelow_eq]
  exact Node.any_subtree_stripped unseen passed

theorem ancestors_stripped (site : Site) :
    site.stripped.ancestors = site.ancestors.map stripped := by
  obtain ⟨node, above⟩ := site
  simp only [ancestors, stripped]
  induction above with
  | nil => rfl
  | cons level rest inductionHypothesis =>
      rw [List.map_cons, ancestorsOf, ancestorsOf, List.map_cons, inductionHypothesis]
      rfl

theorem enclosingType?_stripped (site : Site) :
    site.stripped.enclosingType? = site.enclosingType?.map stripped := by
  have seen : (fun ancestor : Site => ancestor.kind.isType) ∘ stripped =
      fun ancestor => ancestor.kind.isType :=
    funext fun ancestor => congrArg Kind.isType ancestor.kind_stripped
  rw [enclosingType?, ancestorWhere?, ancestors_stripped, List.find?_map, seen]
  rfl

/-- The siblings before a site are stripped like all other nodes. -/
theorem earlierNamed_stripped (site : Site) :
    site.stripped.earlierNamed = Node.strippedAll site.earlierNamed := by
  obtain ⟨node, above⟩ := site
  cases above with
  | nil => rfl
  | cons level rest => exact Node.filter_strippedAll Node.isNamed_stripped level.earlier

/-! ## What a site finds among its children -/

/-- Places are told by the siblings before a node, so they have to be stripped along with it. -/
theorem placeAll_stripped
    (parent : Node)
    (above : List Level)
    (earlier nodes : List Node) :
    placeAll parent.stripped (above.map Level.stripped) (Node.strippedAll earlier)
        (Node.strippedAll nodes) =
      ((placeAll parent above earlier nodes).filter fun site =>
        !site.node.isLooseComment).map stripped := by
  induction nodes generalizing earlier with
  | nil => rfl
  | cons node later inductionHypothesis =>
      have others := inductionHypothesis (node :: earlier)
      rw [Node.strippedAll] at others
      rw [Node.strippedAll, placeAll, List.filter_cons]
      cases loose : node.isLooseComment with
      | true =>
          rw [loose, if_pos rfl] at others
          exact others
      | false =>
          rw [loose, if_neg Bool.false_ne_true] at others
          rw [if_neg Bool.false_ne_true, placeAll, others]
          rfl

/-- The children of a stripped site are those of the site that are no loose comments. -/
theorem children_stripped (site : Site) :
    site.stripped.children =
      (site.children.filter fun child => !child.node.isLooseComment).map stripped := by
  have placed := placeAll_stripped site.node site.above [] site.node.children
  rw [← Node.children_stripped] at placed
  exact placed

theorem namedChildren_stripped (site : Site) :
    site.stripped.namedChildren =
      (site.namedChildren.filter fun child => !child.node.isLooseComment).map stripped := by
  rw [namedChildren, children_stripped]
  exact filter_map_filter (fun child => child.node.isNamed_stripped) site.children

/-- A search among the named children that cannot see comments finds the same site without them. -/
theorem find?_namedChildren_stripped
    {test : Site → Bool}
    (unseen : ∀ child, test child.stripped = test child)
    (passed : ∀ child : Site, child.node.isLooseComment = true → test child = false)
    (site : Site) :
    site.stripped.namedChildren.find? test = (site.namedChildren.find? test).map stripped := by
  rw [namedChildren_stripped]
  exact find?_map_filter unseen (fun child lost => passed child (by simpa using lost)) _

/-- A search by kind finds the same child with and without comments. -/
theorem find?_kind_namedChildren_stripped
    (test : Kind → Bool)
    (fails : test .comment = false)
    (site : Site) :
    (site.stripped.namedChildren.find? fun child => test child.kind) =
      (site.namedChildren.find? fun child => test child.kind).map stripped :=
  find?_namedChildren_stripped (fun child => congrArg test child.kind_stripped)
    (fun child => Node.not_of_isLooseComment fails child.node) site

theorem child?_stripped (site : Site) (field : Field) :
    site.stripped.child? field = (site.child? field).map stripped := by
  rw [child?, children_stripped]
  refine find?_map_filter ?_ ?_ site.children
  · intro child
    exact congrArg (· == some field) child.node.field_stripped
  · intro child lost
    have loose : child.node.isLooseComment = true := by
      simpa using lost
    rw [(Node.isLooseComment_iff.mp loose).2.2]
    rfl

end Site

namespace Tree

/-- The nodes of a stripped tree still have different numbers. -/
theorem nodup_numbers_stripped (tree : Tree) :
    (tree.root.stripped.subtree.map Node.number).Nodup := by
  have distinct := tree.distinct
  rw [Node.subtree_eq_cons_subtreeAll] at distinct
  rw [Node.subtree_stripped, List.map_cons, Node.number_stripped]
  exact distinct.sublist ((Node.numbers_strippedAll_sublist _).cons_cons _)

/-- The tree without its loose comments, of the same text. -/
def stripped (tree : Tree) : Tree where
  root := tree.root.stripped
  source := tree.source
  distinct := tree.nodup_numbers_stripped

/-- A site of a tree that is no loose comment has its place in the tree without them. -/
theorem mem_subtree_stripped
    {tree : Tree}
    {site : Site}
    (inside : site ∈ tree.site.subtree)
    (kept : site.node.isLooseComment = false) :
    site.stripped ∈ tree.stripped.site.subtree := by
  have closed : ∀ inner ∈ tree.site.subtree, inner.node.isLooseComment = false →
      inner.stripped ∈ tree.stripped.site.subtree := by
    apply Site.induction_on_subtree
    · intro _
      exact Site.self_mem_subtree _
    · intro inner _ inductionHypothesis child below childKept
      have parentKept : inner.node.isLooseComment = false := by
        refine Bool.eq_false_iff.mpr fun loose => ?_
        have present := Site.node_mem_children_of_mem_children below
        rw [(Node.isLooseComment_iff.mp loose).2.1] at present
        cases present
      refine Site.mem_subtree_of_mem_children (inductionHypothesis parentKept) ?_
      rw [Site.children_stripped]
      refine List.mem_map_of_mem (List.mem_filter.mpr ⟨below, ?_⟩)
      rw [childKept]
      rfl
  exact closed site inside kept

end Tree
end Syntax
end HouseStyle
