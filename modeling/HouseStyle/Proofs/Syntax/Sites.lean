import HouseStyle.Syntax.Tree
import Mathlib.Data.List.Nodup

/-!
# The sites of a tree

A site and all sites below it, listed in document order by recursion on the
tree.  The list is closed under going down to children, and in the list of a
whole tree under going up to ancestors.  Sites in it are told apart by the
numbers of their nodes.  Trees that are written out are put together from rules
of the grammar and tokens.
-/

namespace HouseStyle
namespace Syntax

/-- A node that stands for a rule of the grammar. -/
def Node.rule
    (number : Nat)
    (kind : Kind)
    (field : Option Field)
    (start stop : Nat)
    (text : String)
    (children : List Node) : Node :=
  .branch ⟨number, kind, field, start, stop, true, text⟩ children

/-- A token. -/
def Node.token
    (number : Nat)
    (kind : Kind)
    (field : Option Field)
    (start stop : Nat)
    (text : String) : Node :=
  .branch ⟨number, kind, field, start, stop, false, text⟩ []

namespace Site

mutual

/-- A node below given levels and all nodes below it, each in its place, in document order. -/
def listed (above : List Level) : Node → List Site
  | .branch label children =>
      ⟨.branch label children, above⟩ :: listedAll (.branch label children) above [] children

/-- The nodes of a list and all nodes below them, given their parent and the siblings before. -/
def listedAll
    (parent : Node)
    (above : List Level)
    (earlier : List Node) : List Node → List Site
  | [] => []
  | node :: later =>
      listed (⟨parent, earlier, later⟩ :: above) node ++
        listedAll parent above (node :: earlier) later

end

/-- The site and all sites below it, in document order. -/
def subtree (site : Site) : List Site :=
  listed site.above site.node

theorem listedAll_eq_flatMap
    (parent : Node)
    (above : List Level)
    (earlier nodes : List Node) :
    listedAll parent above earlier nodes =
      (placeAll parent above earlier nodes).flatMap subtree := by
  induction nodes generalizing earlier with
  | nil => rfl
  | cons node later inductionHypothesis =>
      rw [listedAll, placeAll, List.flatMap_cons, inductionHypothesis]
      rfl

/-- The recursive equation: a site comes before the sites below its children, in their order. -/
theorem subtree_eq (site : Site) :
    site.subtree = site :: site.children.flatMap subtree := by
  obtain ⟨⟨label, children⟩, above⟩ := site
  exact congrArg (_ :: ·) (listedAll_eq_flatMap _ above [] children)

theorem mem_subtree_iff {inner site : Site} :
    inner ∈ site.subtree ↔ inner = site ∨ ∃ child ∈ site.children, inner ∈ child.subtree := by
  rw [subtree_eq, List.mem_cons, List.mem_flatMap]

theorem self_mem_subtree (site : Site) : site ∈ site.subtree :=
  mem_subtree_iff.mpr (Or.inl rfl)

/-! ## Children -/

theorem mem_placeAll
    {parent : Node}
    {above : List Level}
    {earlier nodes : List Node}
    {child : Site}
    (placed : child ∈ placeAll parent above earlier nodes) :
    child.node ∈ nodes ∧
      ∃ level : Level, level.parent = parent ∧ child.above = level :: above := by
  induction nodes generalizing earlier with
  | nil => cases placed
  | cons node later inductionHypothesis =>
      rcases List.mem_cons.mp placed with rfl | further
      · exact ⟨List.mem_cons_self, _, rfl, rfl⟩
      · obtain ⟨present, level⟩ := inductionHypothesis further
        exact ⟨List.mem_cons_of_mem node present, level⟩

theorem mem_earlierSiblings_placeAll
    {parent : Node}
    {above : List Level}
    {earlier nodes : List Node}
    {child : Site}
    {sibling : Node}
    (placed : child ∈ placeAll parent above earlier nodes)
    (before : sibling ∈ child.earlierSiblings) :
    sibling ∈ earlier ∨ sibling ∈ nodes := by
  induction nodes generalizing earlier with
  | nil => cases placed
  | cons node later inductionHypothesis =>
      rcases List.mem_cons.mp placed with rfl | further
      · exact .inl before
      · rcases inductionHypothesis further with inEarlier | inLater
        · rcases List.mem_cons.mp inEarlier with rfl | present
          · exact .inr List.mem_cons_self
          · exact .inl present
        · exact .inr (List.mem_cons_of_mem node inLater)

theorem mem_children_of_mem_earlierSiblings
    {site child : Site}
    {sibling : Node}
    (below : child ∈ site.children)
    (before : sibling ∈ child.earlierSiblings) :
    sibling ∈ site.node.children :=
  (mem_earlierSiblings_placeAll below before).resolve_left List.not_mem_nil

/-- What stands before the first of some siblings stands before each of them. -/
theorem isSuffix_earlierSiblings_placeAll
    {parent : Node}
    {above : List Level}
    {earlier nodes : List Node}
    {child : Site}
    (placed : child ∈ placeAll parent above earlier nodes) :
    earlier <:+ child.earlierSiblings := by
  induction nodes generalizing earlier with
  | nil => cases placed
  | cons node later inductionHypothesis =>
      rcases List.mem_cons.mp placed with rfl | further
      · exact List.suffix_rfl
      · exact (List.suffix_cons node earlier).trans (inductionHypothesis further)

/-- Of two children, the later one has all siblings before it that the earlier one has. -/
theorem pairwise_earlierSiblings_children (site : Site) :
    site.children.Pairwise fun earlier later =>
      earlier.earlierSiblings <:+ later.earlierSiblings := by
  have placed (before nodes : List Node) :
      (placeAll site.node site.above before nodes).Pairwise fun earlier later =>
        earlier.earlierSiblings <:+ later.earlierSiblings := by
    induction nodes generalizing before with
    | nil => exact List.Pairwise.nil
    | cons node later inductionHypothesis =>
        refine List.pairwise_cons.mpr ⟨fun child further => ?_, inductionHypothesis _⟩
        exact (List.suffix_cons node before).trans (isSuffix_earlierSiblings_placeAll further)
  exact placed [] site.node.children

theorem node_mem_children_of_mem_children
    {site child : Site}
    (below : child ∈ site.children) :
    child.node ∈ site.node.children :=
  (mem_placeAll below).1

theorem ancestors_of_mem_children
    {site child : Site}
    (below : child ∈ site.children) :
    child.ancestors = site :: site.ancestors := by
  obtain ⟨-, level, parent, above⟩ := mem_placeAll below
  rw [ancestors, above, ancestorsOf, parent]
  rfl

theorem mem_children_of_mem_namedChildren
    {site child : Site}
    (below : child ∈ site.namedChildren) :
    child ∈ site.children :=
  (List.mem_filter.mp below).1

theorem mem_children_of_child?
    {site child : Site}
    {field : Field}
    (found : site.child? field = some child) :
    child ∈ site.children :=
  List.mem_of_find?_eq_some found

end Site

namespace Node

theorem size_le_sizeAll_of_mem
    {node : Node}
    {nodes : List Node}
    (present : node ∈ nodes) :
    node.size ≤ sizeAll nodes := by
  induction nodes with
  | nil => cases present
  | cons first rest inductionHypothesis =>
      rw [sizeAll]
      rcases List.mem_cons.mp present with rfl | further
      · omega
      · have bound := inductionHypothesis further
        omega

theorem size_lt_of_mem_children
    {node child : Node}
    (below : child ∈ node.children) :
    child.size < node.size := by
  obtain ⟨label, children⟩ := node
  exact Nat.lt_succ_of_le (size_le_sizeAll_of_mem below)

theorem subtreeAll_eq_flatMap (nodes : List Node) :
    subtreeAll nodes = nodes.flatMap subtree := by
  induction nodes with
  | nil => rfl
  | cons node rest inductionHypothesis =>
      rw [subtreeAll, List.flatMap_cons, inductionHypothesis]

theorem subtree_eq (node : Node) :
    node.subtree = node :: node.children.flatMap subtree := by
  obtain ⟨label, children⟩ := node
  rw [subtree, subtreeAll_eq_flatMap]
  rfl

end Node

namespace Site

/-! ## Induction over sites -/

/-- What passes from the children of every site to the site holds of all sites. -/
theorem induction_on_children
    {motive : Site → Prop}
    (step : ∀ site : Site, (∀ child ∈ site.children, motive child) → motive site)
    (site : Site) : motive site := by
  apply step
  intro child below
  exact induction_on_children step child
termination_by site.node.size
decreasing_by exact Node.size_lt_of_mem_children (node_mem_children_of_mem_children below)

/-- What holds of a site and passes from sites to their children holds of all sites below it. -/
theorem induction_on_subtree
    {motive : Site → Prop}
    {site : Site}
    (base : motive site)
    (step : ∀ inner ∈ site.subtree, motive inner → ∀ child ∈ inner.children, motive child) :
    ∀ inner ∈ site.subtree, motive inner := by
  induction site using induction_on_children with
  | step site inductionHypothesis =>
      intro inner inside
      rcases mem_subtree_iff.mp inside with rfl | ⟨child, below, further⟩
      · exact base
      · have reached := step site site.self_mem_subtree base child below
        refine inductionHypothesis child below reached ?_ inner further
        intro deeper deeperInside
        exact step deeper (mem_subtree_iff.mpr (Or.inr ⟨child, below, deeperInside⟩))

theorem mem_subtree_of_mem_children
    {site inner child : Site}
    (inside : inner ∈ site.subtree)
    (below : child ∈ inner.children) :
    child ∈ site.subtree := by
  induction site using induction_on_children with
  | step site inductionHypothesis =>
      rcases mem_subtree_iff.mp inside with rfl | ⟨next, nextBelow, further⟩
      · exact mem_subtree_iff.mpr (Or.inr ⟨child, below, child.self_mem_subtree⟩)
      · have deeper := inductionHypothesis next nextBelow further
        exact mem_subtree_iff.mpr (Or.inr ⟨next, nextBelow, deeper⟩)

theorem mem_subtree_trans
    {site middle inner : Site}
    (middleInside : middle ∈ site.subtree)
    (innerInside : inner ∈ middle.subtree) :
    inner ∈ site.subtree :=
  induction_on_subtree middleInside
    (fun _ _ inside _ below => mem_subtree_of_mem_children inside below) inner innerInside

theorem mem_subtree_of_child
    {site child : Site}
    (below : child ∈ site.children) :
    child ∈ site.subtree :=
  mem_subtree_of_mem_children site.self_mem_subtree below

/-- What is above a site is above all sites below it. -/
theorem ancestors_isSuffix_of_mem_subtree
    {site inner : Site}
    (inside : inner ∈ site.subtree) :
    site.ancestors <:+ inner.ancestors := by
  have closed : ∀ other ∈ site.subtree, site.ancestors <:+ other.ancestors := by
    apply induction_on_subtree
    · exact List.suffix_rfl
    · intro middle _ inductionHypothesis child below
      rw [ancestors_of_mem_children below]
      exact inductionHypothesis.trans (List.suffix_cons middle middle.ancestors)
  exact closed inner inside

theorem mem_ancestors_of_mem_subtree_child
    {site child inner : Site}
    (below : child ∈ site.children)
    (inside : inner ∈ child.subtree) :
    site ∈ inner.ancestors := by
  have suffix := ancestors_isSuffix_of_mem_subtree inside
  rw [ancestors_of_mem_children below] at suffix
  exact suffix.subset List.mem_cons_self

theorem map_node_placeAll
    (parent : Node)
    (above : List Level)
    (earlier nodes : List Node) :
    (placeAll parent above earlier nodes).map Site.node = nodes := by
  induction nodes generalizing earlier with
  | nil => rfl
  | cons node later inductionHypothesis =>
      rw [placeAll, List.map_cons, inductionHypothesis]

theorem map_node_children (site : Site) :
    site.children.map Site.node = site.node.children :=
  map_node_placeAll site.node site.above [] site.node.children

theorem map_node_namedChildren (site : Site) :
    site.namedChildren.map Site.node = site.node.namedChildren := by
  rw [Node.namedChildren, ← map_node_children, List.filter_map]
  rfl

theorem map_node_child? (site : Site) (field : Field) :
    (site.child? field).map Site.node = site.node.child? field := by
  rw [Node.child?, ← map_node_children, List.find?_map]
  rfl

/-- The sites below a site hold the nodes below its node, in the same order. -/
theorem map_node_subtree (site : Site) :
    site.subtree.map Site.node = site.node.subtree := by
  induction site using induction_on_children with
  | step site inductionHypothesis =>
      rw [subtree_eq, Node.subtree_eq, List.map_cons, List.map_flatMap]
      congr 1
      calc
        site.children.flatMap (fun child => child.subtree.map Site.node) =
            site.children.flatMap fun child => child.node.subtree :=
          List.flatMap_congr inductionHypothesis
        _ = (site.children.map Site.node).flatMap Node.subtree :=
          (List.flatMap_map Site.node Node.subtree site.children).symm
        _ = site.node.children.flatMap Node.subtree := by
          rw [map_node_children]

end Site

namespace Tree

/-- The nodes above a site of a tree are sites of the tree. -/
theorem mem_subtree_of_mem_ancestors
    {tree : Tree}
    {site outer : Site}
    (inside : site ∈ tree.site.subtree)
    (above : outer ∈ site.ancestors) :
    outer ∈ tree.site.subtree := by
  have closed : ∀ inner ∈ tree.site.subtree,
      ∀ outer ∈ inner.ancestors, outer ∈ tree.site.subtree := by
    apply Site.induction_on_subtree
    · intro outer above
      cases above
    · intro inner innerInside inductionHypothesis child below outer above
      rw [Site.ancestors_of_mem_children below] at above
      rcases List.mem_cons.mp above with rfl | further
      · exact innerInside
      · exact inductionHypothesis outer further
  exact closed site inside outer above

/-- The sites at and below a site of a tree are the sites of the tree that have it above them or
are it. -/
theorem mem_subtree_iff_mem_ancestors
    {tree : Tree}
    {site inner : Site}
    (inside : site ∈ tree.site.subtree) :
    inner ∈ site.subtree ↔
      inner ∈ tree.site.subtree ∧ (inner = site ∨ site ∈ inner.ancestors) := by
  constructor
  · intro below
    refine ⟨Site.mem_subtree_trans inside below, ?_⟩
    refine (Site.mem_subtree_iff.mp below).imp_right ?_
    rintro ⟨child, childBelow, further⟩
    exact Site.mem_ancestors_of_mem_subtree_child childBelow further
  · rintro ⟨innerInside, rfl | above⟩
    · exact inner.self_mem_subtree
    · have closed : ∀ other ∈ tree.site.subtree,
          site ∈ other.ancestors → other ∈ site.subtree := by
        apply Site.induction_on_subtree
        · intro above
          cases above
        · intro middle _ inductionHypothesis child below above
          rw [Site.ancestors_of_mem_children below] at above
          rcases List.mem_cons.mp above with rfl | further
          · exact Site.mem_subtree_of_child below
          · exact Site.mem_subtree_of_mem_children (inductionHypothesis further) below
      exact closed inner innerInside above

theorem map_node_sites (tree : Tree) :
    tree.site.subtree.map Site.node = tree.root.subtree :=
  Site.map_node_subtree tree.site

theorem node_mem_subtree
    {tree : Tree}
    {site : Site}
    (inside : site ∈ tree.site.subtree) :
    site.node ∈ tree.root.subtree := by
  rw [← map_node_sites]
  exact List.mem_map_of_mem inside

/-- The siblings before a site of a tree are nodes of the tree. -/
theorem mem_subtree_of_mem_earlierSiblings
    {tree : Tree}
    {site : Site}
    {sibling : Node}
    (inside : site ∈ tree.site.subtree)
    (before : sibling ∈ site.earlierSiblings) :
    sibling ∈ tree.root.subtree := by
  have closed : ∀ inner ∈ tree.site.subtree,
      ∀ sibling ∈ inner.earlierSiblings, sibling ∈ tree.root.subtree := by
    apply Site.induction_on_subtree
    · intro sibling before
      cases before
    · intro inner innerInside _ child below sibling before
      have present := Site.mem_children_of_mem_earlierSiblings below before
      rw [← Site.map_node_children] at present
      obtain ⟨other, otherBelow, rfl⟩ := List.mem_map.mp present
      exact node_mem_subtree (Site.mem_subtree_of_mem_children innerInside otherBelow)
  exact closed site inside sibling before

theorem nodup_numbers_of_sublist
    {tree : Tree}
    {sites : List Site}
    (ordered : sites.Sublist tree.site.subtree) :
    (sites.map Site.number).Nodup := by
  have distinct := tree.distinct
  rw [← map_node_sites, List.map_map] at distinct
  exact distinct.sublist (ordered.map Site.number)

/-- Nodes of a tree are told apart by their numbers. -/
theorem node_eq_of_number_eq
    {tree : Tree}
    {left right : Node}
    (leftInside : left ∈ tree.root.subtree)
    (rightInside : right ∈ tree.root.subtree)
    (same : left.number = right.number) :
    left = right :=
  List.inj_on_of_nodup_map tree.distinct leftInside rightInside same

/-- Sites of a tree are told apart by their numbers. -/
theorem site_eq_of_number_eq
    {tree : Tree}
    {left right : Site}
    (leftInside : left ∈ tree.site.subtree)
    (rightInside : right ∈ tree.site.subtree)
    (same : left.number = right.number) :
    left = right := by
  have distinct := tree.distinct
  rw [← map_node_sites, List.map_map] at distinct
  exact List.inj_on_of_nodup_map distinct leftInside rightInside same

end Tree
end Syntax
end HouseStyle
