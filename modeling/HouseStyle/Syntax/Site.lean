import HouseStyle.Syntax.Node

/-!
# Nodes in place

A site is a node together with the levels of the tree above it: at each level
the parent and the siblings on either side.  Moves go to the parent, the first
child and the next sibling.
-/

namespace HouseStyle
namespace Syntax

/-- One level above a node: its parent and its siblings. -/
structure Level where
  /-- The parent. -/
  parent : Node
  /-- The siblings before the node, nearest first. -/
  earlier : List Node
  /-- The siblings after the node, nearest first. -/
  later : List Node
deriving Repr

/-- A node in its place in the tree. -/
structure Site where
  /-- The node. -/
  node : Node
  /-- The levels above the node, nearest first. -/
  above : List Level
deriving Repr

namespace Site

/-- The root of a tree has nothing above it. -/
def root (node : Node) : Site where
  node := node
  above := []

/-- The kind of the node. -/
def kind (site : Site) : Kind :=
  site.node.kind

/-- The number of the node in its tree. -/
def number (site : Site) : Nat :=
  site.node.number

/-- The text covered by the node. -/
def text (site : Site) : String :=
  site.node.text

/-- The parent in its place. -/
def parent? (site : Site) : Option Site :=
  match site.above with
  | [] => none
  | level :: rest => some ⟨level.parent, rest⟩

/-- The nodes above, each in its place, nearest first. -/
def ancestorsOf : List Level → List Site
  | [] => []
  | level :: rest => ⟨level.parent, rest⟩ :: ancestorsOf rest

/-- The proper ancestors, nearest first. -/
def ancestors (site : Site) : List Site :=
  ancestorsOf site.above

/-- The nearest proper ancestor with a property of its kind. -/
def ancestorWhere? (wanted : Kind → Bool) (site : Site) : Option Site :=
  site.ancestors.find? fun ancestor => wanted ancestor.kind

/-- The nearest enclosing type declaration. -/
def enclosingType? (site : Site) : Option Site :=
  site.ancestorWhere? Kind.isType

/-- Places the nodes of a list below a parent, given the siblings before them. -/
def placeAll
    (parent : Node)
    (above : List Level)
    (earlier : List Node) : List Node → List Site
  | [] => []
  | node :: later =>
      ⟨node, ⟨parent, earlier, later⟩ :: above⟩ ::
        placeAll parent above (node :: earlier) later

/-- The children in their places. -/
def children (site : Site) : List Site :=
  placeAll site.node site.above [] site.node.children

/-- The children that are no mere tokens, in their places. -/
def namedChildren (site : Site) : List Site :=
  site.children.filter fun child => child.node.isNamed

/-- The child found under a label, in its place. -/
def child? (field : Field) (site : Site) : Option Site :=
  site.children.find? fun child => child.node.field == some field

/-- The first child. -/
def firstChild? (site : Site) : Option Site :=
  match site.node.children with
  | [] => none
  | node :: later => some ⟨node, ⟨site.node, [], later⟩ :: site.above⟩

/-- The siblings before the node, nearest first. -/
def earlierSiblings (site : Site) : List Node :=
  match site.above with
  | [] => []
  | level :: _ => level.earlier

/-- The sibling right after the node. -/
def nextSibling? (site : Site) : Option Node :=
  match site.above with
  | [] => none
  | level :: _ => level.later.head?

/-- The siblings before the node that are no mere tokens, nearest first. -/
def earlierNamed (site : Site) : List Node :=
  site.earlierSiblings.filter Node.isNamed

/-- The sibling right after the node, in its place. -/
def followingSibling? (site : Site) : Option Site :=
  match site.above with
  | [] => none
  | level :: rest =>
      match level.later with
      | [] => none
      | next :: later => some ⟨next, ⟨level.parent, site.node :: level.earlier, later⟩ :: rest⟩

/-- Where the site is in its tree: how many siblings stand before the node, then how many stand
before its parent, and so on up to the root. -/
def place (site : Site) : List Nat :=
  site.above.map fun level => level.earlier.length

theorem length_above_parent_lt
    {site parent : Site}
    (up : site.parent? = some parent) :
    parent.above.length < site.above.length := by
  obtain ⟨node, above⟩ := site
  cases above with
  | nil => cases up
  | cons level rest =>
    cases up
    exact Nat.lt_succ_self rest.length

/--
The first site in document order after the node and all that is below it: the
sibling right after the node, or else what comes after its parent.
-/
def following? (site : Site) : Option Site :=
  match site.followingSibling? with
  | some next => some next
  | none =>
      match _up : site.parent? with
      | none => none
      | some parent => parent.following?
termination_by site.above.length
decreasing_by exact length_above_parent_lt (by assumption)

/--
The same for a cursor that set out from a given site and has to stay at and below
it: nothing follows once the cursor is back where it started.
-/
def followingWithin? (site start : Site) : Option Site :=
  if site.place = start.place then
    none
  else
    match site.followingSibling? with
    | some next => some next
    | none =>
        match _up : site.parent? with
        | none => none
        | some parent => parent.followingWithin? start
termination_by site.above.length
decreasing_by exact length_above_parent_lt (by assumption)

/-- The number of nodes at and below the siblings after a node and after its ancestors. -/
def pending : List Level → Nat
  | [] => 0
  | level :: rest => Node.sizeAll level.later + pending rest

/-- The number of nodes from the site to the end of the document. -/
def remaining (site : Site) : Nat :=
  site.node.size + pending site.above

theorem remaining_firstChild_lt
    {site next : Site}
    (first : site.firstChild? = some next) :
    next.remaining < site.remaining := by
  obtain ⟨node, above⟩ := site
  cases node with
  | branch label children =>
    cases children with
    | nil => simp [firstChild?, Node.children] at first
    | cons child later =>
      simp only [firstChild?, Node.children, Option.some.injEq] at first
      subst first
      simp only [remaining, pending, Node.size, Node.sizeAll]
      omega

theorem remaining_followingSibling
    {site next : Site}
    (found : site.followingSibling? = some next) :
    next.remaining = pending site.above := by
  obtain ⟨node, above⟩ := site
  cases above with
  | nil => cases found
  | cons level rest =>
    obtain ⟨parent, earlier, later⟩ := level
    cases later with
    | nil => cases found
    | cons sibling more =>
      cases found
      simp only [remaining, pending, Node.sizeAll]
      omega

theorem pending_parent_le
    {site parent : Site}
    (up : site.parent? = some parent) :
    pending parent.above ≤ pending site.above := by
  obtain ⟨node, above⟩ := site
  cases above with
  | nil => cases up
  | cons level rest =>
    cases up
    exact Nat.le_add_left _ _

theorem remaining_following_le
    {site next : Site}
    (found : site.following? = some next) :
    next.remaining ≤ pending site.above := by
  fun_induction following? site with
  | case1 site sibling right =>
    cases found
    exact Nat.le_of_eq (remaining_followingSibling right)
  | case2 => cases found
  | case3 site right parent up ih => exact Nat.le_trans (ih found) (pending_parent_le up)

theorem remaining_following_lt
    {site next : Site}
    (found : site.following? = some next) :
    next.remaining < site.remaining := by
  have bound := remaining_following_le found
  have positive := site.node.size_pos
  simp only [remaining] at *
  omega

theorem following?_of_sibling
    {site next : Site}
    (right : site.followingSibling? = some next) :
    site.following? = some next := by
  rw [following?, right]

theorem following?_of_parent
    {site parent : Site}
    (last : site.followingSibling? = none)
    (up : site.parent? = some parent) :
    site.following? = parent.following? := by
  rw [following?, last]
  dsimp only
  split
  · rename_i top
    rw [up] at top
    cases top
  · rename_i other otherUp
    cases up.symm.trans otherUp
    rfl

/-- What comes next on the way back to a start also comes next without regard to a start. -/
theorem following?_of_followingWithin?
    {site start next : Site}
    (found : site.followingWithin? start = some next) :
    site.following? = some next := by
  fun_induction followingWithin? site start with
  | case1 => cases found
  | case2 site away sibling right =>
    cases found
    exact following?_of_sibling right
  | case3 => cases found
  | case4 site away last parent up ih =>
    rw [following?_of_parent last up]
    exact ih found

end Site
end Syntax
end HouseStyle
