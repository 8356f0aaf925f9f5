import HouseStyle.Proofs.Syntax.Preorder

/-!
# Searches below a node

A search moves a cursor from a site in document order and stops at the first
node with a property.  On its way up the cursor looks whether it is back at the
site where it set out before it tries the next sibling.  It therefore comes to
all that is at and below its start and to nothing else, wherever in a tree the
start may be.
-/

namespace HouseStyle
namespace Syntax
namespace Site

variable {holds : Node → Bool}

/-! ## Places -/

/-- The site that is reached from a site by going down to the children at given positions. -/
def descend? (site : Site) : List Nat → Option Site
  | [] => some site
  | position :: rest => site.children[position]?.bind fun child => child.descend? rest

theorem descend?_concat
    (site : Site)
    (path : List Nat)
    (position : Nat) :
    site.descend? (path ++ [position]) =
      (site.descend? path).bind fun inner => inner.children[position]? := by
  induction path generalizing site with
  | nil => simp [descend?]
  | cons first rest inductionHypothesis =>
      simp only [List.cons_append, descend?, inductionHypothesis, Option.bind_assoc]

theorem exists_position_of_mem_placeAll
    {parent : Node}
    {above : List Level}
    {earlier nodes : List Node}
    {child : Site}
    (placed : child ∈ placeAll parent above earlier nodes) :
    ∃ position, (placeAll parent above earlier nodes)[position]? = some child ∧
      child.place = (earlier.length + position) :: place ⟨parent, above⟩ := by
  induction nodes generalizing earlier with
  | nil => cases placed
  | cons node later inductionHypothesis =>
      rcases List.mem_cons.mp placed with rfl | further
      · exact ⟨0, rfl, rfl⟩
      · obtain ⟨position, found, place⟩ := inductionHypothesis further
        refine ⟨position + 1, found, ?_⟩
        rw [place, List.length_cons, Nat.add_right_comm, Nat.add_assoc]

/-- From the root of a tree, the place of a site leads down to it. -/
theorem descend?_place
    {node : Node}
    {site : Site}
    (inside : site ∈ (root node).subtree) :
    (root node).descend? site.place.reverse = some site := by
  have closed : ∀ inner ∈ (root node).subtree,
      (root node).descend? inner.place.reverse = some inner := by
    apply induction_on_subtree
    · rfl
    · intro inner _ inductionHypothesis child below
      obtain ⟨position, found, place⟩ := exists_position_of_mem_placeAll below
      rw [place, List.length_nil, Nat.zero_add, List.reverse_cons, descend?_concat]
      exact (congrArg (Option.bind · _) inductionHypothesis).trans found
  exact closed site inside

/-- Sites at different depths are at different places. -/
theorem place_ne_of_length_lt
    {site start : Site}
    (deeper : start.above.length < site.above.length) :
    site.place ≠ start.place := by
  intro same
  have lengths := congrArg List.length same
  rw [place, place, List.length_map, List.length_map] at lengths
  omega

theorem followingWithin?_self (start : Site) :
    start.followingWithin? start = none := by
  rw [followingWithin?, if_pos rfl]

/-- Below the start, after a child comes the next child, and after the last one what comes after
the parent. -/
theorem followingWithin?_of_placed
    {start : Site}
    {above : List Level}
    (below : start.above.length ≤ above.length)
    (parent node : Node)
    (earlier later : List Node) :
    followingWithin? ⟨node, ⟨parent, earlier, later⟩ :: above⟩ start =
      (placeAll parent above (node :: earlier) later).head?.or
        (followingWithin? ⟨parent, above⟩ start) := by
  have away : place ⟨node, ⟨parent, earlier, later⟩ :: above⟩ ≠ start.place :=
    place_ne_of_length_lt (Nat.lt_succ_of_le below)
  rw [followingWithin?, if_neg away]
  cases later <;> rfl

/-! ## The way of the cursor -/

/-- The sites that the cursor of a search comes to from a site on, if nothing is found. -/
def trail (start site : Site) : List Site :=
  site ::
    match _found : site.firstChild?.or (site.followingWithin? start) with
    | none => []
    | some next => trail start next
termination_by site.remaining
decreasing_by exact remaining_nextWithin_lt (by assumption)

/-- The sites that the cursor comes to when it goes on after a site and all that is below it. -/
def trailOn (start : Site) : Option Site → List Site
  | none => []
  | some next => trail start next

theorem trail_eq_cons (start site : Site) :
    trail start site =
      site :: trailOn start (site.firstChild?.or (site.followingWithin? start)) := by
  rw [trail]
  split <;> rename_i found <;> rw [found] <;> rfl

/-- A cursor that comes to the first of some siblings goes over them all and then on. -/
theorem trailOn_siblings
    {start : Site}
    {above : List Level}
    (below : start.above.length ≤ above.length)
    (parent : Node)
    (earlier nodes : List Node)
    (each : ∀ child ∈ placeAll parent above earlier nodes,
      trail start child = child.subtree ++ trailOn start (child.followingWithin? start)) :
    trailOn start
        ((placeAll parent above earlier nodes).head?.or (followingWithin? ⟨parent, above⟩ start)) =
      (placeAll parent above earlier nodes).flatMap subtree ++
        trailOn start (followingWithin? ⟨parent, above⟩ start) := by
  induction nodes generalizing earlier with
  | nil => rfl
  | cons node later inductionHypothesis =>
      have first := each _ List.mem_cons_self
      have others := inductionHypothesis (node :: earlier)
        fun child further => each child (List.mem_cons_of_mem _ further)
      rw [followingWithin?_of_placed below, others, ← List.append_assoc] at first
      exact first

/-- Below its start, a cursor goes over a site with all that is below it and then on. -/
theorem trail_eq_append
    {start site : Site}
    (below : start.above.length ≤ site.above.length) :
    trail start site = site.subtree ++ trailOn start (site.followingWithin? start) := by
  induction site using induction_on_children with
  | step site inductionHypothesis =>
      have children := trailOn_siblings below site.node [] site.node.children
        fun child placed => inductionHypothesis child placed (by
          obtain ⟨-, level, -, above⟩ := mem_placeAll placed
          rw [above]
          exact Nat.le_succ_of_le below)
      rw [trail_eq_cons, firstChild?_eq_head?, subtree_eq, List.cons_append]
      exact congrArg (site :: ·) children

/-- The cursor goes over the sites at and below its start, in document order, and stops. -/
theorem trail_self (start : Site) :
    trail start start = start.subtree := by
  rw [trail_eq_append (Nat.le_refl _), followingWithin?_self]
  exact List.append_nil _

/-! ## What a search finds -/

/-- A search succeeds if its cursor would come to a site with the property. -/
theorem anyWithin_eq_any_trail (start site : Site) :
    anyWithin holds start site = (trail start site).any fun inner => holds inner.node := by
  fun_induction anyWithin holds start site with
  | case1 site here => rw [trail_eq_cons, List.any_cons, here, Bool.true_or]
  | case2 site missing nothing =>
      rw [trail_eq_cons, nothing, List.any_cons, Bool.eq_false_iff.mpr missing]
      rfl
  | case3 site missing next found inductionHypothesis =>
      rw [trail_eq_cons, found, List.any_cons, Bool.eq_false_iff.mpr missing, Bool.false_or]
      exact inductionHypothesis

theorem anyBelow_eq (site : Site) :
    site.anyBelow holds = site.node.subtree.any holds := by
  rw [anyBelow, anyWithin_eq_any_trail, trail_self, ← map_node_subtree, List.any_map]
  rfl

/-- A search finds a node with a property if and only if one stands at or below its start. -/
theorem anyBelow_iff {site : Site} :
    site.anyBelow holds = true ↔ ∃ inner ∈ site.node.subtree, holds inner = true := by
  rw [anyBelow_eq, List.any_eq_true]

end Site

namespace Tree

/-- Sites of a tree are at the same place exactly if they have the same number. -/
theorem place_eq_iff_number_eq
    {tree : Tree}
    {left right : Site}
    (leftInside : left ∈ tree.site.subtree)
    (rightInside : right ∈ tree.site.subtree) :
    left.place = right.place ↔ left.number = right.number := by
  constructor
  · intro same
    have leads := Site.descend?_place leftInside
    rw [same, Site.descend?_place rightInside, Option.some.injEq] at leads
    rw [leads]
  · intro same
    rw [site_eq_of_number_eq leftInside rightInside same]

end Tree
end Syntax
end HouseStyle
