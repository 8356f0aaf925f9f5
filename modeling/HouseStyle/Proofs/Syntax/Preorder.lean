import HouseStyle.Proofs.Syntax.Sites

/-!
# Walks as recursion

A walk moves a cursor: down to a first child, or on to the next sibling of a
node or of its nearest ancestor that has one.  From the root of a tree this is
the plain recursion that visits a site and then, unless the visitor declines,
its children from left to right.

Where the visitor's decisions to descend depend on the site alone, the sites
visited are those with no declined site above them.
-/

namespace HouseStyle
namespace Syntax
namespace Site

variable {S : Type}

/-! ## The recursion -/

mutual

/-- Visits a node below given levels and, unless the visitor declines, all that is below it. -/
def traverseNode
    (visit : Site → S → S × Descent)
    (above : List Level) : Node → S → S
  | .branch label children, state =>
      let visited := visit ⟨.branch label children, above⟩ state
      match visited.2 with
      | .skip => visited.1
      | .enter => traverseAll visit (.branch label children) above [] children visited.1

/-- Visits the nodes of a list one after the other, given their parent and the siblings before. -/
def traverseAll
    (visit : Site → S → S × Descent)
    (parent : Node)
    (above : List Level)
    (earlier : List Node) : List Node → S → S
  | [], state => state
  | node :: later, state =>
      traverseAll visit parent above (node :: earlier) later
        (traverseNode visit (⟨parent, earlier, later⟩ :: above) node state)

end

/-- Visits a site and, unless the visitor declines, all that is below it. -/
def traverse
    (visit : Site → S → S × Descent)
    (site : Site)
    (state : S) : S :=
  traverseNode visit site.above site.node state

theorem traverseAll_eq_foldl
    (visit : Site → S → S × Descent)
    (parent : Node)
    (above : List Level)
    (earlier nodes : List Node)
    (state : S) :
    traverseAll visit parent above earlier nodes state =
      (placeAll parent above earlier nodes).foldl (fun state child => child.traverse visit state)
        state := by
  induction nodes generalizing earlier state with
  | nil => rfl
  | cons node later inductionHypothesis =>
      rw [traverseAll, placeAll, List.foldl_cons, inductionHypothesis]
      rfl

theorem traverse_of_skip
    {visit : Site → S → S × Descent}
    {site : Site}
    {state : S}
    (declined : (visit site state).2 = .skip) :
    site.traverse visit state = (visit site state).1 := by
  obtain ⟨⟨label, children⟩, above⟩ := site
  simp only [traverse, traverseNode, declined]

theorem traverse_of_enter
    {visit : Site → S → S × Descent}
    {site : Site}
    {state : S}
    (entered : (visit site state).2 = .enter) :
    site.traverse visit state =
      site.children.foldl (fun state child => child.traverse visit state)
        (visit site state).1 := by
  obtain ⟨⟨label, children⟩, above⟩ := site
  simp only [traverse, traverseNode, entered]
  exact traverseAll_eq_foldl visit _ above [] children _

/-! ## The cursor loop -/

/-- Goes on with a walk after a site and all that is below it. -/
def resume
    (visit : Site → S → S × Descent)
    (next : Option Site)
    (state : S) : S :=
  match next with
  | none => state
  | some site => site.walkFrom visit state

theorem walkFrom_eq_resume
    (visit : Site → S → S × Descent)
    (site : Site)
    (state : S) :
    site.walkFrom visit state =
      resume visit (site.next? (visit site state).2) (visit site state).1 := by
  rw [walkFrom]
  split <;> rename_i found <;> rw [found] <;> rfl

/-- Two walks whose visitors keep their states related and descend alike end in related states. -/
theorem walkFrom_related
    {T : Type}
    {visit : Site → S → S × Descent}
    {visitOther : Site → T → T × Descent}
    {related : S → T → Prop}
    (step : ∀ site state other, related state other →
      related (visit site state).1 (visitOther site other).1 ∧
        (visit site state).2 = (visitOther site other).2)
    (site : Site)
    (state : S)
    (other : T)
    (start : related state other) :
    related (site.walkFrom visit state) (site.walkFrom visitOther other) := by
  fun_induction Site.walkFrom visit site state generalizing other with
  | case1 site state visited nothing =>
      obtain ⟨stillRelated, alike⟩ := step site state other start
      rw [walkFrom_eq_resume visitOther, ← alike, nothing]
      exact stillRelated
  | case2 site state visited next found inductionHypothesis =>
      obtain ⟨stillRelated, alike⟩ := step site state other start
      rw [walkFrom_eq_resume visitOther, ← alike, found]
      exact inductionHypothesis _ stillRelated

theorem firstChild?_eq_head? (site : Site) :
    site.firstChild? = site.children.head? := by
  obtain ⟨⟨label, children⟩, above⟩ := site
  cases children <;> rfl

theorem following?_root (node : Node) :
    (root node).following? = none := by
  rw [following?]
  rfl

/-- After a child comes the next child, and after the last one what comes after the parent. -/
theorem following?_of_placed
    (parent node : Node)
    (above : List Level)
    (earlier later : List Node) :
    following? ⟨node, ⟨parent, earlier, later⟩ :: above⟩ =
      (placeAll parent above (node :: earlier) later).head?.or (following? ⟨parent, above⟩) := by
  cases later with
  | nil => exact following?_of_parent rfl rfl
  | cons next more => exact following?_of_sibling rfl

/-- A walk that starts at the first of some siblings visits them all and then goes on. -/
theorem walkFrom_siblings
    {visit : Site → S → S × Descent}
    (parent : Node)
    (above : List Level)
    (earlier nodes : List Node)
    (state : S)
    (each : ∀ child ∈ placeAll parent above earlier nodes, ∀ state,
      child.walkFrom visit state = resume visit child.following? (child.traverse visit state)) :
    resume visit ((placeAll parent above earlier nodes).head?.or (following? ⟨parent, above⟩))
        state =
      resume visit (following? ⟨parent, above⟩)
        ((placeAll parent above earlier nodes).foldl
          (fun state child => child.traverse visit state) state) := by
  induction nodes generalizing earlier state with
  | nil => rfl
  | cons node later inductionHypothesis =>
      have first := each _ List.mem_cons_self state
      have others := inductionHypothesis (node :: earlier)
        (traverse visit ⟨node, ⟨parent, earlier, later⟩ :: above⟩ state)
        fun child below => each child (List.mem_cons_of_mem _ below)
      rw [following?_of_placed] at first
      rw [placeAll, List.foldl_cons, ← others]
      exact first

/-- A walk visits a site with all that is below it and then goes on with what follows. -/
theorem walkFrom_eq_resume_traverse
    (visit : Site → S → S × Descent)
    (site : Site)
    (state : S) :
    site.walkFrom visit state = resume visit site.following? (site.traverse visit state) := by
  induction site using induction_on_children generalizing state with
  | step site inductionHypothesis =>
      rw [walkFrom_eq_resume]
      cases descent : (visit site state).2 with
      | skip => rw [traverse_of_skip descent, next?]
      | enter =>
          rw [traverse_of_enter descent, next?, firstChild?_eq_head?]
          exact walkFrom_siblings site.node site.above [] site.node.children
            (visit site state).1 inductionHypothesis

/-- From the root of a tree, the cursor loop is the recursion. -/
theorem walkFrom_root
    (visit : Site → S → S × Descent)
    (node : Node)
    (state : S) :
    (root node).walkFrom visit state = (root node).traverse visit state := by
  rw [walkFrom_eq_resume_traverse, following?_root]
  rfl

/-! ## The sites that a walk visits -/

/-- No named node above the site has one of some kinds. -/
def IsOutside (kinds : List Kind) (site : Site) : Prop :=
  ∀ outer ∈ site.ancestors, outer.node.isNamed = true → outer.kind ∉ kinds

instance (kinds : List Kind) (site : Site) : Decidable (site.IsOutside kinds) :=
  inferInstanceAs (Decidable (∀ outer ∈ site.ancestors, _ → _))

theorem isOutside_of_mem_children
    {kinds : List Kind}
    {site child : Site}
    (below : child ∈ site.children)
    (clear : ∀ outer ∈ site :: site.ancestors, outer.node.isNamed = true → outer.kind ∉ kinds) :
    child.IsOutside kinds := by
  rw [IsOutside, ancestors_of_mem_children below]
  exact clear

/-- No named site above is one that a walk does not descend from. -/
def isOpen (descends : Site → Descent) (site : Site) : Bool :=
  site.ancestors.all fun outer => !(outer.node.isNamed && descends outer == .skip)

/-- The named sites at and below a site that a walk comes to. -/
def reached (descends : Site → Descent) (site : Site) : List Site :=
  site.subtree.filter fun inner => inner.node.isNamed && inner.isOpen descends

theorem isOpen_of_mem_children
    {descends : Site → Descent}
    {site child : Site}
    (below : child ∈ site.children) :
    child.isOpen descends =
      (!(site.node.isNamed && descends site == .skip) && site.isOpen descends) := by
  rw [isOpen, ancestors_of_mem_children below, List.all_cons]
  rfl

theorem reached_eq_nil_of_not_isOpen
    {descends : Site → Descent}
    {site : Site}
    (closed : site.isOpen descends = false) :
    site.reached descends = [] := by
  have allClosed : ∀ inner ∈ site.subtree, inner.isOpen descends = false := by
    refine induction_on_subtree closed ?_
    intro inner _ innerClosed child below
    rw [isOpen_of_mem_children below, innerClosed, Bool.and_false]
  rw [reached, List.filter_eq_nil_iff]
  intro inner inside
  rw [allClosed inner inside, Bool.and_false]
  exact Bool.false_ne_true

theorem reached_eq
    (descends : Site → Descent)
    (site : Site) :
    site.reached descends =
      (if site.node.isNamed && site.isOpen descends then [site] else []) ++
        site.children.flatMap (reached descends) := by
  rw [reached, subtree_eq, List.filter_cons, List.filter_flatMap]
  split <;> rfl

section Reading

variable
  {visit : Site → S → S × Descent}
  {keeps : S → Prop}
  {descends : Site → Descent}

/-- At a site the visitor descends or not by the site alone, on states with a property that it
keeps. -/
def DescendsBy
    (visit : Site → S → S × Descent)
    (keeps : S → Prop)
    (descends : Site → Descent)
    (site : Site) : Prop :=
  ∀ state, keeps state →
    keeps (visit site state).1 ∧
      (visit site state).2 = descends site

/-- A traversal of a site folds the visitor over the sites reached from it. -/
def FoldsReached
    (visit : Site → S → S × Descent)
    (keeps : S → Prop)
    (descends : Site → Descent)
    (site : Site) : Prop :=
  ∀ state, keeps state →
    site.traverse (onNamed visit) state =
        (site.reached descends).foldl (fun state inner => (visit inner state).1) state ∧
      keeps (site.traverse (onNamed visit) state)

theorem foldl_traverse
    (sites : List Site)
    (each : ∀ site ∈ sites, FoldsReached visit keeps descends site)
    (state : S)
    (kept : keeps state) :
    sites.foldl (fun state site => site.traverse (onNamed visit) state) state =
        (sites.flatMap (reached descends)).foldl
          (fun state inner => (visit inner state).1) state ∧
      keeps (sites.foldl (fun state site => site.traverse (onNamed visit) state) state) := by
  induction sites generalizing state with
  | nil => exact ⟨rfl, kept⟩
  | cons site rest inductionHypothesis =>
      obtain ⟨folded, stillKept⟩ := each site List.mem_cons_self state kept
      have others := inductionHypothesis
        (fun other present => each other (List.mem_cons_of_mem _ present)) _ stillKept
      rw [List.foldl_cons, List.flatMap_cons, List.foldl_append, ← folded]
      exact others

theorem flatMap_reached_eq_nil
    {site : Site}
    (named : site.node.isNamed = true)
    (declined : descends site = .skip) :
    site.children.flatMap (reached descends) = [] := by
  rw [List.flatMap_eq_nil_iff]
  intro child below
  apply reached_eq_nil_of_not_isOpen
  rw [isOpen_of_mem_children below, named, declined]
  rfl

/-- A walk whose visitor descends or not by the site alone folds over the reached sites. -/
theorem traverse_onNamed
    (site : Site)
    (byPlace : ∀ inner ∈ site.subtree, DescendsBy visit keeps descends inner)
    (opened : site.isOpen descends = true) :
    FoldsReached visit keeps descends site := by
  induction site using induction_on_children with
  | step site inductionHypothesis =>
      intro state kept
      have below (enters : (site.node.isNamed && descends site == .skip) = false) :
          ∀ child ∈ site.children, FoldsReached visit keeps descends child := by
        intro child childBelow
        refine inductionHypothesis child childBelow ?_ ?_
        · intro inner inside
          exact byPlace inner (mem_subtree_iff.mpr (Or.inr ⟨child, childBelow, inside⟩))
        · rw [isOpen_of_mem_children childBelow, enters, opened]
          rfl
      obtain ⟨nowKept, descent⟩ := byPlace site site.self_mem_subtree state kept
      rw [reached_eq, opened]
      cases named : site.node.isNamed with
      | false =>
          have passed : onNamed visit site state = (state, .enter) := by
            simp [onNamed, named]
          rw [traverse_of_enter (congrArg Prod.snd passed), passed]
          exact foldl_traverse _ (below (by rw [named]; rfl)) state kept
      | true =>
          have visited : onNamed visit site state = visit site state := by
            simp [onNamed, named]
          have descended := (congrArg Prod.snd visited).trans descent
          cases declined : descends site with
          | skip =>
              rw [traverse_of_skip (descended.trans declined), visited,
                flatMap_reached_eq_nil named declined]
              exact ⟨rfl, nowKept⟩
          | enter =>
              rw [traverse_of_enter (descended.trans declined), visited]
              exact foldl_traverse _ (below (by rw [named, declined]; rfl)) _ nowKept

end Reading

end Site
end Syntax
end HouseStyle
