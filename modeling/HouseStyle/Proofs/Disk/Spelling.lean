import HouseStyle.Proofs.Disk.Tree

/-!
# Spellings of places

On a tree without links a path leads to a place piece by piece: a silent piece
stays, two dots go up and a name goes down, each from a folder.  Resolving a
path finds the place that it leads to, and fails if it leads nowhere.
-/

namespace HouseStyle
namespace Disk

/-- No item of the disk is a link. -/
def IsLinkFree (disk : Disk) : Prop :=
  ∀ entry ∈ disk.items, ∀ target, entry.2 ≠ .link target

/-- Where one piece of a path leads from a folder. -/
inductive Step (disk : Disk) : List String → String → List String → Prop where
  /-- Pieces that say nothing stay. -/
  | stay
      {place : List String}
      {piece : String}
      (isFolder : disk.itemAt? place = some .folder)
      (silent : piece = "" ∨ piece = ".") :
      Step disk place piece place
  /-- Two dots go up; above the root is the root. -/
  | up
      {place : List String}
      (isFolder : disk.itemAt? place = some .folder) :
      Step disk place ".." place.dropLast
  /-- A name goes down to the item that bears it. -/
  | down
      {place : List String}
      {name : String}
      {item : Item}
      (isFolder : disk.itemAt? place = some .folder)
      (isName : IsName name)
      (stands : disk.itemAt? (place ++ [name]) = some item) :
      Step disk place name (place ++ [name])

/-- Where the pieces of a path lead from a place. -/
inductive Leads (disk : Disk) : List String → List String → List String → Prop where
  | here (place : List String) : Leads disk place [] place
  | step
      {place next target : List String}
      {piece : String}
      {rest : List String}
      (first : Step disk place piece next)
      (further : Leads disk next rest target) :
      Leads disk place (piece :: rest) target

/-- The path, read from a folder unless it is absolute, leads to the place. -/
def IsSpelling
    (disk : Disk)
    (base : List String)
    (path : Path)
    (place : List String) : Prop :=
  Leads disk (if path.isAbsolute then [] else base) path.pieces place

variable
  {disk : Disk}
  {place next target base names : List String}
  {piece : String}
  {pieces more : List String}
  {item : Item}

theorem Step.isFolder (first : Step disk place piece next) :
    disk.itemAt? place = some .folder := by
  cases first with
  | stay isFolder => exact isFolder
  | up isFolder => exact isFolder
  | down isFolder => exact isFolder

theorem leads_append_iff :
    Leads disk place (pieces ++ more) target ↔
      ∃ next, Leads disk place pieces next ∧ Leads disk next more target := by
  constructor
  · intro leads
    induction pieces generalizing place with
    | nil => exact ⟨place, .here place, leads⟩
    | cons piece rest inductionHypothesis =>
        cases leads with
        | step first further =>
            obtain ⟨next, before, after⟩ := inductionHypothesis further
            exact ⟨next, .step first before, after⟩
  · rintro ⟨next, before, after⟩
    induction before with
    | here => exact after
    | step first _ inductionHypothesis => exact .step first (inductionHypothesis after)

/-- The names of an item lead to it, from any folder above it. -/
theorem IsTree.leads_names
    (tree : disk.IsTree)
    (stands : disk.itemAt? (place ++ names) = some item) :
    Leads disk place names (place ++ names) := by
  induction names generalizing place with
  | nil =>
      rw [List.append_nil]
      exact .here place
  | cons name rest inductionHypothesis =>
      rw [List.append_cons] at stands ⊢
      have isName := tree.isName_of_itemAt? stands name (by simp)
      obtain ⟨found, below⟩ : ∃ found, disk.itemAt? (place ++ [name]) = some found := by
        by_cases ended : rest = []
        · rw [ended, List.append_nil] at stands
          exact ⟨item, stands⟩
        · exact ⟨.folder, tree.itemAt?_of_append stands ended⟩
      have above := tree.itemAt?_of_append below (List.cons_ne_nil name [])
      exact .step (.down above isName below) (inductionHypothesis stands)

/-! ## Resolving a path -/

theorem IsLinkFree.itemAt?_ne_link
    (linkFree : disk.IsLinkFree)
    (tree : disk.IsTree)
    (place : List String)
    (target : String) :
    disk.itemAt? place ≠ some (.link target) := by
  intro stands
  by_cases written : place = []
  · rw [written] at stands
    cases stands
  · exact linkFree _ ((tree.itemAt?_eq_some_iff written).mp stands) target rfl

/-- Without links, one piece is followed by a step, and the rest from where it leads. -/
theorem follow_of_step
    (linkFree : disk.IsLinkFree)
    (tree : disk.IsTree)
    (first : Step disk place piece next)
    (links : Nat) :
    disk.follow false links place (piece :: pieces) = disk.follow false links next pieces := by
  have isFolder := not_not_intro first.isFolder
  cases first with
  | stay _ silent => rw [follow, if_neg isFolder, if_pos silent]
  | up _ => rw [follow, if_neg isFolder, if_neg (by decide), if_pos rfl]
  | down above isName stands =>
      apply follow_cons isName above stands
      rintro target rfl
      exact linkFree.itemAt?_ne_link tree _ target stands

/-- Without links, pieces are followed to the place that they lead to. -/
theorem follow_eq_ok_iff
    (linkFree : disk.IsLinkFree)
    (tree : disk.IsTree)
    (links : Nat) :
    disk.follow false links place pieces = .ok target ↔ Leads disk place pieces target := by
  constructor
  · intro found
    -- along the pieces; without links no piece puts others in its place
    fun_induction follow disk false links place pieces with
    | case1 links place =>
        cases found
        exact .here _
    | case2 | case5 | case7 | case8 => cases found
    | case3 links place piece rest isFolder silent inductionHypothesis =>
        exact .step (.stay (not_not.mp isFolder) silent) (inductionHypothesis found)
    | case4 links place rest isFolder telling inductionHypothesis =>
        exact .step (.up (not_not.mp isFolder)) (inductionHypothesis found)
    | case6 links place piece rest isFolder telling down short missing made => cases made
    | case9 place piece rest isFolder telling down short target link =>
        exact absurd link (linkFree.itemAt?_ne_link tree _ _)
    | case10 links place piece rest isFolder telling down short item noLink stands
        inductionHypothesis =>
        have isName := tree.isName_of_itemAt? stands piece (by simp)
        exact .step (.down (not_not.mp isFolder) isName stands) (inductionHypothesis found)
  · intro leads
    induction leads with
    | here => rw [follow]
    | step first _ inductionHypothesis =>
        rw [follow_of_step linkFree tree first, inductionHypothesis]

/-- Pieces lead from a place to one place only. -/
theorem Leads.unique
    {other : List String}
    (linkFree : disk.IsLinkFree)
    (tree : disk.IsTree)
    (first : Leads disk place pieces target)
    (second : Leads disk place pieces other) :
    target = other := by
  rw [← follow_eq_ok_iff linkFree tree linkLimit] at first second
  rw [first] at second
  exact Except.ok.inj second

theorem Step.nul_notMem (first : Step disk place piece next) : '\x00' ∉ piece.toList := by
  cases first with
  | stay _ silent => rcases silent with rfl | rfl <;> decide
  | up _ => decide
  | down _ isName _ => exact isName.2.2.1

theorem Leads.nul_notMem (leads : Leads disk place pieces target) :
    ∀ piece ∈ pieces, '\x00' ∉ piece.toList := by
  induction leads with
  | here => exact fun _ listed => absurd listed List.not_mem_nil
  | step first _ inductionHypothesis =>
      exact List.forall_mem_cons.mpr ⟨first.nul_notMem, inductionHypothesis⟩

/-- Without links, a path resolves to the place that it leads to. -/
theorem resolve_eq_ok_iff
    (linkFree : disk.IsLinkFree)
    (tree : disk.IsTree)
    {path : Path} :
    disk.resolve path = .ok place ↔
      path.isEmpty = false ∧ IsSpelling disk disk.workingFolder path place := by
  rw [resolve, IsSpelling, ← follow_eq_ok_iff linkFree tree linkLimit]
  by_cases nul : path.holdsNul = true
  · simp only [nul, if_true, reduceCtorEq, false_iff, not_and]
    intro _ follows
    have absent := ((follow_eq_ok_iff linkFree tree linkLimit).mp follows).nul_notMem
    rw [Path.holdsNul, List.any_eq_true] at nul
    obtain ⟨piece, listed, found⟩ := nul
    exact absent piece listed (List.contains_iff_mem.mp found)
  · rw [if_neg nul]
    cases path.isEmpty <;> simp

end Disk
end HouseStyle
