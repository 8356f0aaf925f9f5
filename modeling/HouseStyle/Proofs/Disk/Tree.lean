import HouseStyle.Disk
import HouseStyle.Proofs.Association

/-!
# Disks that are trees

On a disk that is a tree every item has a place of its own, stands in a folder
and bears names that files and folders can have.  Then the path with the names
of a folder leads to that folder, and the order in which the items are listed
does not matter to where a path leads.
-/

namespace HouseStyle
namespace Disk

/-- The text can name a file or a folder. -/
def IsName (name : String) : Prop :=
  name ∉ ["", ".", ".."] ∧ '/' ∉ name.toList ∧ '\x00' ∉ name.toList ∧
    name.utf8ByteSize ≤ nameLimit

instance (name : String) : Decidable (IsName name) :=
  inferInstanceAs (Decidable (_ ∧ _))

/-- The items of the disk form a tree below the root. -/
structure IsTree (disk : Disk) : Prop where
  distinct : (disk.items.map Prod.fst).Nodup
  placed : ∀ entry ∈ disk.items, entry.1 ≠ []
  named : ∀ entry ∈ disk.items, ∀ name ∈ entry.1, IsName name
  nested : ∀ entry ∈ disk.items, disk.itemAt? entry.1.dropLast = some .folder

variable
  {disk other : Disk}
  {names front rest : List String}
  {item : Item}

/-! ## Items -/

theorem itemAt?_of_ne_nil (written : names ≠ []) :
    disk.itemAt? names = disk.items.lookup names := by
  cases names with
  | nil => exact absurd rfl written
  | cons name more => rfl

theorem IsTree.itemAt?_eq_some_iff
    (tree : disk.IsTree)
    (written : names ≠ []) :
    disk.itemAt? names = some item ↔ (names, item) ∈ disk.items := by
  rw [itemAt?_of_ne_nil written]
  exact Association.lookup_eq_some_iff_mem tree.distinct

theorem IsTree.isName_of_itemAt?
    (tree : disk.IsTree)
    (stands : disk.itemAt? names = some item) :
    ∀ name ∈ names, IsName name := by
  by_cases written : names = []
  · simp [written]
  · exact tree.named _ ((tree.itemAt?_eq_some_iff written).mp stands)

/-- What stands below a place stands in a folder. -/
theorem IsTree.itemAt?_of_append
    (tree : disk.IsTree)
    (stands : disk.itemAt? (front ++ rest) = some item)
    (further : rest ≠ []) :
    disk.itemAt? front = some .folder := by
  induction rest using List.reverseRecOn generalizing item with
  | nil => exact absurd rfl further
  | append_singleton before last inductionHypothesis =>
      have written : front ++ (before ++ [last]) ≠ [] := by simp
      have above := tree.nested _ ((tree.itemAt?_eq_some_iff written).mp stands)
      rw [← List.append_assoc, List.dropLast_concat] at above
      by_cases ended : before = []
      · rwa [ended, List.append_nil] at above
      · exact inductionHypothesis above ended

/-- The order in which the items are listed does not matter to what stands at a place. -/
theorem IsTree.itemAt?_of_perm
    (tree : disk.IsTree)
    (listed : other.items.Perm disk.items) :
    other.itemAt? = disk.itemAt? := by
  funext names
  by_cases written : names = []
  · rw [written, itemAt?, itemAt?]
  · rw [itemAt?_of_ne_nil written, itemAt?_of_ne_nil written]
    exact Association.lookup_eq_of_perm tree.distinct listed.symm

theorem IsTree.of_perm
    (tree : disk.IsTree)
    (listed : other.items.Perm disk.items) :
    other.IsTree where
  distinct := (listed.map Prod.fst).nodup_iff.mpr tree.distinct
  placed entry found := tree.placed entry (listed.mem_iff.mp found)
  named entry found := tree.named entry (listed.mem_iff.mp found)
  nested entry found := by
    rw [tree.itemAt?_of_perm listed]
    exact tree.nested entry (listed.mem_iff.mp found)

/-! ## Paths -/

theorem follow_congr
    (same : other.itemAt? = disk.itemAt?)
    (creating : Bool)
    (links : Nat)
    (place pieces : List String) :
    other.follow creating links place pieces = disk.follow creating links place pieces := by
  fun_induction follow disk creating links place pieces with
  | case1 links place => rw [follow]
  | case2 links place piece rest noFolder => rw [follow, same, if_pos noFolder]
  | case3 links place piece rest isFolder silent inductionHypothesis =>
      rw [follow, same, if_neg isFolder, if_pos silent, inductionHypothesis]
  | case4 links place rest isFolder telling inductionHypothesis =>
      rw [follow, same, if_neg isFolder, if_neg telling, if_pos rfl, inductionHypothesis]
  | case5 links place piece rest isFolder telling down long =>
      rw [follow, same, if_neg isFolder, if_neg telling, if_neg down, if_pos long]
  | case6 links place piece rest isFolder telling down short missing made =>
      rw [follow, same, if_neg isFolder, if_neg telling, if_neg down, if_neg short, missing]
      exact if_pos made
  | case7 links place piece rest isFolder telling down short missing notMade =>
      rw [follow, same, if_neg isFolder, if_neg telling, if_neg down, if_neg short, missing]
      exact if_neg notMade
  | case8 place piece rest isFolder telling down short target link =>
      rw [follow, same, if_neg isFolder, if_neg telling, if_neg down, if_neg short, link]
  | case9 place piece rest isFolder telling down short target link fewer path inductionHypothesis =>
      rw [follow, same, if_neg isFolder, if_neg telling, if_neg down, if_neg short, link]
      exact inductionHypothesis
  | case10 links place piece rest isFolder telling down short item noLink stands
      inductionHypothesis =>
      rw [follow, same, if_neg isFolder, if_neg telling, if_neg down, if_neg short, stands]
      cases item with
      | link target => exact absurd rfl (noLink target)
      | file text => exact inductionHypothesis
      | folder => exact inductionHypothesis

theorem resolve_congr
    (same : other.itemAt? = disk.itemAt?)
    (sameFolder : other.workingFolder = disk.workingFolder)
    (path : Path) :
    other.resolve path = disk.resolve path := by
  rw [resolve, resolve, sameFolder, follow_congr same]

/-- A name leads from a folder to the item in it that bears the name, unless that is a link. -/
theorem follow_cons
    {name : String}
    {place : List String}
    (isName : IsName name)
    (above : disk.itemAt? place = some .folder)
    (below : disk.itemAt? (place ++ [name]) = some item)
    (noLink : ∀ target, item ≠ .link target)
    (links : Nat)
    (more : List String) :
    disk.follow false links place (name :: more) =
      disk.follow false links (place ++ [name]) more := by
  obtain ⟨telling, -, -, short⟩ := isName
  simp only [List.mem_cons, List.not_mem_nil, or_false, not_or] at telling
  obtain ⟨written, noDot, noDots⟩ := telling
  rw [follow, if_neg (not_not_intro above), if_neg (not_or.mpr ⟨written, noDot⟩), if_neg noDots,
    if_neg (Nat.not_lt.mpr short), below]
  cases item with
  | link target => exact absurd rfl (noLink target)
  | file text => rfl
  | folder => rfl

theorem follow_names
    (links : Nat)
    (place : List String)
    (isName : ∀ name ∈ names, IsName name)
    (folders : ∀ begun, begun <+: names → disk.itemAt? (place ++ begun) = some .folder) :
    disk.follow false links place names = .ok (place ++ names) := by
  induction names generalizing place with
  | nil => rw [follow, List.append_nil]
  | cons name more inductionHypothesis =>
      rw [List.forall_mem_cons] at isName
      have above := folders [] List.nil_prefix
      rw [List.append_nil] at above
      have below := folders [name] (List.prefix_append [name] more)
      rw [follow_cons isName.1 above below (by simp), inductionHypothesis _ isName.2, List.append_assoc,
        List.singleton_append]
      intro begun begins
      rw [List.append_assoc, List.singleton_append]
      exact folders (name :: begun) (List.cons_prefix_cons.mpr ⟨rfl, begins⟩)

/-- The path with the names of a folder leads to the folder. -/
theorem IsTree.resolve_ofNames
    (tree : disk.IsTree)
    (isFolder : disk.itemAt? names = some .folder) :
    disk.resolve (Path.ofNames names) = .ok names := by
  have isName := tree.isName_of_itemAt? isFolder
  have noNul : ¬ (Path.ofNames names).holdsNul = true := by
    rw [Path.holdsNul, List.any_eq_true]
    rintro ⟨name, listed, found⟩
    exact (isName name listed).2.2.1 (List.contains_iff_mem.mp found)
  have written : ¬ (Path.ofNames names).isEmpty = true := by
    simp [Path.isEmpty, Path.text, Path.ofNames]
  rw [resolve, if_neg noNul, if_neg written]
  apply follow_names linkLimit [] isName
  intro begun begins
  obtain ⟨rest, rfl⟩ := begins
  rw [List.nil_append]
  by_cases ended : rest = []
  · rwa [ended, List.append_nil] at isFolder
  · exact tree.itemAt?_of_append isFolder ended

end Disk
end HouseStyle
