import HouseStyle.Proofs.Text.Bytes
import HouseStyle.Proofs.Text.Lines
import HouseStyle.Proofs.Workspace.Walk

/-!
# Loading a project

The group of a project lists the source files below its root that are not
passed over, each once and in the order of the bytes of their paths.  The
order in which the disk lists its items has no say in it.
-/

namespace HouseStyle
namespace Workspace

/-- After the last dot of the name stands `cs`, in letters of any case. -/
def IsSourceName (name : String) : Prop :=
  ∃ ending, '.' :: ending <:+ name.toList ∧ '.' ∉ ending ∧ Text.lower ending = ['c', 's']

/-- The names lead from the root to a source file that is not passed over. -/
structure IsSourceFile (disk : Disk) (root names : List String) : Prop where
  stands : ∃ text, disk.itemAt? (root ++ names) = some (.file text)
  kept : ∀ name ∈ names, name ∉ skippedNames
  isSource : ∃ name, names.getLast? = some name ∧ IsSourceName name

/-- The same items stand below two roots, on one disk or on two. -/
def SameBelow
    (disk : Disk)
    (root : List String)
    (other : Disk)
    (otherRoot : List String) : Prop :=
  ∀ names, names ≠ [] → disk.itemAt? (root ++ names) = other.itemAt? (otherRoot ++ names)

/-- The artifact with a number for the file under given names below a root. -/
def artifactAt
    (root names : List String)
    (number : Nat) : Artifact :=
  Artifact.make number (joinNames names) (.onDisk (Path.ofNames (root ++ names)))

variable
  {disk other : Disk}
  {root otherRoot names : List String}

/-! ## Joined names -/

/-- A path is its names with slashes between them. -/
theorem toList_joinNames (names : List String) :
    (joinNames names).toList = ['/'].intercalate (names.map String.toList) :=
  String.toList_intercalate

/-- A path is that of a source file exactly if `cs` follows its last dot, in letters of any case. -/
theorem isSourcePath_iff {path : String} :
    Artifact.isSourcePath path = true ↔
      ∃ ending, '.' :: ending <:+ path.toList ∧ '.' ∉ ending ∧ Text.lower ending = ['c', 's'] := by
  have small : Text.lower ['c', 's'] = ['c', 's'] := by
    decide
  rw [Artifact.isSourcePath, Option.any_eq_true]
  apply exists_congr
  intro ending
  rw [Text.sameIgnoringCase_iff, small, Text.afterLast?_eq_some_iff]
  constructor
  · rintro ⟨⟨before, same, absent⟩, spelled⟩
    exact ⟨⟨before, same.symm⟩, absent, spelled⟩
  · rintro ⟨⟨before, same⟩, absent, spelled⟩
    exact ⟨⟨before, same.symm, absent⟩, spelled⟩

/-- Whether a path is that of a source file is told by its last name. -/
theorem isSourcePath_joinNames_iff
    {name : String}
    (last : names.getLast? = some name) :
    Artifact.isSourcePath (joinNames names) = true ↔ IsSourceName name := by
  have isTail : Text.IsTail '/' (joinNames names).toList name.toList := by
    rw [toList_joinNames]
    apply Text.isTail_intercalate
    rw [List.getLast?_map, last, Option.map_some]
  rw [isSourcePath_iff, IsSourceName]
  apply exists_congr
  intro ending
  apply and_congr_left
  rintro ⟨-, spelled⟩
  apply isTail.isSuffix_iff
  have absent : '/' ∉ ending := by
    rw [← Text.mem_lower_iff (by decide), spelled]
    decide
  simp [absent]

/-- Names can be read back from the path that they are joined to. -/
theorem ofText_joinNames
    (written : names ≠ [])
    (isName : ∀ name ∈ names, Disk.IsName name) :
    Path.ofText (joinNames names) = ⟨false, names⟩ := by
  have pieces : Text.pieces '/' (joinNames names).toList = names.map String.toList := by
    rw [toList_joinNames]
    apply Text.pieces_intercalate
    · simpa using written
    · intro text found
      obtain ⟨name, known, rfl⟩ := List.mem_map.mp found
      exact (isName name known).2.1
  have relative : (joinNames names).toList.head? ≠ some '/' := by
    intro starts
    obtain ⟨rest, begins⟩ := List.head?_eq_some_iff.mp starts
    rw [begins, Text.pieces, if_pos rfl] at pieces
    -- a slash at the start would leave an empty first name
    have unnamed : [] ∈ names.map String.toList := pieces ▸ List.mem_cons_self
    obtain ⟨name, known, empty⟩ := List.mem_map.mp unnamed
    rw [String.toList_eq_nil_iff] at empty
    exact (isName name known).1 (empty ▸ List.mem_cons_self)
  rw [Path.ofText]
  split
  · rename_i rest starts
    exact absurd (by rw [starts, List.head?_cons]) relative
  · rw [pieces, List.map_map]
    simp

/-- A relative path is read from a root by putting its pieces after the names of the root. -/
theorem join_ofNames
    {file : Path}
    (rootNamed : ∀ name ∈ root, Disk.IsName name)
    (relative : file.isAbsolute = false) :
    (Path.ofNames root).join file = ⟨true, root ++ file.pieces⟩ := by
  have noGap : ¬ (Path.ofNames root).pieces.getLast? = some "" := by
    intro gap
    exact (rootNamed "" (List.mem_of_getLast? gap)).1 (by decide)
  rw [Path.join, relative, if_neg Bool.false_ne_true, if_neg noGap]
  rfl

/-- The path of a file below a root leads, when joined to the root, through the names of both. -/
theorem join_ofText_joinNames
    (rootNamed : ∀ name ∈ root, Disk.IsName name)
    (written : names ≠ [])
    (isName : ∀ name ∈ names, Disk.IsName name) :
    (Path.ofNames root).join (Path.ofText (joinNames names)) = Path.ofNames (root ++ names) := by
  rw [ofText_joinNames written isName, join_ofNames rootNamed rfl]
  rfl

/-! ## Paths of source files -/

/-- What the walk from a folder finds bears names that files and folders can have. -/
theorem isName_of_mem_walk
    (tree : disk.IsTree)
    (isFolder : disk.itemAt? root = some .folder)
    (found : names ∈ walk disk root .folder) :
    names ≠ [] ∧ ∀ name ∈ names, Disk.IsName name := by
  obtain ⟨-, -, text, stands⟩ := (mem_walk_iff tree isFolder).mp found
  constructor
  · rintro rfl
    rw [List.append_nil, isFolder] at stands
    cases stands
  · intro name isListed
    exact tree.isName_of_itemAt? stands name (List.mem_append_right root isListed)

theorem filePaths_of_isFolder (isFolder : disk.itemAt? root = some .folder) :
    filePaths disk root = (walk disk root .folder).map joinNames := by
  rw [filePaths, isFolder]

/-- Different files have different paths, since names hold no slash. -/
theorem nodup_filePaths
    (tree : disk.IsTree)
    (isFolder : disk.itemAt? root = some .folder) :
    (filePaths disk root).Nodup := by
  rw [filePaths_of_isFolder isFolder]
  apply List.Nodup.map_on
  · intro left foundLeft right foundRight same
    have leftNamed := isName_of_mem_walk tree isFolder foundLeft
    have rightNamed := isName_of_mem_walk tree isFolder foundRight
    have paths := congrArg Path.ofText same
    rw [ofText_joinNames leftNamed.1 leftNamed.2, ofText_joinNames rightNamed.1 rightNamed.2]
      at paths
    exact congrArg Path.pieces paths
  · exact nodup_walk tree

theorem sourcePaths_perm (disk : Disk) (root : List String) :
    (sourcePaths disk root).Perm ((filePaths disk root).filter Artifact.isSourcePath) :=
  List.mergeSort_perm _ _

theorem pairwise_le_sourcePaths (disk : Disk) (root : List String) :
    (sourcePaths disk root).Pairwise (· ≤ ·) := by
  have sorted : (sourcePaths disk root).Pairwise fun left right =>
      decide (left ≤ right) = true := by
    apply List.pairwise_mergeSort
    · intro first second third
      simpa using String.le_trans
    · intro first second
      simpa using String.le_total first second
  exact sorted.imp of_decide_eq_true

theorem nodup_sourcePaths
    (tree : disk.IsTree)
    (isFolder : disk.itemAt? root = some .folder) :
    (sourcePaths disk root).Nodup :=
  (sourcePaths_perm disk root).nodup_iff.mpr ((nodup_filePaths tree isFolder).filter _)

/-- The order of paths is that of their bytes, and no two of them are the same. -/
theorem pairwise_bytes_sourcePaths
    (tree : disk.IsTree)
    (isFolder : disk.itemAt? root = some .folder) :
    (sourcePaths disk root).Pairwise fun left right =>
      Text.bytes left.toList < Text.bytes right.toList := by
  apply ((pairwise_le_sourcePaths disk root).and (nodup_sourcePaths tree isFolder)).imp
  rintro left right ⟨ahead, different⟩
  rw [Text.bytes_lt_iff, ← String.lt_iff]
  exact Std.lt_of_le_of_ne ahead different

/-- The listed paths are exactly those of the source files that are not passed over. -/
theorem mem_sourcePaths_iff
    (tree : disk.IsTree)
    (isFolder : disk.itemAt? root = some .folder)
    (kept : isPassedOver root = false)
    {path : String} :
    path ∈ sourcePaths disk root ↔
      ∃ names, IsSourceFile disk root names ∧ joinNames names = path := by
  rw [(sourcePaths_perm disk root).mem_iff, List.mem_filter, filePaths_of_isFolder isFolder,
    List.mem_map]
  constructor
  · rintro ⟨⟨names, found, rfl⟩, isSource⟩
    have last := List.getLast?_eq_some_getLast (isName_of_mem_walk tree isFolder found).1
    obtain ⟨-, namesKept, stands⟩ := (mem_walk_iff tree isFolder).mp found
    exact ⟨names, ⟨stands, namesKept, _, last, (isSourcePath_joinNames_iff last).mp isSource⟩, rfl⟩
  · rintro ⟨names, ⟨stands, namesKept, name, last, isSource⟩, rfl⟩
    refine ⟨⟨names, ?_, rfl⟩, (isSourcePath_joinNames_iff last).mpr isSource⟩
    exact (mem_walk_iff tree isFolder).mpr ⟨kept, namesKept, stands⟩

theorem SameBelow.symm (same : SameBelow disk root other otherRoot) :
    SameBelow other otherRoot disk root :=
  fun names written => (same names written).symm

/-- The root itself is no source file, so what stands below it decides which files are. -/
theorem SameBelow.isSourceFile
    (same : SameBelow disk root other otherRoot)
    (isSourceFile : IsSourceFile disk root names) :
    IsSourceFile other otherRoot names := by
  obtain ⟨stands, kept, name, last, isSource⟩ := isSourceFile
  have written : names ≠ [] := by
    rintro rfl
    cases last
  rw [same names written] at stands
  exact ⟨stands, kept, name, last, isSource⟩

theorem SameBelow.isSourceFile_iff (same : SameBelow disk root other otherRoot) :
    IsSourceFile disk root names ↔ IsSourceFile other otherRoot names :=
  ⟨same.isSourceFile, same.symm.isSourceFile⟩

/--
Roots that are not passed over list the same paths if the same items stand below them.  The order
of their bytes leaves one way to list them.
-/
theorem SameBelow.sourcePaths_eq
    (same : SameBelow disk root other otherRoot)
    (tree : disk.IsTree)
    (otherTree : other.IsTree)
    (isFolder : disk.itemAt? root = some .folder)
    (otherIsFolder : other.itemAt? otherRoot = some .folder)
    (kept : isPassedOver root = false)
    (otherKept : isPassedOver otherRoot = false) :
    sourcePaths other otherRoot = sourcePaths disk root := by
  have perm : (sourcePaths other otherRoot).Perm (sourcePaths disk root) := by
    rw [List.perm_ext_iff_of_nodup (nodup_sourcePaths otherTree otherIsFolder)
      (nodup_sourcePaths tree isFolder)]
    intro path
    rw [mem_sourcePaths_iff otherTree otherIsFolder otherKept,
      mem_sourcePaths_iff tree isFolder kept]
    simp only [same.isSourceFile_iff]
  refine perm.eq_of_pairwise ?_ (pairwise_le_sourcePaths other otherRoot)
    (pairwise_le_sourcePaths disk root)
  intro left right _ _ ahead behind
  exact String.le_antisymm ahead behind

/-- The order in which a disk lists its items does not show in the paths. -/
theorem sourcePaths_of_perm
    (tree : disk.IsTree)
    (isFolder : disk.itemAt? root = some .folder)
    (kept : isPassedOver root = false)
    (perm : other.items.Perm disk.items) :
    sourcePaths other root = sourcePaths disk root := by
  have same := tree.itemAt?_of_perm perm
  have sameBelow : SameBelow disk root other root := fun names _ => by rw [same]
  exact sameBelow.sourcePaths_eq tree (tree.of_perm perm) isFolder (by rw [same, isFolder])
    kept kept

/-! ## The group -/

/-- A source file has names, and they are such as files and folders can have. -/
theorem IsSourceFile.isName
    (tree : disk.IsTree)
    (isSourceFile : IsSourceFile disk root names) :
    names ≠ [] ∧ ∀ name ∈ names, Disk.IsName name := by
  obtain ⟨⟨text, stands⟩, -, name, last, -⟩ := isSourceFile
  constructor
  · rintro rfl
    cases last
  · intro name isListed
    exact tree.isName_of_itemAt? stands name (List.mem_append_right root isListed)

/-- The names of the source files, in the order of their paths. -/
def sourceFiles (disk : Disk) (root : List String) : List (List String) :=
  (sourcePaths disk root).map fun path => (Path.ofText path).pieces

theorem IsSourceFile.pieces_ofText
    (tree : disk.IsTree)
    (isSourceFile : IsSourceFile disk root names) :
    (Path.ofText (joinNames names)).pieces = names := by
  obtain ⟨written, isName⟩ := isSourceFile.isName tree
  rw [ofText_joinNames written isName]

/-- Read back from their paths, the names are those of the source files. -/
theorem mem_sourceFiles_iff
    (tree : disk.IsTree)
    (isFolder : disk.itemAt? root = some .folder)
    (kept : isPassedOver root = false) :
    names ∈ sourceFiles disk root ↔ IsSourceFile disk root names := by
  simp only [sourceFiles, List.mem_map, mem_sourcePaths_iff tree isFolder kept]
  constructor
  · rintro ⟨_, ⟨others, isSourceFile, rfl⟩, rfl⟩
    rwa [isSourceFile.pieces_ofText tree]
  · intro isSourceFile
    exact ⟨_, ⟨names, isSourceFile, rfl⟩, isSourceFile.pieces_ofText tree⟩

theorem map_joinNames_sourceFiles
    (tree : disk.IsTree)
    (isFolder : disk.itemAt? root = some .folder)
    (kept : isPassedOver root = false) :
    (sourceFiles disk root).map joinNames = sourcePaths disk root := by
  have undone : ∀ path ∈ sourcePaths disk root, joinNames (Path.ofText path).pieces = path := by
    intro path found
    obtain ⟨names, isSourceFile, rfl⟩ := (mem_sourcePaths_iff tree isFolder kept).mp found
    rw [isSourceFile.pieces_ofText tree]
  rw [sourceFiles, List.map_map]
  exact (List.map_congr_left undone).trans (List.map_id _)

/-- The artifacts at the paths of files are those of the files. -/
theorem artifactsAt_map_joinNames
    {files : List (List String)}
    (rootNamed : ∀ name ∈ root, Disk.IsName name)
    (isName : ∀ names ∈ files, names ≠ [] ∧ ∀ name ∈ names, Disk.IsName name) :
    artifactsAt root (files.map joinNames) =
      files.zipIdx.map fun entry => artifactAt root entry.1 entry.2 := by
  rw [artifactsAt, List.zipIdx_map, List.map_map]
  apply List.map_congr_left
  rintro ⟨names, number⟩ found
  obtain ⟨written, named⟩ := isName names (List.fst_mem_of_mem_zipIdx found)
  simp [artifactAt, join_ofText_joinNames rootNamed written named]

/--
Below the root of a project stands a list of source files, each once and in the
order of the bytes of their paths: those that are not passed over and whose name
after the last dot is `cs`.  Loading the project, by any path that leads to the
root and in whatever order the disk lists its items, gives the artifacts of these
files, numbered in their order.
-/
theorem load_lists_source_files_in_order
    (disk : Disk)
    (root : List String)
    (tree : disk.IsTree)
    (isFolder : disk.itemAt? root = some .folder)
    (kept : ∀ name, root.getLast? = some name → name ∉ skippedNames) :
    disk.resolve (Path.ofNames root) = .ok root ∧
      ∃ files : List (List String),
        (∀ names, names ∈ files ↔ IsSourceFile disk root names) ∧
        files.Pairwise (fun left right =>
          Text.bytes (joinNames left).toList < Text.bytes (joinNames right).toList) ∧
        ∀ (listed : Disk) (path : Path),
          listed.items.Perm disk.items → listed.workingFolder = disk.workingFolder →
          disk.resolve path = .ok root →
          load listed path =
            .ok ⟨root.getLast?.getD "",
              files.zipIdx.map fun entry => artifactAt root entry.1 entry.2⟩ := by
  rw [← isPassedOver_eq_false_iff] at kept
  have paths := map_joinNames_sourceFiles tree isFolder kept
  refine ⟨tree.resolve_ofNames isFolder, sourceFiles disk root,
    fun names => mem_sourceFiles_iff tree isFolder kept, ?_, ?_⟩
  · have ordered := pairwise_bytes_sourcePaths tree isFolder
    rwa [← paths, List.pairwise_map] at ordered
  · intro listed path perm sameFolder leads
    have found : listed.resolve path = .ok root := by
      rw [Disk.resolve_congr (tree.itemAt?_of_perm perm) sameFolder, leads]
    have artifacts := artifactsAt_map_joinNames (tree.isName_of_itemAt? isFolder)
      fun names isListed => ((mem_sourceFiles_iff tree isFolder kept).mp isListed).isName tree
    rw [← artifacts, paths, ← sourcePaths_of_perm tree isFolder kept perm, load, locate, found]
    rfl

/-- A project with source files in its root and in a folder, and one that is passed over. -/
def projectDisk : Disk where
  items :=
    [(["w", "b.cs"], .file (some "class B { }")), (["w", ".git", "y.cs"], .file (some "")),
     (["w"], .folder), (["w", "a"], .folder), (["w", ".git"], .folder),
     (["w", "a", "X.CS"], .file none), (["w", "cs"], .file (some ""))]
  workingFolder := []

theorem isTree_projectDisk : projectDisk.IsTree where
  distinct := by decide
  placed := by decide
  named := by decide
  nested := by decide

theorem load_lists_source_files_in_order_sample :
    ∃ files : List (List String), ["a", "X.CS"] ∈ files ∧ [".git", "y.cs"] ∉ files ∧
      load projectDisk (Path.ofNames ["w"]) =
        .ok ⟨"w", files.zipIdx.map fun entry => artifactAt ["w"] entry.1 entry.2⟩ := by
  obtain ⟨leads, files, isListed, -, loads⟩ :=
    load_lists_source_files_in_order projectDisk ["w"] isTree_projectDisk (by decide) (by decide)
  refine ⟨files, ?_, ?_, loads projectDisk _ (List.Perm.refl _) rfl leads⟩
  · rw [isListed]
    refine ⟨⟨none, by decide⟩, by decide, "X.CS", rfl, ['C', 'S'], ?_, by decide, by decide⟩
    exact ⟨['X'], by decide⟩
  · rw [isListed]
    intro isSourceFile
    exact isSourceFile.kept ".git" List.mem_cons_self (by decide)

end Workspace
end HouseStyle
