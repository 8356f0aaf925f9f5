import HouseStyle.Proofs.Artifact.NormalForm
import HouseStyle.Proofs.Engine.Failures
import HouseStyle.Proofs.Workspace.Spelling

/-!
# The name of the root

What a project holds is told by what stands below its root, and not by where the
root is or what it is called, unless the root itself bears a name that is passed
over.  Such a project is empty, and none of its files gets an answer.
-/

namespace HouseStyle
namespace Workspace

/-- The refusal of a path that no source file of the workspace has. -/
def unlisted (root : List String) (path : String) : Failure :=
  .invalidArgument (path ++ " is not a C# source file in " ++ (Path.ofNames root).text)

variable
  {disk other : Disk}
  {root otherRoot names : List String}
  {workspace file : Path}

/-! ## Paths of source files -/

/-- The test for names that are passed over is made for the root too, and then nothing is listed. -/
theorem sourcePaths_of_isPassedOver (passed : isPassedOver root = true) :
    sourcePaths disk root = [] := by
  have nothing : filePaths disk root = [] := by
    rw [filePaths]
    split
    · rfl
    · rw [walk_of_isPassedOver passed, List.map_nil]
  rw [sourcePaths, nothing, List.filter_nil, List.mergeSort_nil]

/-- A root that is not passed over is empty only if there are no source files below it. -/
theorem sourcePaths_eq_nil_iff
    (tree : disk.IsTree)
    (isFolder : disk.itemAt? root = some .folder)
    (kept : isPassedOver root = false) :
    sourcePaths disk root = [] ↔ ∀ names, ¬ IsSourceFile disk root names := by
  rw [List.eq_nil_iff_forall_not_mem]
  simp only [mem_sourcePaths_iff tree isFolder kept]
  constructor
  · intro absent names isSourceFile
    exact absent _ ⟨names, isSourceFile, rfl⟩
  · rintro absent path ⟨names, isSourceFile, -⟩
    exact absent names isSourceFile

theorem map_path_artifactsAt (root paths : List String) :
    (artifactsAt root paths).map Artifact.path = paths.map Artifact.normalize := by
  calc
    (artifactsAt root paths).map Artifact.path =
        paths.zipIdx.map (Artifact.normalize ∘ Prod.fst) := List.map_map
    _ = (paths.zipIdx.map Prod.fst).map Artifact.normalize := List.map_map.symm
    _ = paths.map Artifact.normalize := by rw [List.zipIdx_map_fst]

/-! ## Names of source files -/

theorem isSourceName_iff {name : String} :
    IsSourceName name ↔ Artifact.isSourcePath name = true :=
  isSourcePath_iff.symm

/-- No source file is passed over for its own name. -/
theorem IsSourceName.notMem_skippedNames
    {name : String}
    (isSource : IsSourceName name) :
    name ∉ skippedNames := by
  intro skipped
  have unlike : ∀ name ∈ skippedNames, Artifact.isSourcePath name = false := by
    decide +kernel
  rw [isSourceName_iff, unlike name skipped] at isSource
  cases isSource

/-- The letters at the end of the name of a source file stay in its normal form. -/
theorem IsSourceName.normalize_ne
    {name : String}
    (isSource : IsSourceName name) :
    Artifact.normalize name ≠ "" := by
  obtain ⟨ending, ⟨before, same⟩, -, spelled⟩ := isSource
  obtain ⟨letter, found, small⟩ : ∃ letter ∈ ending, letter.toLower = 'c' := by
    rw [← List.mem_map, ← Text.lower, spelled]
    exact List.mem_cons_self
  have kept : letter ∉ ['.', '/', '\\'] := by
    intro isMark
    have lowered : letter.toLower ∈ ['.', '/', '\\'].map Char.toLower :=
      List.mem_map_of_mem isMark
    rw [small] at lowered
    exact absurd lowered (by decide)
  have inside : letter ∈ name.toList := by
    rw [← same]
    exact List.mem_append_right before (List.mem_cons_of_mem '.' found)
  intro empty
  have stays := Artifact.mem_normalize kept inside
  rw [empty] at stays
  cases stays

/-! ## Answers for source files -/

/-- A file that is not listed is refused, whatever else is asked. -/
theorem infer_of_find?_eq_none
    {path : String}
    (located : locate disk workspace = .ok root)
    (seen : relative disk root file = .ok path)
    (absent : (groupAt disk root).find? path = none)
    (parser : Parser)
    (cancelled : Bool)
    (convention : Convention) :
    infer parser disk cancelled workspace file convention = .error (unlisted root path) := by
  rw [infer, located]
  simp only [bind, Except.bind, seen, absent]
  rfl

/-- A request for an artifact that has a path is not found at fault. -/
theorem infer_ne_invalidArgument
    {path : String}
    {current : Artifact}
    (located : locate disk workspace = .ok root)
    (seen : relative disk root file = .ok path)
    (found : (groupAt disk root).find? path = some current)
    (named : current.path ≠ "")
    (parser : Parser)
    (cancelled : Bool)
    (convention : Convention)
    (message : String) :
    infer parser disk cancelled workspace file convention ≠ .error (.invalidArgument message) := by
  rw [infer, located]
  simp only [bind, Except.bind, seen, found]
  split
  · rename_i failed
    intro refused
    cases refused
    exact infer_engine_ne_invalidArgument named message failed
  · intro refused
    cases refused

/-- A file right below the root is a source file if its name is that of one. -/
theorem isSourceFile_singleton
    {name : String}
    {text : Option String}
    (stands : disk.itemAt? (root ++ [name]) = some (.file text))
    (isSource : IsSourceName name) :
    IsSourceFile disk root [name] where
  stands := ⟨text, stands⟩
  kept := List.forall_mem_singleton.mpr isSource.notMem_skippedNames
  isSource := ⟨name, rfl, isSource⟩

/-- A request for a source file is found at fault exactly if the root is passed over. -/
theorem IsSourceFile.infer_eq_invalidArgument_iff
    (isSourceFile : IsSourceFile disk root names)
    (tree : disk.IsTree)
    (isFolder : disk.itemAt? root = some .folder)
    (located : locate disk workspace = .ok root)
    (fileLocated : locate disk ((Path.ofNames root).join file) = .ok (root ++ names))
    (parser : Parser)
    (cancelled : Bool)
    (convention : Convention)
    (message : String) :
    infer parser disk cancelled workspace file convention = .error (.invalidArgument message) ↔
      isPassedOver root = true ∧ unlisted root (joinNames names) = .invalidArgument message := by
  have seen := relative_of_isPrefix fileLocated
  cases passed : isPassedOver root with
  | true =>
      have absent : (groupAt disk root).find? (joinNames names) = none := by
        rw [Group.find?, groupAt, sourcePaths_of_isPassedOver passed]
        rfl
      rw [infer_of_find?_eq_none located seen absent, Except.error.injEq]
      exact (and_iff_right rfl).symm
  | false =>
      -- the file is listed, so the engine is asked, and it finds no fault with a path
      have listed : joinNames names ∈ sourcePaths disk root :=
        (mem_sourcePaths_iff tree isFolder passed).mpr
          ⟨names, isSourceFile, rfl⟩
      have atForm : Artifact.normalize (joinNames names) ∈
          (groupAt disk root).artifacts.map Artifact.path := by
        rw [groupAt, map_path_artifactsAt]
        exact List.mem_map_of_mem listed
      obtain ⟨member, isMember, same⟩ := List.mem_map.mp atForm
      obtain ⟨current, found⟩ := Group.exists_find?_eq_some isMember same
      have named : current.path ≠ "" := by
        obtain ⟨name, last, isSource⟩ := isSourceFile.isSource
        rw [(Group.find?_eq_some_iff.mp found).1]
        exact (isSourceName_iff.mpr ((isSourcePath_joinNames_iff last).mpr isSource)).normalize_ne
      simp [infer_ne_invalidArgument located seen found named]

/-! ## Contents -/

/-- The paths that a project holds. -/
def contents (disk : Disk) (root : List String) : List String :=
  (groupAt disk root).artifacts.map Artifact.path

theorem contents_eq (disk : Disk) (root : List String) :
    contents disk root = (sourcePaths disk root).map Artifact.normalize :=
  map_path_artifactsAt root (sourcePaths disk root)

/-- A project whose root is passed over has no contents. -/
theorem contents_of_isPassedOver (passed : isPassedOver root = true) :
    contents disk root = [] := by
  rw [contents_eq, sourcePaths_of_isPassedOver passed, List.map_nil]

theorem contents_eq_nil_iff
    (tree : disk.IsTree)
    (isFolder : disk.itemAt? root = some .folder)
    (kept : isPassedOver root = false) :
    contents disk root = [] ↔ ∀ names, ¬ IsSourceFile disk root names := by
  rw [contents_eq, List.map_eq_nil_iff, sourcePaths_eq_nil_iff tree isFolder kept]

/-- With the same items below, two roots differ in contents if just one of them is passed over and
there is a source file. -/
theorem SameBelow.contents_eq_iff
    (same : SameBelow disk root other otherRoot)
    (tree : disk.IsTree)
    (otherTree : other.IsTree)
    (isFolder : disk.itemAt? root = some .folder)
    (otherIsFolder : other.itemAt? otherRoot = some .folder) :
    contents disk root = contents other otherRoot ↔
      isPassedOver root = isPassedOver otherRoot ∨ ∀ names, ¬ IsSourceFile disk root names := by
  cases passed : isPassedOver root with
  | true =>
      -- nothing is listed here, so the other root must list nothing either
      rw [contents_of_isPassedOver passed]
      cases otherPassed : isPassedOver otherRoot with
      | true => simp [contents_of_isPassedOver otherPassed]
      | false =>
          rw [eq_comm, contents_eq_nil_iff otherTree otherIsFolder otherPassed]
          simp [same.isSourceFile_iff]
  | false =>
      cases otherPassed : isPassedOver otherRoot with
      | true =>
          rw [contents_of_isPassedOver otherPassed, contents_eq_nil_iff tree isFolder passed]
          simp
      | false =>
          have paths := same.sourcePaths_eq tree otherTree isFolder otherIsFolder passed otherPassed
          rw [contents_eq, contents_eq, paths]
          simp

theorem load_of_resolve
    {path : Path}
    (leads : disk.resolve path = .ok root) :
    load disk path = .ok (groupAt disk root) := by
  rw [load, locate_of_resolve leads]
  rfl

/--
Two projects with the same items below their roots list the same paths, whatever the roots are
called, unless there is a source file and just one of the roots is passed over.  A source file
right below a root is reported not to be one exactly if the root is passed over.
-/
theorem root_name_counts_only_if_passed_over
    (disk other : Disk)
    (root otherRoot : List String)
    (tree : disk.IsTree)
    (otherTree : other.IsTree)
    (isFolder : disk.itemAt? root = some .folder)
    (otherIsFolder : other.itemAt? otherRoot = some .folder)
    (same : SameBelow disk root other otherRoot) :
    (∀ path otherPath, disk.resolve path = .ok root → other.resolve otherPath = .ok otherRoot →
      ∃ group otherGroup, load disk path = .ok group ∧ load other otherPath = .ok otherGroup ∧
        (group.artifacts.map Artifact.path = otherGroup.artifacts.map Artifact.path ↔
          isPassedOver root = isPassedOver otherRoot ∨
            ∀ names, ¬ IsSourceFile disk root names)) ∧
    ∀ (name : String) (text : Option String) (parser : Parser) (cancelled : Bool)
        (workspace file : Path) (convention : Convention) (message : String),
      disk.itemAt? (root ++ [name]) = some (.file text) → IsSourceName name →
      disk.resolve workspace = .ok root →
      disk.resolve ((Path.ofNames root).join file) = .ok (root ++ [name]) →
      (infer parser disk cancelled workspace file convention =
          .error (.invalidArgument message) ↔
        isPassedOver root = true ∧ unlisted root name = .invalidArgument message) := by
  constructor
  · intro path otherPath leads otherLeads
    exact ⟨_, _, load_of_resolve leads, load_of_resolve otherLeads,
      same.contents_eq_iff tree otherTree isFolder otherIsFolder⟩
  · intro name text parser cancelled workspace file convention message stands isSource leads
      fileLeads
    have answer := (isSourceFile_singleton stands isSource).infer_eq_invalidArgument_iff tree
      isFolder (locate_of_resolve leads) (locate_of_resolve fileLeads) parser cancelled convention
      message
    rwa [joinNames_singleton] at answer

/-- A disk with a project of one file, whose root bears a name. -/
def diskOfRoot (name : String) : Disk where
  items := [([name], .folder), ([name, "A.cs"], .file (some "class A { }"))]
  workingFolder := []

theorem isTree_diskOfRoot
    {name : String}
    (isName : Disk.IsName name) :
    (diskOfRoot name).IsTree where
  distinct := by simp [diskOfRoot]
  placed := by simp [diskOfRoot]
  named := by
    have file : Disk.IsName "A.cs" := by decide
    simp [diskOfRoot, isName, file]
  nested := by simp [diskOfRoot, Disk.itemAt?, List.lookup_cons]

theorem isFolder_diskOfRoot (name : String) :
    (diskOfRoot name).itemAt? [name] = some .folder := by
  simp [diskOfRoot, Disk.itemAt?]

theorem itemAt?_diskOfRoot (name : String) :
    (diskOfRoot name).itemAt? ([name] ++ ["A.cs"]) = some (.file (some "class A { }")) := by
  simp [diskOfRoot, Disk.itemAt?, List.lookup_cons]

theorem sameBelow_diskOfRoot (name other : String) :
    SameBelow (diskOfRoot name) [name] (diskOfRoot other) [other] := by
  intro names written
  simp [diskOfRoot, Disk.itemAt?, List.lookup_cons]

theorem resolve_file_diskOfRoot
    {name : String}
    (isName : Disk.IsName name) :
    (diskOfRoot name).resolve ((Path.ofNames [name]).join (Path.ofText "A.cs")) =
      .ok ([name] ++ ["A.cs"]) := by
  have linkFree : (diskOfRoot name).IsLinkFree := by
    simp [Disk.IsLinkFree, diskOfRoot]
  have tree := isTree_diskOfRoot isName
  have spelled := isSpelling_ofText_joinNames tree (isFolder_diskOfRoot name)
    (itemAt?_diskOfRoot name)
  rw [joinNames_singleton] at spelled
  exact resolve_join_of_isSpelling linkFree tree (isFolder_diskOfRoot name) spelled

theorem root_name_counts_only_if_passed_over_sample :
    let parser : Parser := fun path _ => .error (.unparsable path "parser returned no tree")
    (∃ group otherGroup, load (diskOfRoot "w") (Path.ofNames ["w"]) = .ok group ∧
      load (diskOfRoot "v") (Path.ofNames ["v"]) = .ok otherGroup ∧
      group.artifacts.map Artifact.path = otherGroup.artifacts.map Artifact.path) ∧
    infer parser (diskOfRoot "w") false (Path.ofNames ["w"]) (Path.ofText "A.cs") .usingPlacement ≠
      .error (unlisted ["w"] "A.cs") := by
  intro parser
  have w : Disk.IsName "w" := by decide
  have v : Disk.IsName "v" := by decide
  have tree := isTree_diskOfRoot w
  have otherTree := isTree_diskOfRoot v
  have leads := tree.resolve_ofNames (isFolder_diskOfRoot "w")
  have isSource : IsSourceName "A.cs" := isSourceName_iff.mpr (by decide +kernel)
  obtain ⟨lists, answers⟩ := root_name_counts_only_if_passed_over _ _ _ _ tree otherTree
    (isFolder_diskOfRoot "w") (isFolder_diskOfRoot "v") (sameBelow_diskOfRoot "w" "v")
  constructor
  · obtain ⟨group, otherGroup, loaded, otherLoaded, same⟩ :=
      lists _ _ leads (otherTree.resolve_ofNames (isFolder_diskOfRoot "v"))
    exact ⟨group, otherGroup, loaded, otherLoaded, same.mpr (Or.inl (by decide))⟩
  · intro refused
    have passed := (answers "A.cs" _ parser false _ _ .usingPlacement _ (itemAt?_diskOfRoot "w")
      isSource leads (resolve_file_diskOfRoot w)).mp refused
    exact absurd passed.1 (by decide)

theorem contents_diskOfRoot_w : contents (diskOfRoot "w") ["w"] = ["A.cs"] := by
  have files : filePaths (diskOfRoot "w") ["w"] = ["A.cs"] := by decide +kernel
  have isSource : ["A.cs"].filter Artifact.isSourcePath = ["A.cs"] := by decide +kernel
  rw [contents_eq, sourcePaths, files, isSource, List.mergeSort_singleton]
  decide +kernel

/-- Under a name that is passed over, a project with a source file is empty. -/
theorem root_called_node_modules_is_empty :
    let parser : Parser := fun path _ => .error (.unparsable path "parser returned no tree")
    let paths : Group → List String := fun group => group.artifacts.map Artifact.path
    SameBelow (diskOfRoot "w") ["w"] (diskOfRoot "node_modules") ["node_modules"] ∧
      (load (diskOfRoot "w") (Path.ofNames ["w"])).map paths = .ok ["A.cs"] ∧
      (load (diskOfRoot "node_modules") (Path.ofNames ["node_modules"])).map paths = .ok [] ∧
      infer parser (diskOfRoot "node_modules") false (Path.ofNames ["node_modules"])
          (Path.ofText "A.cs") .usingPlacement =
        .error (.invalidArgument "A.cs is not a C# source file in /node_modules") := by
  intro parser paths
  have isName : Disk.IsName "node_modules" := by decide
  have leads := (isTree_diskOfRoot isName).resolve_ofNames (isFolder_diskOfRoot "node_modules")
  have wLeads := (isTree_diskOfRoot (by decide)).resolve_ofNames (isFolder_diskOfRoot "w")
  have isSource : IsSourceName "A.cs" := isSourceName_iff.mpr (by decide +kernel)
  have isSourceFile := isSourceFile_singleton (itemAt?_diskOfRoot "node_modules") isSource
  refine ⟨sameBelow_diskOfRoot "w" "node_modules", ?_, ?_, ?_⟩
  · rw [load_of_resolve wLeads]
    exact congrArg Except.ok contents_diskOfRoot_w
  · rw [load_of_resolve leads]
    exact congrArg Except.ok (contents_of_isPassedOver (by decide))
  · rw [isSourceFile.infer_eq_invalidArgument_iff (isTree_diskOfRoot isName)
      (isFolder_diskOfRoot "node_modules") (locate_of_resolve leads)
      (locate_of_resolve (resolve_file_diskOfRoot isName))]
    exact ⟨by decide, by decide +kernel⟩

end Workspace
end HouseStyle
