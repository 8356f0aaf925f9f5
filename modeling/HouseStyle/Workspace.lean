import HouseStyle.EditorConfig.Lookup
import HouseStyle.Engine
import HouseStyle.Report
import HouseStyle.Trees.Source

/-!
# Workspaces

A workspace is a folder on disk.  Its source files make up a group, and the
configuration files in it and above it are consulted before any of them.
-/

namespace HouseStyle
namespace Workspace

/-- Names of files and folders that are passed over. -/
def skippedNames : List String :=
  [".git", ".hg", ".svn", ".vs", ".idea", "node_modules"]

/-- The place that a path names, or a failure that mentions the path as it is spelled. -/
def locate (disk : Disk) (path : Path) : Except Failure (List String) :=
  match disk.resolve path with
  | .ok place => .ok place
  | .error fault => .error (.ofRead path.text fault)

/-- Names below a root, joined to a path. -/
def joinNames (names : List String) : String :=
  String.intercalate "/" names

/-- The item at a place bears a name that is passed over. -/
def isPassedOver (place : List String) : Bool :=
  place.getLast?.any skippedNames.contains

/--
Walks from an item at a place, and gives the names that lead from there to the
files.  Every item is tested by its name: one that is passed over is neither
listed nor entered.  Links are not followed.
-/
def walk
    (disk : Disk)
    (place : List String)
    (item : Item) : List (List String) :=
  if isPassedOver place then
    []
  else
    match item with
    | .file _ => [[]]
    | .link _ => []
    | .folder =>
        (disk.entries place).attach.flatMap fun ⟨(name, item), _⟩ =>
          (walk disk (place ++ [name]) item).map (name :: ·)
termination_by disk.depth - place.length
decreasing_by
  rename_i listed
  have deep := Disk.length_le_depth (Disk.mem_entries_iff.mp listed)
  rw [List.length_append, List.length_singleton] at deep ⊢
  omega

/-- The paths of the files that a walk from a root finds. -/
def filePaths (disk : Disk) (root : List String) : List String :=
  match disk.itemAt? root with
  | none => []
  | some item => (walk disk root item).map joinNames

/-- The paths of the source files below a root, in the order of their bytes. -/
def sourcePaths (disk : Disk) (root : List String) : List String :=
  ((filePaths disk root).filter Artifact.isSourcePath).mergeSort fun left right =>
    decide (left ≤ right)

/-- The artifacts at given paths below a root, numbered in order. -/
def artifactsAt (root : List String) (paths : List String) : List Artifact :=
  paths.zipIdx.map fun entry =>
    Artifact.make entry.2 entry.1 (.onDisk ((Path.ofNames root).join (Path.ofText entry.1)))

/-- The group of the source files below a place. -/
def groupAt (disk : Disk) (root : List String) : Group where
  name := root.getLast?.getD ""
  artifacts := artifactsAt root (sourcePaths disk root)

/-- Loads the source files of the project at a path. -/
def load (disk : Disk) (path : Path) : Except Failure Group := do
  return groupAt disk (← locate disk path)

/-- The path of a file as seen from the root of a workspace. -/
def relative
    (disk : Disk)
    (root : List String)
    (file : Path) : Except Failure String := do
  let place ← locate disk ((Path.ofNames root).join file)
  if root.isPrefixOf place then
    return joinNames (place.drop root.length)
  else
    throw (.invalidArgument
      ((Path.ofNames place).text ++ " is outside the workspace " ++ (Path.ofNames root).text))

/-- The engine for a workspace on disk. -/
def engine (parser : Parser) : Engine (Disk × EditorConfig.Lookup) DiskState where
  store := EditorConfig.store
  rules := Rules.usual
  world := World.onDisk parser

/-- What a convention is for a file of a workspace. -/
def infer
    (parser : Parser)
    (disk : Disk)
    (cancelled : Bool)
    (workspace file : Path)
    (convention : Convention) : Except Failure Report.Answer := do
  let root ← locate disk workspace
  let path ← relative disk root file
  let group := groupAt disk root
  match group.find? path with
  | none =>
      throw (.invalidArgument
        (path ++ " is not a C# source file in " ++ (Path.ofNames root).text))
  | some current =>
      let state :=
        EngineState.start Pool.usualCapacity
          (disk, EditorConfig.Lookup.make (Path.ofNames root))
          (⟨disk, cancelled⟩ : DiskState)
      let inference ← ((engine parser).infer convention group current state).1
      return ⟨convention, path, inference⟩

end Workspace
end HouseStyle
