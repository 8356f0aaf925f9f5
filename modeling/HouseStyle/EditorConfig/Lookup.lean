import HouseStyle.Disk
import HouseStyle.EditorConfig.File

/-!
# Looking up `.editorconfig` values

The files that count for an artifact stand in the folders above it, up to and
including the nearest one that calls itself the root.  A file nearer to the
artifact wins over one further up.  What was found in a folder is remembered.
-/

namespace HouseStyle
namespace EditorConfig

/-- The name of a configuration file. -/
def fileName : String :=
  ".editorconfig"

/-- What has been found in folders: a file, or that there is none. -/
abbrev Findings := List ((Nat × Bool × List String) × Option File)

/-- A lookup for the artifacts of a workspace. -/
structure Lookup where
  /-- The folder of the workspace. -/
  workspace : Path
  /-- What has been found, by what the path of the folder says. -/
  findings : Findings
deriving Repr

namespace Lookup

/-- A lookup that has found nothing yet. -/
def make (workspace : Path) : Lookup where
  workspace := workspace
  findings := []

/-- Looks into a folder on disk. -/
def inspect (disk : Disk) (folder : Path) : Except Failure (Option File) :=
  let path := folder.join (Path.ofText fileName)
  match disk.read path with
  | .ok text => (File.read path text).map some
  | .error .missing => .ok none
  | .error fault => .error (.ofRead path.text fault)

/-- What a folder holds: as remembered, or else as found on disk, which is then remembered. -/
def load
    (disk : Disk)
    (folder : Path)
    (findings : Findings) : Except Failure (Option File × Findings) :=
  match findings.lookup folder.key with
  | some found => .ok (found, findings)
  | none =>
      match inspect disk folder with
      | .error failure => .error failure
      | .ok found => .ok (found, (folder.key, found) :: findings)

/-- The files that count among folders given nearest first, and what is remembered afterwards. -/
def consult
    (disk : Disk)
    (findings : Findings) : List Path → Except Failure (List File) × Findings
  | [] => (.ok [], findings)
  | folder :: rest =>
      match load disk folder findings with
      | .error failure => (.error failure, findings)
      | .ok (none, findings) => consult disk findings rest
      | .ok (some file, findings) =>
          if file.isRoot then
            (.ok [file], findings)
          else
            let further := consult disk findings rest
            (further.1.map (file :: ·), further.2)

/-- The values that files, given nearest first, state for a path. -/
def combine (files : List File) (target : Path) : Properties :=
  files.foldr (fun file properties => file.apply target properties) Properties.empty

/-- All values that hold for the artifact at a path of the workspace. -/
def properties
    (disk : Disk)
    (lookup : Lookup)
    (path : String) : Except Failure Properties × Lookup :=
  let target := lookup.workspace.join (Path.ofText path)
  let consulted := consult disk lookup.findings target.parents
  (consulted.1.map fun files => combine files target,
    { lookup with findings := consulted.2 })

/-- The value under a key for the artifact at a path of the workspace. -/
def get
    (disk : Disk)
    (lookup : Lookup)
    (path key : String) : Except Failure (Option OptionValue) × Lookup :=
  let found := lookup.properties disk path
  (found.1.map fun properties => properties.get? (plainKey key), found.2)

end Lookup

/-- The store of preferences in the configuration files of a disk. -/
def store : PreferenceStore (Disk × Lookup) where
  get := fun path key state =>
    let found := state.2.get state.1 path key
    (found.1, (state.1, found.2))

end EditorConfig
end HouseStyle
