import HouseStyle.CommandLine
import HouseStyle.Trees.Stored

/-!
# The program

Takes over from the real disk what a request can ask about, answers the
request on that copy and prints the answer.
-/

namespace HouseStyle
namespace Program

/-- Items by their names from the root. -/
abbrev Items := List (List String × Item)

/-- The names on an absolute path. -/
def namesOf (path : String) : List String :=
  (Path.ofText path).components.2

/-- The text of a file with this name can matter for an answer. -/
def isRead (name : String) : Bool :=
  name == EditorConfig.fileName || Artifact.isSourcePath name || name.endsWith StoredTree.ending

/-- The item of a regular file. -/
def takeFile (entry : IO.FS.DirEntry) : IO Item := do
  if isRead entry.fileName then
    return .file (String.fromUTF8? (← IO.FS.readBinFile entry.path))
  else
    return .file none

/-- A target that nothing can stand at. -/
def nowhere : String :=
  "\x00"

/-- The item of a symbolic link, which leads to where the link ends. -/
def takeLink (entry : IO.FS.DirEntry) : IO Item := do
  try
    return .link (← IO.FS.realPath entry.path).toString
  catch _ =>
    return .link nowhere

/-- What stands at an entry of a folder, and if wanted all that stands below it. -/
partial def takeEntry (deep : Bool) (entry : IO.FS.DirEntry) : IO Items := do
  let place := namesOf entry.path.toString
  match (← entry.path.symlinkMetadata).type with
  | .file => return [(place, ← takeFile entry)]
  | .symlink => return [(place, ← takeLink entry)]
  | .other => return []
  | .dir =>
      let mut items := [(place, Item.folder)]
      if deep && !Workspace.skippedNames.contains entry.fileName then
        for further in ← entry.path.readDir do
          items := items ++ (← takeEntry deep further)
      return items

/-- What stands at a path, if anything does. -/
def takeAt (path : Path) : IO Items := do
  match path.parent?, path.trimmed.pieces.getLast? with
  | some folder, some name =>
      if name == "." || name == ".." then
        return []
      try
        takeEntry false ⟨← IO.FS.realPath (if folder.isEmpty then "." else folder.text), name⟩
      catch _ =>
        return []
  | _, _ => return []

/-- What stands on the way to a path as it is spelled. -/
def takeSpelled (path : Path) : IO Items := do
  return (← (path :: path.parents).mapM takeAt).flatten

/-- What stands on the way to a path, and on the way to where its links lead. -/
def takeAlong (path : Path) : IO Items := do
  let spelled ← takeSpelled path
  try
    return spelled ++ (← takeSpelled (Path.ofText (← IO.FS.realPath path.text).toString))
  catch _ =>
    return spelled

/-- The workspace with all that stands in it, and the configuration files in and above it. -/
def takeWorkspace (workspace : Path) : IO Items := do
  try
    let root ← IO.FS.realPath workspace.text
    let place := Path.ofText root.toString
    let below ← (← root.readDir).toList.mapM (takeEntry true)
    let above ← place.parents.mapM fun folder =>
      takeAt (folder.join (Path.ofText EditorConfig.fileName))
    return below.flatten ++ above.flatten ++ (← takeAlong place)
  catch _ =>
    return []

/-- What a request can ask about. -/
def takeFor (working : Path) : CommandLine.Request → IO Items
  | .conventions => return []
  | .infer workspace _ file => do
      let folder := working.join ((workspace.map Path.ofText).getD ⟨false, []⟩)
      return (← takeWorkspace folder) ++ (← takeAlong folder) ++
        (← takeAlong (folder.join (Path.ofText file)))

/-- The copy of the disk on which arguments are answered. -/
def takeDisk (arguments : List String) : IO Disk := do
  let working := Path.ofText (← IO.currentDir).toString
  let items ←
    match CommandLine.read arguments with
    | .ok request => takeFor working request
    | .error _ => pure []
  return items.foldl (fun disk item => disk.put item.1 item.2) ⟨[], working.components.2⟩

end Program
end HouseStyle

/-- Answers the arguments, prints the answer and gives the exit status. -/
def main (arguments : List String) : IO UInt32 := do
  let disk ← HouseStyle.Program.takeDisk arguments
  let ending :=
    HouseStyle.CommandLine.run (HouseStyle.StoredTree.parser disk) disk arguments
  IO.print ending.output
  return ending.status.toUInt32
