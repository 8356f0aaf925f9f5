import HouseStyle.Failure
import HouseStyle.Path

/-!
# Files on disk

The state of a disk: which files, folders and symbolic links there are, each
under its full list of names from the root.  Spelled paths are resolved
against it piece by piece, following links.
-/

namespace HouseStyle

/-- What stands at a place on disk. -/
inductive Item where
  /-- A file, with its text unless its bytes are no text. -/
  | file (text : Option String)
  /-- A folder. -/
  | folder
  /-- A symbolic link to a path as it is written in the link. -/
  | link (target : String)
deriving DecidableEq, Repr

/-- The state of a disk. -/
structure Disk where
  /-- The items by their names from the root, the root itself left out. -/
  items : List (List String × Item)
  /-- The names of the folder that relative paths start from. -/
  workingFolder : List String
deriving DecidableEq, Repr

namespace Disk

/-- The number of links that are followed in one path. -/
def linkLimit : Nat :=
  40

/-- The greatest number of bytes in the name of an item. -/
def nameLimit : Nat :=
  255

/-- The greatest number of bytes in the path of a file that is read. -/
def pathLimit : Nat :=
  4095

/-- What stands at a place. -/
def itemAt? (disk : Disk) : List String → Option Item
  | [] => some .folder
  | names => disk.items.lookup names

/--
Follows pieces from a place, through at most a number of links.  With
`creating`, nothing needs to stand where the last piece leads.
-/
def follow
    (disk : Disk)
    (creating : Bool)
    (links : Nat)
    (place : List String)
    (pieces : List String) : Except ReadFault (List String) :=
  match pieces with
  | [] => .ok place
  | piece :: rest =>
      if disk.itemAt? place ≠ some .folder then
        .error .notFolder
      else if piece = "" ∨ piece = "." then
        follow disk creating links place rest
      else if piece = ".." then
        follow disk creating links place.dropLast rest
      else if nameLimit < piece.utf8ByteSize then
        .error .nameTooLong
      else
        match disk.itemAt? (place ++ [piece]) with
        | none => if creating && rest.isEmpty then .ok (place ++ [piece]) else .error .missing
        | some (.link target) =>
            match links with
            | 0 => .error .tooManyLinks
            | fewer + 1 =>
                let path := Path.ofText target
                follow disk creating fewer (if path.isAbsolute then [] else place)
                  (path.pieces ++ rest)
        | some _ => follow disk creating links (place ++ [piece]) rest
termination_by (links, pieces.length)

/-- The place that a path names. -/
def resolve (disk : Disk) (path : Path) : Except ReadFault (List String) :=
  if path.holdsNul then
    .error .nulInName
  else if path.isEmpty then
    .error .missing
  else
    follow disk false linkLimit (if path.isAbsolute then [] else disk.workingFolder) path.pieces

/-- The text at a place. -/
def textAt (disk : Disk) (place : List String) : Except ReadFault String :=
  match disk.itemAt? place with
  | some (.file (some text)) => .ok text
  | some (.file none) => .error .notText
  | some .folder => .error .isFolder
  | _ => .error .missing

/-- The text of the file at a path; a path that is too long is not even followed. -/
def read (disk : Disk) (path : Path) : Except ReadFault String :=
  if !path.holdsNul && pathLimit < path.text.utf8ByteSize then
    .error .nameTooLong
  else do
    disk.textAt (← disk.resolve path)

/-- An item with its name, if it stands right in the folder at a place. -/
def within? (place : List String) (entry : List String × Item) : Option (String × Item) := do
  let name ← entry.1.getLast?
  if entry.1 = place ++ [name] then
    some (name, entry.2)
  else
    none

/-- What stands right in the folder at a place, in the order in which the disk lists it. -/
def entries (disk : Disk) (place : List String) : List (String × Item) :=
  disk.items.filterMap (within? place)

/-- The greatest number of names from the root to an item. -/
def depth (disk : Disk) : Nat :=
  (disk.items.map fun entry => entry.1.length).max?.getD 0

theorem mem_entries_iff
    {disk : Disk}
    {place : List String}
    {name : String}
    {item : Item} :
    (name, item) ∈ disk.entries place ↔ (place ++ [name], item) ∈ disk.items := by
  simp only [entries, List.mem_filterMap, within?, bind, Option.bind_eq_some_iff,
    Option.ite_none_right_eq_some, Option.some.injEq, Prod.mk.injEq]
  constructor
  · rintro ⟨⟨names, _⟩, listed, _, -, rfl, rfl, rfl⟩
    exact listed
  · intro listed
    exact ⟨_, listed, name, by simp, rfl, rfl, rfl⟩

theorem length_le_depth
    {disk : Disk}
    {entry : List String × Item}
    (listed : entry ∈ disk.items) :
    entry.1.length ≤ disk.depth :=
  List.le_max?_getD_of_mem (List.mem_map_of_mem listed)

/-- Puts an item at a place, in the place of what stood there. -/
def put
    (disk : Disk)
    (place : List String)
    (item : Item) : Disk :=
  { disk with items := disk.items.filter (fun entry => entry.1 != place) ++ [(place, item)] }

/-- Makes the folders that a path leads through, where they are missing. -/
def makeFolders
    (disk : Disk)
    (place : List String) : List String → Disk × List String
  | [] => (disk, place)
  | piece :: rest =>
      match disk.follow false linkLimit place [piece] with
      | .ok found => makeFolders disk found rest
      | .error _ => makeFolders (disk.put (place ++ [piece]) .folder) (place ++ [piece]) rest

/-- A change of one item. -/
inductive Change where
  /-- Write a file, at the place where links at the end of the path lead. -/
  | write (text : Option String)
  /-- Make a folder. -/
  | makeFolder
  /-- Make a symbolic link. -/
  | makeLink (target : String)
  /-- Delete a file. -/
  | delete
deriving DecidableEq, Repr

/-- Changes the item at a path, making the folders above it as needed. -/
def change
    (disk : Disk)
    (path : Path)
    (action : Change) : Disk :=
  let start := if path.isAbsolute then [] else disk.workingFolder
  let pieces := path.pieces
  match action with
  | .makeFolder => (disk.makeFolders start pieces).1
  | _ =>
      let made := disk.makeFolders start pieces.dropLast
      let literal := made.2 ++ pieces.getLast?.toList
      match action with
      | .write text =>
          let place := (made.1.follow true linkLimit made.2 pieces.getLast?.toList).toOption
          made.1.put (place.getD literal) (.file text)
      | .makeLink target => made.1.put literal (.link target)
      | _ => { made.1 with items := made.1.items.filter fun entry => entry.1 != literal }

end Disk
end HouseStyle
