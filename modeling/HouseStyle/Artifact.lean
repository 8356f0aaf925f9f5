import HouseStyle.Path
import HouseStyle.Text.Case
import HouseStyle.Text.Quoted
import HouseStyle.Text.Split

/-!
# Source artifacts

An artifact is one source file: its path in the workspace, the folders that it
lives in and where its text comes from.  A group is the list of artifacts of a
project.  Artifacts are told apart by their identity and not by their path.
-/

namespace HouseStyle

/-- Where the text of an artifact comes from. -/
inductive Content where
  /-- The text is at hand. -/
  | inMemory (text : String)
  /-- The text is read from a file. -/
  | onDisk (path : Path)
  /-- There is no text. -/
  | unavailable
deriving DecidableEq, Repr

/-- A source file of a project. -/
structure Artifact where
  /-- Tells artifacts apart, also those with the same path. -/
  identity : Nat
  /-- The path in the workspace, in normal form. -/
  path : String
  /-- The folders on the path. -/
  folders : List String
  /-- Where the text comes from. -/
  content : Content
deriving DecidableEq, Repr

namespace Artifact

/-- Turns backslashes into slashes. -/
def forwardSlashes (path : List Char) : List Char :=
  path.map fun character => if character = '\\' then '/' else character

/-- Drops every `./` at the start. -/
def dropDots : List Char → List Char
  | '.' :: '/' :: rest => dropDots rest
  | path => path

/-- The normal form of a path in the workspace. -/
def normalize (path : String) : String :=
  String.ofList (dropDots (forwardSlashes path.toList))

/-- The pieces of a path that name a folder or a file. -/
def namedPieces (path : String) : List (List Char) :=
  (Text.pieces '/' path.toList).filter fun piece => !piece.isEmpty && piece != ['.']

/-- The folders on a path. -/
def foldersOf (path : String) : List String :=
  (namedPieces path).dropLast.map String.ofList

/-- An artifact at a path, with the folders on that path. -/
def make
    (identity : Nat)
    (path : String)
    (content : Content) : Artifact where
  identity := identity
  path := normalize path
  folders := foldersOf (normalize path)
  content := content

/-- Replaces the folders. -/
def withFolders (artifact : Artifact) (folders : List String) : Artifact :=
  { artifact with folders := folders }

/-- What stands after the last slash of the path. -/
def fileName (artifact : Artifact) : String :=
  String.ofList ((Text.afterLast? '/' artifact.path.toList).getD artifact.path.toList)

/-- A path names a source file by its ending. -/
def isSourcePath (path : String) : Bool :=
  (Text.afterLast? '.' path.toList).any fun ending => Text.sameIgnoringCase ending ['c', 's']

/-- A short description of an artifact. -/
def describe (artifact : Artifact) : String :=
  "SourceArtifact \x7b path: " ++ Text.quote artifact.path ++ ", folders: " ++
    Text.quoteList artifact.folders ++ " \x7d"

end Artifact

/-- The artifacts of a project, in a fixed order. -/
structure Group where
  /-- The name of the project. -/
  name : String
  /-- The artifacts. -/
  artifacts : List Artifact
deriving DecidableEq, Repr

namespace Group

/-- The first artifact at a path. -/
def find? (group : Group) (path : String) : Option Artifact :=
  group.artifacts.find? fun artifact => artifact.path == Artifact.normalize path

/-- A short description of a group. -/
def describe (group : Group) : String :=
  "ArtifactGroup \x7b name: " ++ Text.quote group.name ++ ", artifacts: [" ++
    String.intercalate ", " (group.artifacts.map Artifact.describe) ++ "] \x7d"

end Group
end HouseStyle
