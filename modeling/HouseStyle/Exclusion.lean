import HouseStyle.Artifact
import HouseStyle.Failure
import HouseStyle.Glob.Nesting

/-!
# Exclusion rules

Generated files and build output say nothing about the taste of a project's
authors.  Rules name generated files by patterns for their names and build
output by the folder that holds it.
-/

namespace HouseStyle

/-- Which artifacts are left out. -/
structure Rules where
  /-- The patterns for the names of generated files. -/
  generated : List Glob
  /-- The names of the folders with build output. -/
  buildFolders : List String
deriving Repr

namespace Rules

/-- Reads a pattern for the names of generated files; the case of letters does not matter. -/
def readPattern (pattern : String) : Except Failure Glob :=
  match Glob.compile true pattern with
  | .ok glob => .ok glob
  | .error fault =>
      .error (.invalidArgument ("bad pattern " ++ pattern ++ ": " ++ fault.message pattern))

/--
Rules from patterns and folders.  The first pattern that cannot be read is
reported; after that, patterns that are nested too deeply spoil the whole set.
-/
def make
    (patterns folders : List String) : Except Failure Rules := do
  let globs ← patterns.mapM readPattern
  if globs.any Glob.isTooDeep then
    throw (.internal "cannot compile exclusion set: error parsing pattern 0")
  return ⟨globs, folders⟩

/-- Rules that leave out nothing. -/
def none : Rules where
  generated := []
  buildFolders := []

/-- The usual patterns for the names of generated files. -/
def usualPatterns : List String :=
  ["*.g.cs", "*.g.i.cs", "*.designer.cs", "*.generated.cs", "*.AssemblyInfo.cs",
   "TemporaryGeneratedFile_*"]

/-- The usual folders with build output. -/
def usualFolders : List String :=
  ["obj", "bin"]

/-- The usual rules. -/
def usual : Rules :=
  match make usualPatterns usualFolders with
  | .ok rules => rules
  | .error _ => ⟨[], usualFolders⟩

/-- A file name is that of a generated file. -/
def isGeneratedName (rules : Rules) (name : String) : Bool :=
  rules.generated.any fun glob => glob.matchesText name

/-- The folders are one folder with build output. -/
def isBuildOutput (rules : Rules) : List String → Bool
  | [folder] =>
      rules.buildFolders.any fun name => Text.sameIgnoringCase name.toList folder.toList
  | _ => false

/-- The artifact is left out. -/
def excludes (rules : Rules) (artifact : Artifact) : Bool :=
  rules.isGeneratedName artifact.fileName || rules.isBuildOutput artifact.folders

end Rules
end HouseStyle
