import HouseStyle.Failure
import HouseStyle.Glob.Nesting
import HouseStyle.Path
import HouseStyle.Preference

/-!
# Files named `.editorconfig`

A file holds lines before its first section header and then sections.  Each
section has a pattern for the paths that it applies to, and lines
`key = value`.  Blank lines and lines that start with `#` or `;` say nothing.
-/

namespace HouseStyle
namespace EditorConfig

/-- What is wrong with a line. -/
inductive LineFault where
  /-- A header has no closing bracket at its end. -/
  | unterminatedHeader
  /-- A header holds no pattern. -/
  | emptyPattern
  /-- The pattern of a header, compiled as the second text, is malformed. -/
  | badPattern (pattern compiled : String) (fault : Glob.Fault)
  /-- The pattern of a header is well-formed but nested too deeply. -/
  | deepPattern
  /-- A line is neither a header nor `key = value`. -/
  | missingEquals
deriving DecidableEq, Repr

/-- What is wrong with a line, in words. -/
def LineFault.message : LineFault → String
  | unterminatedHeader => "unterminated section header"
  | emptyPattern => "empty section pattern"
  | badPattern pattern compiled fault =>
      "bad section pattern " ++ pattern ++ ": " ++ fault.message compiled
  | deepPattern => "regex compilation shouldn't fail"
  | missingEquals => "expected \x60key = value\x60"

/-- The failure for a line of the file at a path.  Over a deep pattern the program breaks down. -/
def LineFault.failure (path : Path) (line : Nat) : LineFault → Failure
  | deepPattern => .crash
  | fault => .misconfigured path.text line fault.message

/-- What a line says. -/
inductive Line where
  /-- Nothing. -/
  | silent
  /-- A section begins. -/
  | header (glob : Glob)
  /-- A value is stated. -/
  | property (key value : String)
deriving Repr

/--
The pattern that is compiled for a section.  A pattern with a slash is read
from the folder of the file; any other matches file names at any depth.
-/
def anchored (pattern : List Char) : List Char :=
  if pattern.contains '/' then
    pattern.dropWhile (· == '/')
  else
    ['*', '*', '/'] ++ pattern

/-- Reads the pattern of a header. -/
def readPattern (pattern : List Char) : Except LineFault Glob :=
  if pattern.isEmpty then
    .error .emptyPattern
  else
    let compiled := String.ofList (anchored pattern)
    match Glob.compile false compiled with
    | .ok glob => .ok glob
    | .error fault => .error (.badPattern (String.ofList pattern) compiled fault)

/-- Reads a header with a pattern, which must not be nested too deeply. -/
def readHeader (pattern : List Char) : Except LineFault Line := do
  let glob ← readPattern pattern
  if glob.isTooDeep then
    throw .deepPattern
  return .header glob

/-- Reads a line `key = value`, split at its first equals sign. -/
def readProperty (line : List Char) : Except LineFault Line :=
  match Text.cutFirst? '=' line with
  | none => .error .missingEquals
  | some (key, value) =>
      .ok (.property (String.ofList (Text.lower (Text.trim key))) (String.ofList (Text.trim value)))

/-- Reads a line without blanks at its ends. -/
def readTrimmed (line : List Char) : Except LineFault Line :=
  match line with
  | [] => .ok .silent
  | '#' :: _ => .ok .silent
  | ';' :: _ => .ok .silent
  | '[' :: rest =>
      match Text.dropEnd? ']' rest with
      | none => .error .unterminatedHeader
      | some pattern => readHeader (Text.trim pattern)
  | _ => readProperty line

/-- Reads a line. -/
def readLine (line : List Char) : Except LineFault Line :=
  readTrimmed (Text.trim line)

/-- Reads lines, the first of which has a given number, up to the first malformed one. -/
def readLines (number : Nat) : List (List Char) → Except (Nat × LineFault) (List Line)
  | [] => .ok []
  | line :: rest =>
      match readLine line with
      | .error fault => .error (number, fault)
      | .ok said => (readLines (number + 1) rest).map (said :: ·)

/-- A section of a file. -/
structure Section where
  /-- The pattern for the paths that the section applies to. -/
  glob : Glob
  /-- The keys with their values, in order. -/
  properties : List (String × String)
deriving Repr

/-- A configuration file. -/
structure File where
  /-- The path of the file, as it was spelled. -/
  path : Path
  /-- Files further up do not count. -/
  isRoot : Bool
  /-- The sections, in order. -/
  sections : List Section
deriving Repr

/-- The lines before the first header, without it. -/
def preamble : List Line → List Line
  | [] => []
  | .header _ :: _ => []
  | line :: rest => line :: preamble rest

/-- The values stated by lines up to the next header. -/
def propertiesOf : List Line → List (String × String)
  | [] => []
  | .header _ :: _ => []
  | .property key value :: rest => (key, value) :: propertiesOf rest
  | .silent :: rest => propertiesOf rest

/-- The sections that lines make up. -/
def sectionsOf : List Line → List Section
  | [] => []
  | .header glob :: rest => ⟨glob, propertiesOf rest⟩ :: sectionsOf rest
  | _ :: rest => sectionsOf rest

/-- The value of the last line `root = …` before the first header is `true`. -/
def statesRoot (lines : List Line) : Bool :=
  let stated := (propertiesOf (preamble lines)).filter fun entry => entry.1 == "root"
  stated.getLast?.any fun entry => Text.sameIgnoringCase entry.2.toList "true".toList

namespace File

/-- Reads the text of the file at a path. -/
def parse (path : Path) (text : String) : Except (Nat × LineFault) File :=
  (readLines 1 (Text.lines text.toList)).map fun lines =>
    ⟨path, statesRoot lines, sectionsOf lines⟩

/-- Reads the text of the file at a path, reporting the first malformed line. -/
def read (path : Path) (text : String) : Except Failure File :=
  match parse path text with
  | .ok file => .ok file
  | .error (line, fault) => .error (fault.failure path line)

/-- The folder that the patterns of the file are read from. -/
def folder (file : File) : Path :=
  file.path.parent?.getD ⟨false, []⟩

/-- Takes in one line `key = value` of the file; the value `unset` removes the key. -/
def applyProperty
    (file : File)
    (properties : Properties)
    (entry : String × String) : Properties :=
  if Text.sameIgnoringCase entry.2.toList "unset".toList then
    properties.erase entry.1
  else
    properties.insert entry.1 ⟨stripSeverity entry.2, .editorConfig file.path.text⟩

/-- The path that the sections of the file are matched with, for an artifact below its folder. -/
def relativeText? (file : File) (target : Path) : Option String :=
  (target.relativeTo? file.folder).map fun path =>
    String.ofList (path.text.toList.map fun character =>
      if character = '\\' then '/' else character)

/-- Takes in the sections of the file that apply to a path, later ones over earlier ones. -/
def apply
    (file : File)
    (target : Path)
    (properties : Properties) : Properties :=
  match file.relativeText? target with
  | none => properties
  | some relative =>
      ((file.sections.filter fun part => part.glob.matchesText relative).flatMap
        Section.properties).foldl file.applyProperty properties

end File
end EditorConfig
end HouseStyle
