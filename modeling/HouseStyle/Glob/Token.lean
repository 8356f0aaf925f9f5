/-!
# Tokens of glob patterns

A glob pattern is a sequence of tokens.  Folders in a path are separated by
slashes; only the tokens that speak of folders, and classes that hold a slash,
match one.
-/

namespace HouseStyle
namespace Glob

/-- A set of characters, or all others. -/
structure CharacterClass where
  /-- The class stands for the characters outside its ranges. -/
  negated : Bool
  /-- The ranges, each with its first and its last character. -/
  ranges : List (Char × Char)
deriving DecidableEq, Repr

/-- A token of a glob pattern. -/
inductive Token where
  /-- A character that stands for itself. -/
  | literal (character : Char)
  /-- Any byte but a slash. -/
  | anyByte
  /-- Any run of bytes without a slash. -/
  | anyRun
  /-- Any folders at the start of a path, or none. -/
  | leadingFolders
  /-- A slash and all that is below it. -/
  | trailingFolders
  /-- A slash, and any folders before a further slash. -/
  | innerFolders
  /-- One byte of a class. -/
  | oneOf (members : CharacterClass)
  /-- One of several patterns. -/
  | alternatives (branches : List (List Token))
deriving Inhabited, Repr

/-- What is wrong with a pattern. -/
inductive Fault where
  | unclosedClass
  | invalidRange (first last : Char)
  | unopenedGroup
  | unclosedGroup
  | danglingEscape
deriving DecidableEq, Repr

/-- What is wrong with a pattern, in words. -/
def Fault.reason : Fault → String
  | unclosedClass => "unclosed character class; missing ']'"
  | invalidRange first last =>
      "invalid range; '" ++ toString first ++ "' > '" ++ toString last ++ "'"
  | unopenedGroup =>
      "unopened alternate group; missing '\x7b' (maybe escape '\x7d' with '[\x7d]'?)"
  | unclosedGroup =>
      "unclosed alternate group; missing '\x7d' (maybe escape '\x7b' with '[\x7b]'?)"
  | danglingEscape => "dangling '\\'"

/-- What is wrong with a given pattern, in words. -/
def Fault.message (pattern : String) (fault : Fault) : String :=
  "error parsing glob '" ++ pattern ++ "': " ++ fault.reason

end Glob
end HouseStyle
