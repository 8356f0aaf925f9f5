import HouseStyle.Text.Split

/-!
# Paths

A path is what stands between its slashes, kept as it is written.  Pieces that
are empty or a single dot say nothing, apart from a dot at the start of a
relative path; two spellings with the same components name the same place.
-/

namespace HouseStyle

/-- A path as it is written. -/
structure Path where
  /-- The path starts with a slash. -/
  isAbsolute : Bool
  /-- The pieces between the slashes, after the leading slash of an absolute path. -/
  pieces : List String
deriving DecidableEq, Repr

namespace Path

/-- The path with a given text. -/
def ofText (text : String) : Path :=
  match text.toList with
  | '/' :: rest => ⟨true, (Text.pieces '/' rest).map String.ofList⟩
  | relative => ⟨false, (Text.pieces '/' relative).map String.ofList⟩

/-- The text of a path. -/
def text (path : Path) : String :=
  (if path.isAbsolute then "/" else "") ++ String.intercalate "/" path.pieces

/-- The absolute path with given names. -/
def ofNames (names : List String) : Path where
  isAbsolute := true
  pieces := names

/-- The path is the empty text. -/
def isEmpty (path : Path) : Bool :=
  path.text.isEmpty

/-- A NUL character stands in the path, which no path on disk can hold. -/
def holdsNul (path : Path) : Bool :=
  path.pieces.any fun piece => piece.toList.contains '\x00'

/-- A piece says nothing; `atStart` tells that it stands at the start of a relative path. -/
def isSilent (atStart : Bool) (piece : String) : Bool :=
  piece == "" || (piece == "." && !atStart)

/-- The pieces without silent ones at the end. -/
def trimEnd (atStart : Bool) : List String → List String
  | [] => []
  | piece :: rest =>
      match trimEnd false rest with
      | [] => if isSilent atStart piece then [] else [piece]
      | next :: kept => piece :: next :: kept

/-- The pieces that say something. -/
def telling (atStart : Bool) : List String → List String
  | [] => []
  | piece :: rest =>
      if isSilent atStart piece then telling false rest else piece :: telling false rest

/-- What a path says: whether it starts at the root, and the pieces that say something. -/
def components (path : Path) : Bool × List String :=
  (path.isAbsolute, telling (!path.isAbsolute) path.pieces)

/-- What tells paths apart that say different things; the number of pieces is compared first. -/
def key (path : Path) : Nat × Bool × List String :=
  (path.components.2.length, path.components)

/-- The path without silent pieces at the end. -/
def trimmed (path : Path) : Path :=
  { path with pieces := trimEnd (!path.isAbsolute) path.pieces }

/-- The path without its last component, kept as written up to there. -/
def parent? (path : Path) : Option Path :=
  match path.trimmed.pieces with
  | [] => none
  | piece :: rest => some (trimmed ⟨path.isAbsolute, (piece :: rest).dropLast⟩)

/-- The parents of the path whose pieces, latest first, are given: itself first. -/
def parentsOf (isAbsolute : Bool) : List String → List Path
  | [] => [⟨isAbsolute, []⟩]
  | piece :: rest =>
      if isSilent (!isAbsolute && rest.isEmpty) piece then
        parentsOf isAbsolute rest
      else
        ⟨isAbsolute, (piece :: rest).reverse⟩ :: parentsOf isAbsolute rest

/-- The paths above a path, nearest first. -/
def parents (path : Path) : List Path :=
  match path.trimmed.pieces.reverse with
  | [] => []
  | _ :: rest => parentsOf path.isAbsolute rest

/-- A path read from another one; an absolute path is read on its own. -/
def join (base path : Path) : Path :=
  if path.isAbsolute then
    path
  else if base.pieces.getLast? = some "" then
    { base with pieces := base.pieces.dropLast ++ path.pieces }
  else
    { base with pieces := base.pieces ++ path.pieces }

/-- The pieces after given components, if the pieces start with them. -/
def afterComponents (atStart : Bool) : List String → List String → Option (List String)
  | [], pieces => some pieces
  | _ :: _, [] => none
  | wanted :: more, piece :: rest =>
      if isSilent atStart piece then afterComponents false (wanted :: more) rest
      else if piece = wanted then afterComponents false more rest
      else none

/-- A path as seen from another one above it, kept as written from there on. -/
def relativeTo? (path base : Path) : Option Path :=
  match base.components with
  | (false, []) => some path.trimmed
  | (isAbsolute, wanted) =>
      if isAbsolute = path.isAbsolute then
        (afterComponents (!path.isAbsolute) wanted path.pieces).map fun pieces =>
          ⟨false, trimEnd false (pieces.dropWhile (isSilent false))⟩
      else
        none

end Path
end HouseStyle
