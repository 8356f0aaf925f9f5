/-!
# Cutting texts

Pieces between separators, lines, and the search for one text in another.
-/

namespace HouseStyle
namespace Text

/-- Puts a character in front of the first piece. -/
def consToFirst (character : Char) : List (List Char) → List (List Char)
  | [] => [[character]]
  | piece :: rest => (character :: piece) :: rest

/-- The pieces between the separators.  There is always at least one piece. -/
def pieces (separator : Char) : List Char → List (List Char)
  | [] => [[]]
  | character :: rest =>
      if character = separator then
        [] :: pieces separator rest
      else
        consToFirst character (pieces separator rest)

/-- Puts the separator between the pieces, undoing `pieces`. -/
def glue (separator : Char) : List (List Char) → List Char
  | [] => []
  | [piece] => piece
  | piece :: next :: rest => piece ++ separator :: glue separator (next :: rest)

/-- What stands before and after the first separator, if there is one. -/
def cutFirst? (separator : Char) : List Char → Option (List Char × List Char)
  | [] => none
  | character :: rest =>
      if character = separator then
        some ([], rest)
      else
        (cutFirst? separator rest).map fun parts => (character :: parts.1, parts.2)

/-- What stands after the last separator, if there is one. -/
def afterLast? (separator : Char) : List Char → Option (List Char)
  | [] => none
  | character :: rest =>
      match afterLast? separator rest with
      | some found => some found
      | none => if character = separator then some rest else none

/-- The text without one given character at its end, if it ends in that character. -/
def dropEnd? (last : Char) : List Char → Option (List Char)
  | [] => none
  | [character] => if character = last then some [] else none
  | character :: next :: rest => (dropEnd? last (next :: rest)).map (character :: ·)

/-- The text without a carriage return at its end. -/
def dropReturn (line : List Char) : List Char :=
  (dropEnd? '\r' line).getD line

/-- Lines from pieces between line feeds: all but the last piece were ended by a line feed. -/
def linesOfPieces : List (List Char) → List (List Char)
  | [] => []
  | [last] => if last.isEmpty then [] else [last]
  | piece :: next :: rest => dropReturn piece :: linesOfPieces (next :: rest)

/--
The lines of a text.  A line ends at a line feed, together with one carriage
return right before it; what follows the last line feed is a line unless it is empty.
-/
def lines (text : List Char) : List (List Char) :=
  linesOfPieces (pieces '\n' text)

/-- One text stands somewhere in another. -/
def occursIn (sought : List Char) : List Char → Bool
  | [] => sought.isEmpty
  | character :: rest =>
      sought.isPrefixOf (character :: rest) || occursIn sought rest

/-- The text without a given beginning, if it begins so. -/
def dropStart? : List Char → List Char → Option (List Char)
  | [], text => some text
  | _ :: _, [] => none
  | wanted :: more, character :: rest =>
      if wanted = character then dropStart? more rest else none

end Text
end HouseStyle
