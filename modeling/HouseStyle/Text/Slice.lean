/-!
# Slices by byte offset

Offsets count the bytes of the UTF-8 form of a text.  An offset that lies
inside a character or past the end selects nothing.
-/

namespace HouseStyle
namespace Text

/-- The number of bytes of a text. -/
def byteLength (text : List Char) : Nat :=
  text.foldr (fun character total => character.utf8Size + total) 0

/-- The bytes of a text. -/
def bytes (text : List Char) : List UInt8 :=
  text.flatMap String.utf8EncodeChar

/-- What is left of a text after some bytes, if a character ends there. -/
def dropBytes? (count : Nat) : List Char → Option (List Char)
  | [] => if count = 0 then some [] else none
  | character :: rest =>
      if count = 0 then
        some (character :: rest)
      else if character.utf8Size ≤ count then
        dropBytes? (count - character.utf8Size) rest
      else
        none

/-- The first bytes of a text, if a character ends after them. -/
def takeBytes? (count : Nat) : List Char → Option (List Char)
  | [] => if count = 0 then some [] else none
  | character :: rest =>
      if count = 0 then
        some []
      else if character.utf8Size ≤ count then
        (takeBytes? (count - character.utf8Size) rest).map (character :: ·)
      else
        none

/-- The text between two offsets, the second one excluded. -/
def slice?
    (text : List Char)
    (start stop : Nat) : Option (List Char) :=
  if start ≤ stop then
    (dropBytes? start text).bind (takeBytes? (stop - start))
  else
    none

end Text
end HouseStyle
