/-!
# Blank characters

The characters that count as white space, and trimming by them.  Texts are
lists of characters, so every function here recurses on its argument.
-/

namespace HouseStyle
namespace Text

/-- The ranges of code points with the property White_Space. -/
def blankRanges : List (Nat × Nat) :=
  [(0x0009, 0x000D), (0x0020, 0x0020), (0x0085, 0x0085), (0x00A0, 0x00A0),
   (0x1680, 0x1680), (0x2000, 0x200A), (0x2028, 0x2029), (0x202F, 0x202F),
   (0x205F, 0x205F), (0x3000, 0x3000)]

/-- A character is blank when its code point lies in one of the ranges. -/
def isBlank (character : Char) : Bool :=
  blankRanges.any fun range =>
    range.1 ≤ character.toNat && character.toNat ≤ range.2

/-- The text without its leading blanks. -/
def trimStart (text : List Char) : List Char :=
  text.dropWhile isBlank

/-- The text without its trailing blanks. -/
def trimEnd : List Char → List Char
  | [] => []
  | character :: rest =>
      match trimEnd rest with
      | [] => if isBlank character then [] else [character]
      | next :: kept => character :: next :: kept

/-- The text without blanks at either end. -/
def trim (text : List Char) : List Char :=
  trimEnd (trimStart text)

/-- A text of blanks only, the empty text included. -/
def allBlank (text : List Char) : Bool :=
  text.all isBlank

end Text
end HouseStyle
