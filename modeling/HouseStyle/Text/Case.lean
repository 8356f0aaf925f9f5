/-!
# Letter case

Comparison that ignores the case of the letters `A` to `Z`.  No other
character has a case here.
-/

namespace HouseStyle
namespace Text

/-- Turns the letters `A` to `Z` into `a` to `z` and keeps all else. -/
def lower (text : List Char) : List Char :=
  text.map Char.toLower

/-- Two texts agree up to the case of their letters. -/
def sameIgnoringCase (left right : List Char) : Bool :=
  lower left == lower right

end Text
end HouseStyle
