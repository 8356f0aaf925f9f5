/-!
# Marked texts

A text of bytes has a place before each byte and one at its end.  Marks on
places tell how far a match can have come; a match moves all of them at once,
so the work grows with the length of the text and not with the number of ways
to match it.
-/

namespace HouseStyle
namespace Glob

/-- The byte that separates folders. -/
def slash : UInt8 :=
  47

/-- The byte separates folders. -/
def isSlash (byte : UInt8) : Bool :=
  byte == slash

/-- The byte does not separate folders. -/
def isPlain (byte : UInt8) : Bool :=
  byte != slash

/-- Any byte will do. -/
def anything (_ : UInt8) : Bool :=
  true

/-- A text with a mark, or none, on each of its places. -/
inductive Marked where
  /-- The place at the end. -/
  | last (mark : Bool)
  /-- A place, the byte after it and what follows. -/
  | next (mark : Bool) (byte : UInt8) (rest : Marked)
deriving DecidableEq, Repr

namespace Marked

/-- The text with no marks. -/
def plain : List UInt8 → Marked
  | [] => last false
  | byte :: rest => next false byte (plain rest)

/-- The text with a mark on its first place only. -/
def ofBytes : List UInt8 → Marked
  | [] => last true
  | byte :: rest => next true byte (plain rest)

/-- The text under the marks. -/
def bytes : Marked → List UInt8
  | last _ => []
  | next _ byte rest => byte :: rest.bytes

/-- The place at the end is marked. -/
def endMark : Marked → Bool
  | last mark => mark
  | next _ _ rest => rest.endMark

/-- Removes all marks. -/
def clear : Marked → Marked
  | last _ => last false
  | next _ byte rest => next false byte rest.clear

/-- Moves marks over one byte, from a first place on where a mark may arrive. -/
def stepFrom (arrives : Bool) (accepts : UInt8 → Bool) : Marked → Marked
  | last _ => last arrives
  | next mark byte rest => next arrives byte (rest.stepFrom (mark && accepts byte) accepts)

/-- Moves every mark over the next byte, if that byte is accepted. -/
def step (accepts : UInt8 → Bool) (text : Marked) : Marked :=
  text.stepFrom false accepts

/-- Copies marks onwards, from a first place on where a mark may arrive. -/
def spreadFrom (arrives : Bool) (accepts : UInt8 → Bool) : Marked → Marked
  | last mark => last (mark || arrives)
  | next mark byte rest =>
      next (mark || arrives) byte (rest.spreadFrom ((mark || arrives) && accepts byte) accepts)

/-- Copies every mark to all places that accepted bytes lead to. -/
def spread (accepts : UInt8 → Bool) (text : Marked) : Marked :=
  text.spreadFrom false accepts

/-- Keeps marks right after a slash; `follows` tells that the first place is one. -/
def afterSlashFrom (follows : Bool) : Marked → Marked
  | last mark => last (mark && follows)
  | next mark byte rest => next (mark && follows) byte (rest.afterSlashFrom (isSlash byte))

/-- Keeps the marks right after a slash. -/
def afterSlash (text : Marked) : Marked :=
  text.afterSlashFrom false

/-- The marks of both of two markings of one text. -/
def union : Marked → Marked → Marked
  | next left byte rest, next right _ more => next (left || right) byte (rest.union more)
  | last left, last right => last (left || right)
  | last left, next right _ _ => last (left || right)
  | next left byte rest, last right => next (left || right) byte rest

end Marked
end Glob
end HouseStyle
