import HouseStyle.Glob.Marked
import HouseStyle.Glob.Reading
import HouseStyle.Text.Slice

/-!
# Matching glob patterns

A pattern matches bytes, from the first to the last.  Every token moves marks:
from the places where it can begin to the places where it can end.  A pattern
matches when its tokens, one after the other, move a mark from the start of
the text to its end.
-/

namespace HouseStyle
namespace Glob

/-- Turns the bytes of `A` to `Z` into those of `a` to `z` and keeps all else. -/
def lowerByte (byte : UInt8) : UInt8 :=
  if 65 ≤ byte && byte ≤ 90 then byte + 32 else byte

/-- Turns the bytes of `a` to `z` into those of `A` to `Z` and keeps all else. -/
def upperByte (byte : UInt8) : UInt8 :=
  if 97 ≤ byte && byte ≤ 122 then byte - 32 else byte

/-- Two bytes agree, up to the case of letters if that is to be ignored. -/
def sameByte (ignoreCase : Bool) (left right : UInt8) : Bool :=
  if ignoreCase then lowerByte left == lowerByte right else left == right

namespace CharacterClass

/--
A byte lies in a range of characters.  A character of several bytes stands for
each of its bytes, and the range runs from the last byte of its first
character to the first byte of its last.
-/
def rangeHolds (range : Char × Char) (byte : UInt8) : Bool :=
  let first := String.utf8EncodeChar range.1
  let last := String.utf8EncodeChar range.2
  first.contains byte || last.contains byte ||
    (first.getLast?.any (· ≤ byte) && last.head?.any (byte ≤ ·) && range.1 != range.2)

/-- A byte lies in one of the ranges of a class. -/
def listed (members : CharacterClass) (byte : UInt8) : Bool :=
  members.ranges.any fun range => rangeHolds range byte

/-- A class matches a byte. -/
def holds
    (ignoreCase : Bool)
    (members : CharacterClass)
    (byte : UInt8) : Bool :=
  let found :=
    members.listed byte ||
      (ignoreCase && (members.listed (lowerByte byte) || members.listed (upperByte byte)))
  found != members.negated

end CharacterClass

mutual

/-- The token matches the empty text only, because it offers no alternative. -/
def Token.isVacuous : Token → Bool
  | .alternatives branches => allVacuous branches
  | _ => false

/-- All tokens of a pattern are vacuous. -/
def isVacuous : List Token → Bool
  | [] => true
  | token :: rest => token.isVacuous && isVacuous rest

/-- All patterns of a list are vacuous. -/
def allVacuous : List (List Token) → Bool
  | [] => true
  | branch :: rest => isVacuous branch && allVacuous rest

end

/-- Moves marks past the given bytes, up to the case of letters if that is to be ignored. -/
def moveOver (ignoreCase : Bool) : List UInt8 → Marked → Marked
  | [], text => text
  | byte :: rest, text => moveOver ignoreCase rest (text.step (sameByte ignoreCase byte))

mutual

/-- Moves marks from where a token can begin to where it can end. -/
def Token.move (ignoreCase : Bool) : Token → Marked → Marked
  | .literal character, text => moveOver ignoreCase (String.utf8EncodeChar character) text
  | .anyByte, text => text.step isPlain
  | .anyRun, text => text.spread isPlain
  | .leadingFolders, text => text.union (text.spread anything).afterSlash
  | .trailingFolders, text => (text.step isSlash).spread anything
  | .innerFolders, text => ((text.step isSlash).spread anything).afterSlash
  | .oneOf members, text => text.step (members.holds ignoreCase)
  | .alternatives branches, text =>
      if allVacuous branches then text else moveAny ignoreCase branches text

/-- Moves marks from where a pattern can begin to where it can end. -/
def moveAll (ignoreCase : Bool) : List Token → Marked → Marked
  | [], text => text
  | token :: rest, text => moveAll ignoreCase rest (token.move ignoreCase text)

/-- Moves marks along each of several patterns; vacuous ones are no choice. -/
def moveAny (ignoreCase : Bool) : List (List Token) → Marked → Marked
  | [], text => text.clear
  | branch :: rest, text =>
      (if isVacuous branch then text.clear else moveAll ignoreCase branch text).union
        (moveAny ignoreCase rest text)

end

end Glob

/-- A glob pattern that is ready to match. -/
structure Glob where
  /-- The pattern as it is written. -/
  pattern : String
  /-- Its tokens. -/
  tokens : List Glob.Token
  /-- The case of letters is ignored. -/
  ignoreCase : Bool
deriving Repr

namespace Glob

/-- Reads a pattern. -/
def compile (ignoreCase : Bool) (pattern : String) : Except Fault Glob := do
  return ⟨pattern, ← readTokens pattern.toList, ignoreCase⟩

/-- The pattern matches all of the bytes. -/
def matchesBytes (glob : Glob) (bytes : List UInt8) : Bool :=
  match glob.tokens with
  | [.leadingFolders] => true
  | tokens => (moveAll glob.ignoreCase tokens (Marked.ofBytes bytes)).endMark

/-- The pattern matches the whole of a text. -/
def matchesText (glob : Glob) (text : String) : Bool :=
  glob.matchesBytes (Text.bytes text.toList)

end Glob
end HouseStyle
