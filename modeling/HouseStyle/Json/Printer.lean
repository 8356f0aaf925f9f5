import HouseStyle.Json.Basic

/-!
# Written JSON

The written form of a JSON value: two blanks of indentation a level, one
entry a line, and escapes for quotes, backslashes and the control characters
below the blank.
-/

namespace HouseStyle
namespace Json

/-- The two hexadecimal digits of a control character. -/
def controlDigits (code : Nat) : List Char :=
  [Nat.digitChar (code / 16), Nat.digitChar (code % 16)]

/-- The written form of one character of a text. -/
def writeChar (character : Char) : List Char :=
  if character = '"' then ['\\', '"']
  else if character = '\\' then ['\\', '\\']
  else if character.toNat = 8 then ['\\', 'b']
  else if character.toNat = 9 then ['\\', 't']
  else if character.toNat = 10 then ['\\', 'n']
  else if character.toNat = 12 then ['\\', 'f']
  else if character.toNat = 13 then ['\\', 'r']
  else if character.toNat < 32 then ['\\', 'u', '0', '0'] ++ controlDigits character.toNat
  else [character]

/-- The written form of a text. -/
def writeText (value : String) : List Char :=
  '"' :: (value.toList.flatMap writeChar ++ ['"'])

/-- A new line with the indentation of a level. -/
def newLine (level : Nat) : List Char :=
  '\n' :: List.replicate (2 * level) ' '

mutual

/-- The written form of a value whose first line stands at a level. -/
def write (level : Nat) : Json → List Char
  | null => "null".toList
  | bool true => "true".toList
  | bool false => "false".toList
  | number value => Nat.toDigits 10 value
  | text value => writeText value
  | list [] => ['[', ']']
  | list (item :: rest) =>
      '[' :: (newLine (level + 1) ++ write (level + 1) item ++
        writeItems (level + 1) rest ++ newLine level ++ [']'])
  | object [] => ['\x7b', '\x7d']
  | object ((key, value) :: rest) =>
      '\x7b' :: (newLine (level + 1) ++ writeText key ++ [':', ' '] ++
        write (level + 1) value ++ writeEntries (level + 1) rest ++ newLine level ++ ['\x7d'])

/-- The further items of a list, each after a comma on a line of its own. -/
def writeItems (level : Nat) : List Json → List Char
  | [] => []
  | item :: rest =>
      ',' :: (newLine level ++ write level item ++ writeItems level rest)

/-- The further entries of an object, each after a comma on a line of its own. -/
def writeEntries (level : Nat) : List (String × Json) → List Char
  | [] => []
  | (key, value) :: rest =>
      ',' :: (newLine level ++ writeText key ++ [':', ' '] ++ write level value ++
        writeEntries level rest)

end

/-- The written form of a value as a document of its own, ended by a line feed. -/
def document (value : Json) : String :=
  String.ofList (write 0 value ++ ['\n'])

end Json
end HouseStyle
