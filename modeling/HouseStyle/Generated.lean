import HouseStyle.Text.Blank
import HouseStyle.Text.Split

/-!
# Generated texts

A generated file says so in a comment at its top.  The test reads lines up to
the first that is neither blank, a preprocessor line nor part of a comment.
-/

namespace HouseStyle
namespace Generated

/-- The mark of a generated file. -/
def mark : List Char :=
  "<auto-generated".toList

/-- What one line at the top of a file says, outside block comments. -/
inductive TopLine where
  /-- The line says nothing; the next one follows. -/
  | silent
  /-- The line opens a block comment that it does not close. -/
  | opensBlock
  /-- The line bears the mark. -/
  | marked
  /-- The line begins the code. -/
  | code
deriving DecidableEq, Repr

/-- The line holds the end of a block comment. -/
def endsBlock (line : List Char) : Bool :=
  Text.occursIn ['*', '/'] line

/-- The line bears the mark. -/
def isMarked (line : List Char) : Bool :=
  Text.occursIn mark line

/-- What a line without blanks at its ends says. -/
def topLine (line : List Char) : TopLine :=
  match line with
  | [] => .silent
  | '#' :: _ => .silent
  | '/' :: '/' :: comment => if isMarked comment then .marked else .silent
  | '/' :: '*' :: _ =>
      if isMarked line then .marked else if endsBlock line then .silent else .opensBlock
  | _ => .code

/-- The lines at the top bear the mark; `inBlock` tells that a block comment is open. -/
def linesMarked (inBlock : Bool) : List (List Char) → Bool
  | [] => false
  | line :: rest =>
      if inBlock then
        isMarked (Text.trim line) || linesMarked (!endsBlock (Text.trim line)) rest
      else
        match topLine (Text.trim line) with
        | .silent => linesMarked false rest
        | .opensBlock => linesMarked true rest
        | .marked => true
        | .code => false

/-- A text says at its top that it was generated. -/
def isGenerated (source : String) : Bool :=
  linesMarked false (Text.lines source.toList)

end Generated
end HouseStyle
