import HouseStyle.Trees.Source

/-!
# Stored trees

A tree can be stored in a file beside its source.  The file has a line for
every node in document order, with six columns between tabs: the number of the
parent, the kind, the label, the first offset, the offset after the last, and
`named` or `token`.  A hyphen stands for no parent and for no label.
-/

namespace HouseStyle
namespace StoredTree

open Syntax

/-- What follows the name of a source file in the name of its stored tree. -/
def ending : String :=
  ".tree"

/-- Reads the number of a parent. -/
def readParent? (column : String) : Option (Option Nat) :=
  if column = "-" then some none else column.toNat?.map some

/-- Reads the label of a node. -/
def readField (column : String) : Option Field :=
  if column = "-" then none else some (Field.ofLabel column)

/-- Reads whether a node is more than a token. -/
def readNamed? (column : String) : Option Bool :=
  if column = "named" then some true
  else if column = "token" then some false
  else none

/-- Reads the line of a node. -/
def readRow? (line : List Char) : Option Row :=
  match (Text.pieces '\t' line).map String.ofList with
  | [parent, kind, field, start, stop, named] => do
      return ⟨← readParent? parent, Kind.ofName kind, readField field, ← start.toNat?,
        ← stop.toNat?, ← readNamed? named⟩
  | _ => none

/-- Reads the stored tree of a source text. -/
def read? (source stored : String) : Option Tree := do
  Tree.ofRows? source (← (Text.lines stored.toList).mapM readRow?)

/-- The place of the stored tree of a source file. -/
def placeOf (source : List String) : List String :=
  source.dropLast ++ (source.getLast?.map fun name => name ++ ending).toList

/-- The tree stored beside a file, if the file holds a given text. -/
def beside?
    (disk : Disk)
    (text : String)
    (entry : List String × Item) : Option Tree :=
  if entry.2 = .file (some text) then
    match disk.itemAt? (placeOf entry.1) with
    | some (.file (some stored)) => read? text stored
    | _ => none
  else
    none

/-- The parser that knows the trees stored on a disk. -/
def parser (disk : Disk) : Parser := fun path text =>
  match disk.items.findSome? (beside? disk text) with
  | some tree => .ok tree
  | none => .error (.unparsable path "parser produced no tree")

end StoredTree
end HouseStyle
