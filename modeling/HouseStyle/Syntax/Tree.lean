import HouseStyle.Syntax.Traversal
import HouseStyle.Text.Quoted

/-!
# Syntax trees

A syntax tree is the root node of a document together with the source text.
Trees are supplied as rows, one for each node in document order, and each row
names the row of its parent.
-/

namespace HouseStyle
namespace Syntax

/-- The syntax tree of a document. -/
structure Tree where
  /-- The root node. -/
  root : Node
  /-- The text of the document. -/
  source : String
  /-- No two nodes of the tree have the same number. -/
  distinct : (root.subtree.map Node.number).Nodup
deriving Repr

/-- One node of a tree that is supplied as a list. -/
structure Row where
  /-- The position of the parent; the root has none. -/
  parent : Option Nat
  /-- What the node is. -/
  kind : Kind
  /-- The label under which the parent finds the node. -/
  field : Option Field
  /-- The offset of the first byte covered. -/
  start : Nat
  /-- The offset after the last byte covered. -/
  stop : Nat
  /-- The node is no mere token. -/
  named : Bool
deriving Repr

namespace Tree

instance : Inhabited Tree where
  default := ⟨.branch default [], "", by decide⟩

/-- The label of the node in a row; a range that cuts no text covers the empty one. -/
def labelOf
    (source : List Char)
    (number : Nat)
    (row : Row) : Label where
  number := number
  kind := row.kind
  field := row.field
  start := row.start
  stop := row.stop
  named := row.named
  text := String.ofList ((Text.slice? source row.start row.stop).getD [])

/--
Takes in a row after all rows that follow it.  `waiting` holds the finished
nodes that still lack their parent, in document order and each with the
position of that parent; the children of the row come first among them.
-/
def absorb
    (source : List Char)
    (number : Nat)
    (row : Row)
    (waiting : List (Option Nat × Node)) : List (Option Nat × Node) :=
  let isChild := fun entry : Option Nat × Node => entry.1 == some number
  (row.parent, .branch (labelOf source number row) ((waiting.takeWhile isChild).map Prod.snd)) ::
    waiting.dropWhile isChild

/-- The numbers of the nodes at and below those that still lack their parent. -/
def waitingNumbers (waiting : List (Option Nat × Node)) : List Nat :=
  (Node.subtreeAll (waiting.map Prod.snd)).map Node.number

theorem waitingNumbers_absorb
    (source : List Char)
    (number : Nat)
    (row : Row)
    (waiting : List (Option Nat × Node)) :
    waitingNumbers (absorb source number row waiting) = number :: waitingNumbers waiting := by
  let isChild := fun entry : Option Nat × Node => entry.1 == some number
  have rejoined : waiting.takeWhile isChild ++ waiting.dropWhile isChild = waiting :=
    List.takeWhile_append_dropWhile
  have numbers := congrArg waitingNumbers rejoined
  simp only [waitingNumbers, List.map_append, Node.subtreeAll_append] at numbers
  simp only [waitingNumbers, absorb, List.map_cons, Node.subtreeAll, Node.subtree,
    List.cons_append, List.map_append]
  rw [← numbers]
  rfl

/-- Rows are numbered in order, so the nodes built from them are too. -/
theorem waitingNumbers_foldr
    (source : List Char)
    (rows : List (Row × Nat)) :
    waitingNumbers (rows.foldr (fun entry => absorb source entry.2 entry.1) []) =
      rows.map Prod.snd := by
  induction rows with
  | nil => rfl
  | cons row rest inductionHypothesis =>
      rw [List.foldr_cons, waitingNumbers_absorb, inductionHypothesis, List.map_cons]

theorem nodup_numbers_of_foldr
    {source : List Char}
    {rows : List Row}
    {parent : Option Nat}
    {root : Node}
    (built : rows.zipIdx.foldr (fun entry => absorb source entry.2 entry.1) [] =
      [(parent, root)]) :
    (root.subtree.map Node.number).Nodup := by
  have numbers := waitingNumbers_foldr source rows.zipIdx
  rw [built, List.zipIdx_map_snd] at numbers
  simp only [waitingNumbers, List.map_cons, List.map_nil, Node.subtreeAll,
    List.append_nil] at numbers
  rw [numbers]
  exact List.nodup_range'

/-- The tree with the given rows, if they form one tree in document order. -/
def ofRows? (source : String) (rows : List Row) : Option Tree :=
  match built : rows.zipIdx.foldr (fun entry => absorb source.toList entry.2 entry.1) [] with
  | [(none, root)] => some ⟨root, source, nodup_numbers_of_foldr built⟩
  | _ => none

/-- The root in its place. -/
def site (tree : Tree) : Site :=
  Site.root tree.root

/-- All sites of the tree in document order. -/
def sites (tree : Tree) : List Site :=
  (tree.site.walkFrom (fun site found => (site :: found, .enter)) []).reverse

/-- The site of the node with a given number. -/
def siteAt? (number : Nat) (tree : Tree) : Option Site :=
  tree.sites.find? fun site => site.number == number

/-- A short description: the kind of the root and the length of the source in bytes. -/
def describe (tree : Tree) : String :=
  "ParsedTree \x7b root: " ++ Text.quote tree.root.kind.name ++ ", source_len: " ++
    toString (Text.byteLength tree.source.toList) ++ " \x7d"

end Tree
end Syntax
end HouseStyle
