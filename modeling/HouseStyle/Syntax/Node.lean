import HouseStyle.Syntax.Kind
import HouseStyle.Text.Slice

/-!
# Syntax nodes

A node of a syntax tree with its children in source order.  Every node knows
its number in the tree, the bytes that it covers and the text of those bytes.
This module looks downwards only; `HouseStyle.Syntax.Site` places a node
below its ancestors.
-/

namespace HouseStyle
namespace Syntax

/-- What a node says about itself, apart from its children. -/
structure Label where
  /-- The number of the node, counted in document order from the root. -/
  number : Nat
  /-- What the node is. -/
  kind : Kind
  /-- The label under which the parent finds the node. -/
  field : Option Field
  /-- The offset of the first byte covered. -/
  start : Nat
  /-- The offset after the last byte covered. -/
  stop : Nat
  /-- The node stands for a rule of the grammar and is no mere token. -/
  named : Bool
  /-- The text covered. -/
  text : String
deriving DecidableEq, Repr, Inhabited

/-- A syntax node with its children in source order. -/
inductive Node where
  | branch (label : Label) (children : List Node)
deriving Inhabited, Repr

namespace Node

/-- What the node says about itself. -/
def label : Node → Label
  | branch label _ => label

/-- The children, tokens included. -/
def children : Node → List Node
  | branch _ children => children

/-- The number of the node in its tree. -/
def number (node : Node) : Nat :=
  node.label.number

/-- The kind of the node. -/
def kind (node : Node) : Kind :=
  node.label.kind

/-- The label under which the parent finds the node. -/
def field (node : Node) : Option Field :=
  node.label.field

/-- The offset of the first byte covered. -/
def start (node : Node) : Nat :=
  node.label.start

/-- The offset after the last byte covered. -/
def stop (node : Node) : Nat :=
  node.label.stop

/-- The node is no mere token. -/
def isNamed (node : Node) : Bool :=
  node.label.named

/-- The text covered by the node. -/
def text (node : Node) : String :=
  node.label.text

/-- The children that are no mere tokens. -/
def namedChildren (node : Node) : List Node :=
  node.children.filter isNamed

/-- The child found under a label. -/
def child? (field : Field) (node : Node) : Option Node :=
  node.children.find? fun child => child.field == some field

/-- Some child has a kind, be it a token or not. -/
def hasChildOf (kind : Kind) (node : Node) : Bool :=
  node.children.any fun child => child.kind == kind

mutual

/-- The number of nodes at and below a node. -/
def size : Node → Nat
  | branch _ children => sizeAll children + 1

/-- The number of nodes at and below the nodes of a list. -/
def sizeAll : List Node → Nat
  | [] => 0
  | node :: rest => node.size + sizeAll rest

end

theorem size_pos (node : Node) : 0 < node.size := by
  cases node with
  | branch label children => simp [size]

mutual

/-- The node and all nodes below it, in document order. -/
def subtree : Node → List Node
  | branch label children => branch label children :: subtreeAll children

/-- The nodes of a list and all nodes below them, in document order. -/
def subtreeAll : List Node → List Node
  | [] => []
  | node :: rest => node.subtree ++ subtreeAll rest

end

theorem subtreeAll_append (left right : List Node) :
    subtreeAll (left ++ right) = subtreeAll left ++ subtreeAll right := by
  induction left with
  | nil => rfl
  | cons node rest inductionHypothesis =>
      simp only [List.cons_append, subtreeAll, inductionHypothesis, List.append_assoc]

end Node
end Syntax
end HouseStyle
