import HouseStyle.Artifact
import HouseStyle.Failure
import HouseStyle.Syntax.Tree

/-!
# Trees of artifacts

The tree of an artifact comes from a world outside: a parser, a disk, and a
caller who may withdraw the request meanwhile.  The first answer for an
artifact that is not a fatal failure is kept for good.
-/

namespace HouseStyle

open Syntax

/-- The answer of the world to the question for a tree. -/
inductive Reply where
  /-- The world answered: with a tree, with none, or with a failure. -/
  | settled (result : Except Failure (Option Tree))
  /-- The request was withdrawn while the answer was still out. -/
  | withdrawn

/-- The world that a search runs in, with a state that it may change at every question. -/
structure World (ω : Type) where
  /-- Has the request been withdrawn by now? -/
  poll : ω → Bool × ω
  /-- What is the tree of an artifact? -/
  load : Artifact → ω → Reply × ω

/-- The trees kept so far, by the identity of their artifact; `none` is kept too. -/
abbrev Cells := List (Nat × Option Tree)

/-- A parser of source texts, told the path as well. -/
abbrev Parser := String → String → Except Failure Tree

namespace World

variable {ω : Type}

/--
The tree of an artifact, kept or from the world.  A fatal failure is passed on
and not kept; any other failure is kept as the absence of a tree.
-/
def fetch
    (world : World ω)
    (artifact : Artifact)
    (cells : Cells)
    (state : ω) : Reply × Cells × ω :=
  match cells.lookup artifact.identity with
  | some kept => (.settled (.ok kept), cells, state)
  | none =>
      let asked := world.load artifact state
      match asked.1 with
      | .withdrawn => (.withdrawn, cells, asked.2)
      | .settled (.ok tree) => (.settled (.ok tree), (artifact.identity, tree) :: cells, asked.2)
      | .settled (.error failure) =>
          if failure.isFatal then
            (.settled (.error failure), cells, asked.2)
          else
            (.settled (.ok none), (artifact.identity, none) :: cells, asked.2)

end World
end HouseStyle
