import HouseStyle.Candidate
import HouseStyle.Generated
import HouseStyle.Pool.Basic
import HouseStyle.Trees.Basic

/-!
# The search for evidence

A search reads the candidates one after the other and stops at the first whose
tree says anything about the convention.
-/

namespace HouseStyle

open Syntax

/-- How an outcome was reached. -/
inductive Origin where
  /-- A value under a configuration key states it. -/
  | configured (key source : String)
  /-- The artifact at a path holds the evidence. -/
  | artifact (path : String)
  /-- No artifact holds any evidence. -/
  | notFound
deriving DecidableEq, Repr

/-- An outcome, how it was reached and the paths that were read on the way. -/
structure Inference (δ : Type) where
  /-- What is known about the convention. -/
  outcome : Outcome δ
  /-- How it was reached. -/
  origin : Origin
  /-- The paths of the artifacts that were read, in order. -/
  scanned : List String
deriving DecidableEq, Repr

/-- What a search may change. -/
structure SearchState (σ ω : Type) where
  /-- The pool of working memory. -/
  pool : Pool σ
  /-- The trees kept so far. -/
  cells : Cells
  /-- The state of the world. -/
  world : ω

namespace Search

variable {δ σ ω : Type}

/-- Reads the candidates in order; `scanned` are the paths read before, latest first. -/
def scan
    [Scratch σ]
    (world : World ω)
    (classifier : Classifier δ σ)
    (rules : Rules)
    (scanned : List String)
    (state : SearchState σ ω) :
    List Artifact → Except Failure (Inference δ) × SearchState σ ω
  | [] => (.ok ⟨.unknown, .notFound, scanned.reverse⟩, state)
  | candidate :: rest =>
      let polled := world.poll state.world
      let state := { state with world := polled.2 }
      if polled.1 then
        (.error .cancelled, state)
      else if rules.excludes candidate then
        scan world classifier rules scanned state rest
      else
        let fetched := world.fetch candidate state.cells state.world
        let state := { state with cells := fetched.2.1, world := fetched.2.2 }
        match fetched.1 with
        | .withdrawn => (.error .cancelled, state)
        | .settled (.error failure) =>
            if failure.isFatal then
              (.error failure, state)
            else
              scan world classifier rules scanned state rest
        | .settled (.ok none) => scan world classifier rules scanned state rest
        | .settled (.ok (some tree)) =>
            if Generated.isGenerated tree.source then
              scan world classifier rules scanned state rest
            else
              let scanned := candidate.path :: scanned
              let read := state.pool.read classifier tree
              let state := { state with pool := read.2 }
              if read.1.isKnown then
                (.ok ⟨read.1, .artifact candidate.path, scanned.reverse⟩, state)
              else
                scan world classifier rules scanned state rest

/-- Searches a group for evidence, nearest to the current artifact first. -/
def run
    [Scratch σ]
    (world : World ω)
    (classifier : Classifier δ σ)
    (rules : Rules)
    (group : Group)
    (current : Artifact)
    (state : SearchState σ ω) : Except Failure (Inference δ) × SearchState σ ω :=
  scan world classifier rules [] state (Candidate.order rules group current)

end Search
end HouseStyle
