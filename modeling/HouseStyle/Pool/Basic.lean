import HouseStyle.Classifier

/-!
# Pools of working memory

A pool keeps used working memory for the next walk, up to its capacity.  A
walker holds memory taken from a pool and the evidence of the trees that it
has visited.
-/

namespace HouseStyle

open Syntax

/-- Idle working memory, kept up to a capacity. -/
structure Pool (σ : Type) where
  /-- The most memories that are kept. -/
  capacity : Nat
  /-- The memories kept, the latest first. -/
  idle : List σ
deriving Repr

/-- A walk in progress: working memory and the evidence so far. -/
structure Walker (δ σ : Type) where
  /-- The working memory. -/
  scratch : σ
  /-- The evidence so far. -/
  tally : Tally δ

namespace Pool

variable {δ σ : Type}

/-- The capacity of a pool when none is asked for. -/
def usualCapacity : Nat :=
  20

/-- A pool that keeps nothing yet. -/
def make (capacity : Nat) : Pool σ where
  capacity := capacity
  idle := []

/-- Takes memory from the pool, or fresh memory when the pool keeps none. -/
def borrow [Scratch σ] (pool : Pool σ) : Walker δ σ × Pool σ :=
  match pool.idle with
  | [] => (⟨Scratch.fresh, Tally.empty⟩, pool)
  | scratch :: rest => (⟨scratch, Tally.empty⟩, { pool with idle := rest })

/-- Gives the memory of a walker back, reset; a full pool drops it. -/
def release
    [Scratch σ]
    (pool : Pool σ)
    (walker : Walker δ σ) : Pool σ :=
  if pool.idle.length < pool.capacity then
    { pool with idle := Scratch.reset walker.scratch :: pool.idle }
  else
    pool

end Pool

namespace Walker

variable {δ σ : Type}

/-- Walks over a tree with reset memory, adding to the evidence so far. -/
def visit
    [Scratch σ]
    (classifier : Classifier δ σ)
    (tree : Tree)
    (walker : Walker δ σ) : Walker δ σ :=
  let progress := classifier.walk tree ⟨walker.tally, Scratch.reset walker.scratch⟩
  ⟨progress.scratch, progress.tally⟩

/-- What the evidence so far says. -/
def outcome (walker : Walker δ σ) : Outcome δ :=
  walker.tally.outcome

end Walker

namespace Pool

variable {δ σ : Type}

/-- Reads a single tree with memory of the pool, which is given back. -/
def read
    [Scratch σ]
    (classifier : Classifier δ σ)
    (tree : Tree)
    (pool : Pool σ) : Outcome δ × Pool σ :=
  let borrowed : Walker δ σ × Pool σ := pool.borrow
  let walker := borrowed.1.visit classifier tree
  (walker.outcome, borrowed.2.release walker)

end Pool
end HouseStyle
