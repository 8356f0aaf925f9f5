import HouseStyle.Pool.Basic

/-!
# Sessions on a pool

Any number of walkers can be out at a time, each in a slot of its own.  A
session runs a sequence of actions on them and the pool.
-/

namespace HouseStyle

open Syntax

/-- A pool with the walkers that are out, by slot. -/
structure PoolSession (δ σ : Type) where
  /-- The pool. -/
  pool : Pool σ
  /-- The walkers that are out; each slot holds at most one. -/
  slots : List (String × Walker δ σ)

namespace PoolSession

variable {δ σ : Type}

/-- An action of a session. -/
inductive Action where
  /-- Put a new walker into a slot; one that is already there is given back afterwards. -/
  | borrow (slot : String)
  /-- Have the walker in a slot visit a tree. -/
  | visit (slot : String) (tree : Tree)
  /-- Give back the walker in a slot. -/
  | release (slot : String)

/-- A session in which no walker is out. -/
def start (capacity : Nat) : PoolSession δ σ where
  pool := Pool.make capacity
  slots := []

/-- The walker in a slot. -/
def walker? (session : PoolSession δ σ) (slot : String) : Option (Walker δ σ) :=
  session.slots.lookup slot

/-- Takes the walker out of a slot and gives it back to the pool. -/
def giveBack
    [Scratch σ]
    (session : PoolSession δ σ)
    (slot : String) : PoolSession δ σ :=
  match session.walker? slot with
  | none => session
  | some walker =>
      ⟨session.pool.release walker, session.slots.filter fun entry => entry.1 != slot⟩

/-- Puts a walker into an empty slot. -/
def place
    (session : PoolSession δ σ)
    (slot : String)
    (walker : Walker δ σ) : PoolSession δ σ :=
  { session with slots := (slot, walker) :: session.slots }

/-- Runs one action. -/
def step
    [Scratch σ]
    (classifier : Classifier δ σ)
    (session : PoolSession δ σ) : Action → PoolSession δ σ
  | .borrow slot =>
      let borrowed : Walker δ σ × Pool σ := session.pool.borrow
      (giveBack { session with pool := borrowed.2 } slot).place slot borrowed.1
  | .visit slot tree =>
      { session with
        slots := session.slots.map fun entry =>
          if entry.1 = slot then (entry.1, entry.2.visit classifier tree) else entry }
  | .release slot => session.giveBack slot

/-- Gives back all walkers. -/
def finish
    [Scratch σ]
    (session : PoolSession δ σ) : PoolSession δ σ :=
  session.slots.foldl (fun session entry => session.giveBack entry.1) session

/-- A short description of the pool of a convention's rule. -/
def describe (rule : String) (capacity : Nat) : String :=
  "WalkerPool \x7b classifier: " ++ rule ++ ", capacity: " ++ toString capacity ++ " \x7d"

end PoolSession
end HouseStyle
