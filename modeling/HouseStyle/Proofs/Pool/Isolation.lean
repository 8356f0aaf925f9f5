import HouseStyle.Pool.Session
import HouseStyle.Proofs.Association
import HouseStyle.Proofs.Evidence
import HouseStyle.Proofs.Search.Settling
import HouseStyle.Proofs.Syntax.Preorder

/-!
# Walkers of a pool stay apart

A pool hands out working memory to any number of walkers at a time and takes it
back in any order.  However their actions interleave, the pool never keeps more
than its capacity, every walker starts with reset memory and without evidence,
and the evidence of a walker is that of the trees it has visited itself since it
was borrowed, each read as if it were alone.
-/

namespace HouseStyle

open Syntax

variable {δ σ : Type} [Scratch σ]

namespace Classifier

/-- What a walk over a tree with fresh working memory records, in order. -/
def observations (classifier : Classifier δ σ) (tree : Tree) : List (Observation δ) :=
  (classifier.transcript tree).flatMap Offer.observations

/-- A walk adds to the evidence so far what it records, whatever that evidence is. -/
theorem tally_walk_eq_recordAll
    (classifier : Classifier δ σ)
    (tree : Tree)
    (tally : Tally δ) :
    (classifier.walk tree ⟨tally, Scratch.fresh⟩).tally =
      tally.recordAll (classifier.observations tree) := by
  -- The walk and the one that keeps a transcript go side by side with the same memory.
  let related (progress : Progress δ σ) (noted : List (Offer δ) × σ) : Prop :=
    progress.scratch = noted.2 ∧
      progress.tally = tally.recordAll (noted.1.reverse.flatMap Offer.observations)
  have step : ∀ site progress noted, related progress noted →
      related (Site.onNamed (classifier.offer tree.source) site progress).1
          (Site.onNamed (classifier.note tree.source) site noted).1 ∧
        (Site.onNamed (classifier.offer tree.source) site progress).2 =
          (Site.onNamed (classifier.note tree.source) site noted).2 := by
    rintro site progress noted ⟨sameMemory, sameEvidence⟩
    unfold Site.onNamed
    split
    · refine ⟨⟨?_, ?_⟩, ?_⟩
      · simp only [offer, note, sameMemory]
      · simp only [offer, note, sameMemory, sameEvidence, List.reverse_cons, List.flatMap_append,
          List.flatMap_singleton, Tally.recordAll_append]
      · simp only [offer, note, sameMemory]
    · exact ⟨⟨sameMemory, sameEvidence⟩, rfl⟩
  obtain ⟨-, recorded⟩ := Site.walkFrom_related step tree.site ⟨tally, Scratch.fresh⟩
    ([], Scratch.fresh) ⟨rfl, rfl⟩
  exact recorded

end Classifier

namespace Pool

variable (pool : Pool σ)

theorem length_idle_borrow :
    (pool.borrow : Walker δ σ × Pool σ).2.idle.length = pool.idle.length - 1 := by
  unfold borrow
  cases idle : pool.idle with
  | nil => simp [idle]
  | cons memory rest => simp

theorem capacity_borrow :
    (pool.borrow : Walker δ σ × Pool σ).2.capacity = pool.capacity := by
  unfold borrow
  cases pool.idle <;> rfl

theorem length_idle_release
    (walker : Walker δ σ)
    (bounded : pool.idle.length ≤ pool.capacity) :
    (pool.release walker).idle.length = min (pool.idle.length + 1) pool.capacity := by
  unfold release
  split
  · rw [List.length_cons]
    omega
  · omega

theorem capacity_release (walker : Walker δ σ) :
    (pool.release walker).capacity = pool.capacity := by
  unfold release
  split <;> rfl

/-- All memory that the pool keeps is reset. -/
def IsClean : Prop :=
  ∀ memory ∈ pool.idle, memory = Scratch.fresh

variable {pool}

theorem IsClean.borrow (clean : pool.IsClean) :
    (pool.borrow : Walker δ σ × Pool σ).1 = ⟨Scratch.fresh, Tally.empty⟩ ∧
      (pool.borrow : Walker δ σ × Pool σ).2.IsClean := by
  unfold Pool.borrow
  cases idle : pool.idle with
  | nil => exact ⟨rfl, clean⟩
  | cons memory rest =>
      have kept : ∀ other ∈ memory :: rest, other = Scratch.fresh := by
        rw [← idle]
        exact clean
      refine ⟨?_, fun other present => kept other (List.mem_cons_of_mem _ present)⟩
      rw [kept memory List.mem_cons_self]

theorem IsClean.release
    (clean : pool.IsClean)
    (walker : Walker δ σ) :
    (pool.release walker).IsClean := by
  unfold Pool.release
  split
  · intro memory present
    rcases List.mem_cons.mp present with rfl | kept
    · exact Scratch.reset_eq_fresh walker.scratch
    · exact clean memory kept
  · exact clean

end Pool

theorem Walker.tally_visit
    (classifier : Classifier δ σ)
    (tree : Tree)
    (walker : Walker δ σ) :
    (walker.visit classifier tree).tally =
      walker.tally.recordAll (classifier.observations tree) := by
  rw [Walker.visit, Scratch.reset_eq_fresh]
  exact classifier.tally_walk_eq_recordAll tree walker.tally

/-- Merging the verdicts of trees read alone gives the join of all that is recorded on them. -/
theorem Classifier.foldl_merge_verdict_read
    (classifier : Classifier δ σ)
    (pool : Pool σ)
    (trees : List Tree)
    (verdict : Verdict) :
    trees.foldl (fun verdict tree => verdict.merge (pool.read classifier tree).1.verdict) verdict =
      verdict.merge (Verdict.join (trees.flatMap classifier.observations)) := by
  induction trees generalizing verdict with
  | nil => exact (Verdict.merge_unknown verdict).symm
  | cons tree rest inductionHypothesis =>
      have alone : (pool.read classifier tree).1.verdict =
          Verdict.join (classifier.observations tree) := by
        rw [Pool.outcome_read, Classifier.outcome, classifier.tally_walk_eq_recordAll]
        exact Tally.verdict_outcome_recordAll_empty _
      rw [List.foldl_cons, inductionHypothesis, alone, List.flatMap_cons, Verdict.join_append,
        Verdict.merge_assoc]

namespace PoolSession

/-- The session after some actions, from a pool that keeps nothing yet. -/
def after
    (classifier : Classifier δ σ)
    (capacity : Nat)
    (actions : List Action) : PoolSession δ σ :=
  actions.foldl (step classifier) (start capacity)

/-- What an action does to the trees visited through a slot since a walker was put there. -/
def followed (slot : String) (visited : Option (List Tree)) : Action → Option (List Tree)
  | .borrow other => if other = slot then some [] else visited
  | .visit other tree => if other = slot then visited.map (· ++ [tree]) else visited
  | .release other => if other = slot then none else visited

/-- The trees visited through a slot since the walker there was borrowed; none without one. -/
def visitedThrough (slot : String) (actions : List Action) : Option (List Tree) :=
  actions.foldl (followed slot) none

/-! ## The walkers that are out -/

section Steps

variable
  (session : PoolSession δ σ)
  (slot other : String)

omit [Scratch σ] in
theorem walker?_place (walker : Walker δ σ) :
    (session.place slot walker).walker? other =
      if slot = other then some walker else session.walker? other := by
  simp only [walker?, place, List.lookup_cons]
  grind

theorem walker?_giveBack :
    (session.giveBack slot).walker? other =
      if slot = other then none else session.walker? other := by
  unfold giveBack
  cases present : session.walker? slot with
  | none =>
      by_cases same : slot = other
      · rw [if_pos same, ← same]
        exact present
      · rw [if_neg same]
  | some walker => exact Association.lookup_filter_ne slot other session.slots

theorem pool_giveBack :
    (session.giveBack slot).pool =
      ((session.walker? slot).map session.pool.release).getD session.pool := by
  unfold giveBack
  cases session.walker? slot <;> rfl

theorem walker?_step_borrow (classifier : Classifier δ σ) :
    (step classifier session (.borrow slot)).walker? other =
      if slot = other then some session.pool.borrow.1 else session.walker? other := by
  rw [step, walker?_place, walker?_giveBack]
  split <;> rfl

theorem walker?_step_visit (classifier : Classifier δ σ) (tree : Tree) :
    (step classifier session (.visit slot tree)).walker? other =
      if slot = other then (session.walker? other).map (Walker.visit classifier tree)
      else session.walker? other :=
  Association.lookup_map_of_eq slot other (Walker.visit classifier tree) session.slots

end Steps

/-! ## The invariant -/

/-- A session is sound for what has been visited through each slot: the pool keeps reset memory
only, up to its capacity, and each walker has the evidence of the trees of its slot. -/
structure IsSound
    (classifier : Classifier δ σ)
    (capacity : Nat)
    (visited : String → Option (List Tree))
    (session : PoolSession δ σ) : Prop where
  /-- The capacity stays as it was asked for. -/
  capacity_eq : session.pool.capacity = capacity
  /-- The pool keeps no more than its capacity. -/
  bounded : session.pool.idle.length ≤ session.pool.capacity
  /-- The memory that the pool keeps is reset. -/
  clean : session.pool.IsClean
  /-- Each walker has the evidence of the trees of its slot. -/
  evidence : ∀ slot, (session.walker? slot).map Walker.tally =
    (visited slot).map fun trees =>
      Tally.empty.recordAll (trees.flatMap classifier.observations)

section Invariant

variable
  {classifier : Classifier δ σ}
  {capacity : Nat}

theorem isSound_start :
    IsSound classifier capacity (fun _ => none) (start capacity) where
  capacity_eq := rfl
  bounded := Nat.zero_le capacity
  clean := nofun
  evidence _ := rfl

variable
  {visited : String → Option (List Tree)}
  {session : PoolSession δ σ}

namespace IsSound

variable (sound : IsSound classifier capacity visited session)

include sound

theorem isSome_walker? (slot : String) :
    (session.walker? slot).isSome = (visited slot).isSome := by
  have evidence := congrArg Option.isSome (sound.evidence slot)
  rwa [Option.isSome_map, Option.isSome_map] at evidence

/-- Taking memory from the pool leaves the walkers that are out alone. -/
theorem withdraw :
    IsSound classifier capacity visited
      { session with pool := (session.pool.borrow : Walker δ σ × Pool σ).2 } where
  capacity_eq := (session.pool.capacity_borrow).trans sound.capacity_eq
  bounded := by
    have bounded := sound.bounded
    rw [Pool.length_idle_borrow, Pool.capacity_borrow]
    omega
  clean := sound.clean.borrow.2
  evidence := sound.evidence

theorem giveBack (slot : String) :
    IsSound classifier capacity (fun other => followed other (visited other) (.release slot))
      (session.giveBack slot) where
  capacity_eq := by
    rw [pool_giveBack, ← sound.capacity_eq]
    cases session.walker? slot with
    | none => rfl
    | some walker => exact session.pool.capacity_release walker
  bounded := by
    rw [pool_giveBack]
    cases session.walker? slot with
    | none => exact sound.bounded
    | some walker =>
        have length := session.pool.length_idle_release walker sound.bounded
        have capacity := session.pool.capacity_release walker
        simp only [Option.map_some, Option.getD_some]
        omega
  clean := by
    rw [pool_giveBack]
    cases session.walker? slot with
    | none => exact sound.clean
    | some walker => exact sound.clean.release walker
  evidence other := by
    rw [walker?_giveBack, followed]
    split
    · rfl
    · exact sound.evidence other

/-- The number of idle memories after a walker is given back. -/
theorem length_idle_giveBack (slot : String) :
    (session.giveBack slot).pool.idle.length =
      if (visited slot).isSome then min (session.pool.idle.length + 1) capacity
      else session.pool.idle.length := by
  rw [pool_giveBack, ← sound.isSome_walker?, ← sound.capacity_eq]
  cases session.walker? slot with
  | none => rfl
  | some walker => exact session.pool.length_idle_release walker sound.bounded

/-- One action keeps a session sound for what has then been visited. -/
theorem step (action : Action) :
    IsSound classifier capacity (fun slot => followed slot (visited slot) action)
      (step classifier session action) := by
  cases action with
  | borrow slot =>
      have returned := sound.withdraw.giveBack slot
      refine ⟨returned.capacity_eq, returned.bounded, returned.clean, ?_⟩
      intro other
      rw [walker?_step_borrow, followed]
      split
      · rw [Option.map_some, sound.clean.borrow.1]
        rfl
      · exact sound.evidence other
  | visit slot tree =>
      refine ⟨sound.capacity_eq, sound.bounded, sound.clean, ?_⟩
      intro other
      rw [walker?_step_visit, followed]
      split
      · have recorded : Walker.tally ∘ Walker.visit classifier tree =
            (fun tally => tally.recordAll (classifier.observations tree)) ∘ Walker.tally :=
          funext (Walker.tally_visit classifier tree)
        rw [Option.map_map, recorded, ← Option.map_map, sound.evidence other, Option.map_map,
          Option.map_map]
        congr 1
        funext trees
        simp only [Function.comp_apply, List.flatMap_append, List.flatMap_singleton,
          Tally.recordAll_append]
      · exact sound.evidence other
  | release slot => exact sound.giveBack slot

end IsSound

/-- Every history of actions leaves a session sound for what has been visited. -/
theorem isSound_after
    (classifier : Classifier δ σ)
    (capacity : Nat)
    (actions : List Action) :
    IsSound classifier capacity (fun slot => visitedThrough slot actions)
      (after classifier capacity actions) := by
  -- The trees of all slots are followed at once, as the walkers take turns.
  have run : ∀ (actions : List Action) visited (session : PoolSession δ σ),
      IsSound classifier capacity visited session →
      IsSound classifier capacity (fun slot => actions.foldl (followed slot) (visited slot))
        (actions.foldl (PoolSession.step classifier) session) := by
    intro actions
    induction actions with
    | nil => exact fun _ _ sound => sound
    | cons action rest inductionHypothesis =>
        intro visited session sound
        exact inductionHypothesis _ _ (sound.step action)
  exact run actions _ _ isSound_start

end Invariant

/-! ## Isolation -/

/--
However borrows, visits and releases on any number of slots follow each other,
the walkers stay apart.  The pool keeps no more than its capacity: one less after
a borrow and one more after a release, which is also what happens to a walker that
a borrow replaces.  Every borrowed walker has fresh memory and no evidence.  The
outcome of each walker that is out is that of the trees visited through its slot
since then, and its verdict merges the verdicts that a new pool gives each of them.
-/
theorem after_isolates_walkers
    (classifier : Classifier δ σ)
    (capacity : Nat)
    (actions : List Action) :
    let session := after classifier capacity actions
    session.pool.idle.length ≤ capacity ∧
      (∀ slot, (step classifier session (.borrow slot)).pool.idle.length =
        if (visitedThrough slot actions).isSome then
          min (session.pool.idle.length - 1 + 1) capacity
        else
          session.pool.idle.length - 1) ∧
      (∀ slot, (step classifier session (.release slot)).pool.idle.length =
        if (visitedThrough slot actions).isSome then
          min (session.pool.idle.length + 1) capacity
        else
          session.pool.idle.length) ∧
      (∀ slot tree, (step classifier session (.visit slot tree)).pool = session.pool) ∧
      (∀ slot, (step classifier session (.borrow slot)).walker? slot =
        some ⟨Scratch.fresh, Tally.empty⟩) ∧
      ∀ slot,
        (session.walker? slot).map Walker.outcome =
          (visitedThrough slot actions).map (fun trees =>
            (Tally.empty.recordAll (trees.flatMap classifier.observations)).outcome) ∧
        (session.walker? slot).map (fun walker => walker.outcome.verdict) =
          (visitedThrough slot actions).map fun trees =>
            (trees.map fun tree => ((Pool.make capacity).read classifier tree).1.verdict).foldl
              Verdict.merge .unknown := by
  intro session
  have sound := isSound_after classifier capacity actions
  have outcomes (slot : String) : (session.walker? slot).map Walker.outcome =
      (visitedThrough slot actions).map fun trees =>
        (Tally.empty.recordAll (trees.flatMap classifier.observations)).outcome := by
    have evidence := congrArg (Option.map Tally.outcome) (sound.evidence slot)
    rwa [Option.map_map, Option.map_map] at evidence
  refine ⟨sound.capacity_eq ▸ sound.bounded, ?_, sound.length_idle_giveBack, fun _ _ => rfl,
    ?_, fun slot => ⟨outcomes slot, ?_⟩⟩
  · intro slot
    have returned := sound.withdraw.length_idle_giveBack slot
    rwa [Pool.length_idle_borrow] at returned
  · intro slot
    rw [walker?_step_borrow, if_pos rfl, sound.clean.borrow.1]
  · have verdicts := congrArg (Option.map Outcome.verdict) (outcomes slot)
    rw [Option.map_map, Option.map_map] at verdicts
    refine verdicts.trans (congrArg (Option.map · _) (funext fun trees => ?_))
    rw [List.foldl_map, classifier.foldl_merge_verdict_read, Verdict.unknown_merge]
    exact Tally.verdict_outcome_recordAll_empty _

end PoolSession
end HouseStyle
