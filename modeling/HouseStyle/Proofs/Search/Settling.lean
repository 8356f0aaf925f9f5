import HouseStyle.Proofs.Trees.Fetch
import HouseStyle.Search

/-!
# What settles a search

A search asks the world for one tree after the other, and it keeps working
memory and trees on the way.  None of this shows in its result: as long as every
question is answered, the answers alone settle it.
-/

namespace HouseStyle

open Syntax

variable {δ σ ω : Type}

namespace Pool

/-- The working memory in a pool does not show in what is read from a tree. -/
theorem outcome_read
    [Scratch σ]
    (pool : Pool σ)
    (classifier : Classifier δ σ)
    (tree : Tree) :
    (pool.read classifier tree).1 = classifier.outcome tree := by
  unfold read borrow
  cases pool.idle <;>
    simp only [Walker.visit, Walker.outcome, Scratch.reset_eq_fresh] <;>
    rfl

end Pool

namespace Search

/-- What is read from a candidate.  There is nothing to read if the candidate is left out, has
no tree or is marked as generated; otherwise it is what its tree says on its own. -/
def reading
    [Scratch σ]
    (classifier : Classifier δ σ)
    (rules : Rules)
    (answers : Artifact → Except Failure (Option Tree))
    (candidate : Artifact) : Except Failure (Option (Outcome δ)) :=
  if rules.excludes candidate then
    .ok none
  else
    (answers candidate).map fun tree? => tree?.bind fun tree =>
      if Generated.isGenerated tree.source then none else some (classifier.outcome tree)

/-- A search ends with such a reading. -/
def ends : Except Failure (Option (Outcome δ)) → Bool
  | .error _ => true
  | .ok none => false
  | .ok (some outcome) => outcome.isKnown

/-- The result that the readings of the candidates settle; `scanned` are the paths read before,
latest first. -/
def settle
    (readings : Artifact → Except Failure (Option (Outcome δ)))
    (scanned : List String) : List Artifact → Except Failure (Inference δ)
  | [] => .ok ⟨.unknown, .notFound, scanned.reverse⟩
  | candidate :: rest =>
      match readings candidate with
      | .error failure => .error failure
      | .ok none => settle readings scanned rest
      | .ok (some outcome) =>
          if outcome.isKnown then
            .ok ⟨outcome, .artifact candidate.path, (candidate.path :: scanned).reverse⟩
          else
            settle readings (candidate.path :: scanned) rest

/--
Every question that a search over some candidates asks is answered: the request
is not withdrawn, and each tree asked for is settled as given.
-/
def IsAnswered
    [Scratch σ]
    (world : World ω)
    (classifier : Classifier δ σ)
    (rules : Rules)
    (answers : Artifact → Except Failure (Option Tree)) : List Artifact → Cells → ω → Prop
  | [], _, _ => True
  | candidate :: rest, cells, state =>
      let polled := world.poll state
      polled.1 = false ∧
        if rules.excludes candidate then
          IsAnswered world classifier rules answers rest cells polled.2
        else
          let fetched := world.fetch candidate cells polled.2
          fetched.1 = .settled (answers candidate) ∧
            (ends (reading classifier rules answers candidate) = false →
              IsAnswered world classifier rules answers rest fetched.2.1 fetched.2.2)

section Readings

variable
  [Scratch σ]
  (classifier : Classifier δ σ)
  {rules : Rules}
  {answers : Artifact → Except Failure (Option Tree)}
  {candidate : Artifact}

theorem reading_of_excluded (excluded : rules.excludes candidate = true) :
    reading classifier rules answers candidate = .ok none :=
  if_pos excluded

theorem reading_of_failure
    {failure : Failure}
    (included : rules.excludes candidate = false)
    (answered : answers candidate = .error failure) :
    reading classifier rules answers candidate = .error failure := by
  rw [reading, included, answered]
  rfl

theorem reading_of_absent
    (included : rules.excludes candidate = false)
    (answered : answers candidate = .ok none) :
    reading classifier rules answers candidate = .ok none := by
  rw [reading, included, answered]
  rfl

theorem reading_of_generated
    {tree : Tree}
    (included : rules.excludes candidate = false)
    (answered : answers candidate = .ok (some tree))
    (generated : Generated.isGenerated tree.source = true) :
    reading classifier rules answers candidate = .ok none := by
  simp [reading, included, answered, generated, Except.map]

theorem reading_of_authored
    {tree : Tree}
    (included : rules.excludes candidate = false)
    (answered : answers candidate = .ok (some tree))
    (authored : Generated.isGenerated tree.source = false) :
    reading classifier rules answers candidate = .ok (some (classifier.outcome tree)) := by
  simp [reading, included, answered, authored, Except.map]

end Readings

/-- What a search does with a candidate whose tree is settled: what is read from the candidate
decides whether it ends there, and it goes on with what the world and the kept trees have become. -/
theorem exists_scan_cons_eq
    [Scratch σ]
    {world : World ω}
    {classifier : Classifier δ σ}
    {rules : Rules}
    {answers : Artifact → Except Failure (Option Tree)}
    {candidate : Artifact}
    (rest : List Artifact)
    (scanned : List String)
    (state : SearchState σ ω)
    (waiting : (world.poll state.world).1 = false)
    (included : rules.excludes candidate = false)
    (fetched : (world.fetch candidate state.cells (world.poll state.world).2).1 =
      .settled (answers candidate)) :
    let next := (world.fetch candidate state.cells (world.poll state.world).2).2
    ∃ pool, scan world classifier rules scanned state (candidate :: rest) =
      match reading classifier rules answers candidate with
      | .error failure => (.error failure, ⟨pool, next.1, next.2⟩)
      | .ok none => scan world classifier rules scanned ⟨pool, next.1, next.2⟩ rest
      | .ok (some outcome) =>
          if outcome.isKnown then
            (.ok ⟨outcome, .artifact candidate.path, (candidate.path :: scanned).reverse⟩,
              ⟨pool, next.1, next.2⟩)
          else
            scan world classifier rules (candidate.path :: scanned) ⟨pool, next.1, next.2⟩ rest := by
  intro next
  cases answer : answers candidate with
  | error failure =>
      rw [answer] at fetched
      rw [reading_of_failure classifier included answer]
      simp only [scan, waiting, included, fetched, World.isFatal_of_fetch fetched]
      exact ⟨_, rfl⟩
  | ok tree? =>
      rw [answer] at fetched
      cases tree? with
      | none =>
          rw [reading_of_absent classifier included answer]
          simp only [scan, waiting, included, fetched]
          exact ⟨_, rfl⟩
      | some tree =>
          cases generated : Generated.isGenerated tree.source with
          | true =>
              rw [reading_of_generated classifier included answer generated]
              simp only [scan, waiting, included, fetched, generated]
              exact ⟨_, rfl⟩
          | false =>
              rw [reading_of_authored classifier included answer generated]
              simp only [scan, waiting, included, fetched, generated, Pool.outcome_read]
              exact ⟨_, rfl⟩

/-- The answers settle a search, whatever working memory and trees it starts from. -/
theorem scan_eq_settle
    [Scratch σ]
    {world : World ω}
    {classifier : Classifier δ σ}
    {rules : Rules}
    {answers : Artifact → Except Failure (Option Tree)}
    {candidates : List Artifact}
    (scanned : List String)
    (state : SearchState σ ω)
    (answered : IsAnswered world classifier rules answers candidates state.cells state.world) :
    (scan world classifier rules scanned state candidates).1 =
      settle (reading classifier rules answers) scanned candidates := by
  induction candidates generalizing scanned state with
  | nil => rfl
  | cons candidate rest inductionHypothesis =>
      obtain ⟨waiting, answered⟩ := answered
      cases included : rules.excludes candidate with
      | true =>
          rw [if_pos included] at answered
          simp only [scan, settle, waiting, included, reading_of_excluded classifier included]
          exact inductionHypothesis scanned _ answered
      | false =>
          rw [included] at answered
          obtain ⟨fetched, answered⟩ := answered
          obtain ⟨pool, scans⟩ := exists_scan_cons_eq rest scanned state waiting included fetched
          rw [scans, settle]
          cases read : reading classifier rules answers candidate with
          | error failure => rfl
          | ok outcome? =>
              rw [read] at answered
              cases outcome? with
              | none => exact inductionHypothesis scanned ⟨_, _, _⟩ (answered rfl)
              | some outcome =>
                  dsimp only
                  cases known : outcome.isKnown with
                  | true => rfl
                  | false =>
                      exact inductionHypothesis (candidate.path :: scanned) ⟨_, _, _⟩
                        (answered known)

end Search
end HouseStyle
