import HouseStyle.Proofs.Candidate.Rank
import HouseStyle.Proofs.Search.Nearest

/-!
# Cancelled searches

A request can be withdrawn between two candidates or while a tree is out.  A
search that notices it before it has an answer says that it was cancelled, and
any other search gives what it gives undisturbed.  So a withdrawn request never
turns into a wrong answer.  Neither does a failure: a fatal one is the result
exactly if the search comes to the artifact that it belongs to, and any other
counts as the absence of a tree.
-/

namespace HouseStyle

open Syntax

variable {δ σ ω : Type}

/-- Tells a failure that is not fatal as the absence of a tree. -/
def Reply.forgive : Reply → Reply
  | settled result => settled (lenient result)
  | withdrawn => withdrawn

namespace World

/-- Whenever the world answers, the result for an artifact is the one assigned to it. -/
def Gives
    (world : World ω)
    (results : Artifact → Except Failure (Option Tree)) : Prop :=
  ∀ artifact state result next, world.load artifact state = (.settled result, next) →
    result = results artifact

/-- The world that tells a failure which is not fatal as the absence of a tree, and is otherwise
the same. -/
def forgiving (world : World ω) : World ω where
  poll := world.poll
  load := fun artifact state =>
    let asked := world.load artifact state
    (asked.1.forgive, asked.2)

/-- A failure that is not fatal is fetched as the absence of a tree. -/
theorem fetch_forgiving (world : World ω) : world.forgiving.fetch = world.fetch := by
  funext artifact cells state
  unfold fetch forgiving
  cases cells.lookup artifact.identity with
  | some kept => rfl
  | none =>
      dsimp only
      rcases world.load artifact state with ⟨reply, next⟩
      cases reply with
      | withdrawn => rfl
      | settled result =>
          cases result with
          | ok tree? => rfl
          | error failure =>
              by_cases fatal : failure.isFatal = true
              · simp only [Reply.forgive, lenient, if_pos fatal]
              · simp only [Reply.forgive, lenient, if_neg fatal]

theorem gives_ofTrees (results : Artifact → Except Failure (Option Tree)) :
    (ofTrees results).Gives results := by
  intro artifact state result next loaded
  cases loaded
  rfl

end World

namespace Search

/-- The result of retrieving the tree of an artifact: what is kept, or else what is assigned. -/
def retrieval
    (cells : Cells)
    (results : Artifact → Except Failure (Option Tree))
    (artifact : Artifact) : Except Failure (Option Tree) :=
  match cells.lookup artifact.identity with
  | some kept => .ok kept
  | none => results artifact

/-- What a search takes the results to be: a failure that is not fatal is the absence of a tree. -/
def taken
    (results : Artifact → Except Failure (Option Tree))
    (artifact : Artifact) : Except Failure (Option Tree) :=
  lenient (results artifact)

theorem taken_congr
    {results others : Artifact → Except Failure (Option Tree)}
    {artifact : Artifact}
    (same : results artifact = others artifact) :
    taken results artifact = taken others artifact :=
  congrArg lenient same

section Candidates

variable
  [Scratch σ]
  (world : World ω)
  (classifier : Classifier δ σ)
  (rules : Rules)
  (results : Artifact → Except Failure (Option Tree))

/-- A candidate that is not left out has a tree that is not marked as generated and says
something. -/
def Decides (candidate : Artifact) : Prop :=
  rules.excludes candidate = false ∧
    ∃ tree, results candidate = .ok (some tree) ∧ Generated.isGenerated tree.source = false ∧
      classifier.outcome tree ≠ .unknown

/-- A candidate that is not left out cannot be retrieved, by a fatal failure. -/
def FailsWith (candidate : Artifact) (failure : Failure) : Prop :=
  rules.excludes candidate = false ∧ results candidate = .error failure ∧ failure.isFatal = true

/-- A search comes to a candidate: before it there is neither evidence nor a fatal failure. -/
def ComesTo
    (candidates before : List Artifact)
    (candidate : Artifact) : Prop :=
  (∃ after, candidates = before ++ candidate :: after) ∧
    ∀ earlier ∈ before,
      ¬Decides classifier rules results earlier ∧
        ∀ failure, ¬FailsWith rules results earlier failure

/-- A search comes to a candidate with a fatal failure. -/
def EndsWith (candidates : List Artifact) (failure : Failure) : Prop :=
  ∃ before candidate, ComesTo classifier rules results candidates before candidate ∧
    FailsWith rules results candidate failure

/-- The kept trees and the world after a search has gone past a candidate. -/
def pass (kept : Cells × ω) (candidate : Artifact) : Cells × ω :=
  let polled := (world.poll kept.2).2
  if rules.excludes candidate then
    (kept.1, polled)
  else
    (world.fetch candidate kept.1 polled).2

/-- The request has been withdrawn when a search looks at a candidate, or is withdrawn while the
tree of the candidate is out. -/
def IsWithdrawnAt (kept : Cells × ω) (candidate : Artifact) : Prop :=
  let polled := world.poll kept.2
  polled.1 = true ∨
    rules.excludes candidate = false ∧ (world.fetch candidate kept.1 polled.2).1 = .withdrawn

/-- The request is withdrawn at a candidate that a search comes to. -/
def IsInterrupted (candidates : List Artifact) (kept : Cells × ω) : Prop :=
  ∃ before candidate, ComesTo classifier rules results candidates before candidate ∧
    IsWithdrawnAt world rules (before.foldl (pass world rules) kept) candidate

end Candidates

variable
  [Scratch σ]
  {world : World ω}
  {classifier : Classifier δ σ}
  {rules : Rules}
  {results answers : Artifact → Except Failure (Option Tree)}

/-! ## The candidates that a search comes to -/

theorem exists_comesTo_cons_iff
    {holds : List Artifact → Artifact → Prop}
    {first : Artifact}
    {rest : List Artifact} :
    (∃ before candidate, ComesTo classifier rules results (first :: rest) before candidate ∧
        holds before candidate) ↔
      holds [] first ∨
        (¬Decides classifier rules results first ∧
            ∀ failure, ¬FailsWith rules results first failure) ∧
          ∃ before candidate, ComesTo classifier rules results rest before candidate ∧
            holds (first :: before) candidate := by
  constructor
  · rintro ⟨before, candidate, ⟨⟨after, split⟩, passed⟩, held⟩
    cases before with
    | nil =>
        cases split
        exact .inl held
    | cons earlier before =>
        cases split
        obtain ⟨firstPassed, laterPassed⟩ := List.forall_mem_cons.mp passed
        exact .inr ⟨firstPassed, before, candidate, ⟨⟨after, rfl⟩, laterPassed⟩, held⟩
  · rintro (held | ⟨firstPassed, before, candidate, ⟨⟨after, rfl⟩, passed⟩, held⟩)
    · exact ⟨[], first, ⟨⟨rest, rfl⟩, fun _ absent => absurd absent List.not_mem_nil⟩, held⟩
    · exact ⟨first :: before, candidate,
        ⟨⟨after, rfl⟩, List.forall_mem_cons.mpr ⟨firstPassed, passed⟩⟩, held⟩

theorem reading_eq_error_iff
    {candidate : Artifact}
    {failure : Failure} :
    reading classifier rules results candidate = .error failure ↔
      rules.excludes candidate = false ∧ results candidate = .error failure := by
  cases included : rules.excludes candidate with
  | true => simp [reading_of_excluded classifier included]
  | false =>
      cases answer : results candidate with
      | ok tree? => simp [reading, included, answer, Except.map]
      | error cause => simp [reading_of_failure classifier included answer]

theorem reading_eq_some_iff
    {candidate : Artifact}
    {outcome : Outcome δ} :
    reading classifier rules results candidate = .ok (some outcome) ↔
      rules.excludes candidate = false ∧
        ∃ tree, results candidate = .ok (some tree) ∧
          Generated.isGenerated tree.source = false ∧ classifier.outcome tree = outcome := by
  cases included : rules.excludes candidate with
  | true => simp [reading_of_excluded classifier included]
  | false =>
      cases answer : results candidate with
      | error cause => simp [reading_of_failure classifier included answer]
      | ok tree? =>
          cases tree? with
          | none => simp [reading_of_absent classifier included answer]
          | some tree =>
              cases generated : Generated.isGenerated tree.source with
              | true => simp [reading_of_generated classifier included answer generated, generated]
              | false => simp [reading_of_authored classifier included answer generated, generated]

theorem ends_eq_false_iff {result : Except Failure (Option (Outcome δ))} :
    ends result = false ↔
      (∀ outcome, result = .ok (some outcome) → outcome = .unknown) ∧
        ∀ failure, result ≠ .error failure := by
  cases result with
  | error failure => simp [ends]
  | ok outcome? =>
      cases outcome? with
      | none => simp [ends]
      | some outcome => simp [ends, ← Bool.not_eq_true, Outcome.isKnown_iff]

/-- A search ends with what is read from a candidate unless it goes past the candidate. -/
theorem ends_reading_eq_false_iff {candidate : Artifact} :
    ends (reading classifier rules (taken results) candidate) = false ↔
      ¬Decides classifier rules results candidate ∧
        ∀ failure, ¬FailsWith rules results candidate failure := by
  rw [ends_eq_false_iff]
  refine and_congr ?_ (forall_congr' fun failure => ?_)
  · simp only [reading_eq_some_iff, taken, lenient_eq_some_iff, Decides]
    constructor
    · rintro silent ⟨included, tree, answer, authored, known⟩
      exact known (silent _ ⟨included, tree, answer, authored, rfl⟩)
    · rintro undecided outcome ⟨included, tree, answer, authored, rfl⟩
      by_contra known
      exact undecided ⟨included, tree, answer, authored, known⟩
  · rw [ne_eq, reading_eq_error_iff, taken, lenient_eq_error_iff, FailsWith]

/-- A search that is not disturbed ends with a failure exactly if it comes to it. -/
theorem settle_eq_error_iff
    {failure : Failure}
    (scanned : List String)
    (candidates : List Artifact) :
    settle (reading classifier rules (taken results)) scanned candidates = .error failure ↔
      EndsWith classifier rules results candidates failure := by
  induction candidates generalizing scanned with
  | nil => simp [settle, EndsWith, ComesTo]
  | cons first rest inductionHypothesis =>
      have fails : FailsWith rules results first failure ↔
          reading classifier rules (taken results) first = .error failure := by
        rw [reading_eq_error_iff, taken, lenient_eq_error_iff, FailsWith]
      rw [EndsWith, exists_comesTo_cons_iff, ← ends_reading_eq_false_iff, fails, settle]
      cases read : reading classifier rules (taken results) first with
      | error cause => simp [ends]
      | ok outcome? =>
          cases outcome? with
          | none =>
              simp only [ends, reduceCtorEq, false_or, true_and]
              exact inductionHypothesis scanned
          | some outcome =>
              by_cases known : outcome.isKnown = true
              · simp [ends, known]
              · simp only [ends, known, reduceCtorEq, false_or, true_and]
                exact inductionHypothesis (first.path :: scanned)

/-! ## One candidate -/

theorem fetch_of_gives
    (given : world.Gives results)
    (candidate : Artifact)
    (cells : Cells)
    (state : ω) :
    (world.fetch candidate cells state).1 = .withdrawn ∨
      (world.fetch candidate cells state).1 =
        .settled (taken (retrieval cells results) candidate) := by
  cases known : cells.lookup candidate.identity with
  | some kept =>
      rw [World.fetch, taken, retrieval, known]
      exact .inr rfl
  | none =>
      obtain ⟨tree?, found, -⟩ | ⟨next, -, fetched⟩ | ⟨result, next, loaded, fetched⟩ :=
        world.fetch_cases candidate cells state
      · rw [known] at found
        cases found
      · rw [fetched]
        exact .inl rfl
      · rw [fetched, taken, retrieval, known, given candidate state result next loaded]
        exact .inr rfl

theorem pass_of_excluded
    {candidate : Artifact}
    (excluded : rules.excludes candidate = true)
    (kept : Cells × ω) :
    pass world rules kept candidate = (kept.1, (world.poll kept.2).2) :=
  if_pos excluded

theorem pass_of_included
    {candidate : Artifact}
    (included : rules.excludes candidate = false)
    (kept : Cells × ω) :
    pass world rules kept candidate =
      (world.fetch candidate kept.1 (world.poll kept.2).2).2 := by
  rw [pass, included]
  rfl

/-- Going past a candidate does not change what is retrieved for the others. -/
theorem retrieval_pass
    {first : Artifact}
    {rest : List Artifact}
    (world : World ω)
    (rules : Rules)
    (apart : (first :: rest).Pairwise fun earlier later => later.identity ≠ earlier.identity)
    (kept : Cells × ω)
    (retrieved : ∀ artifact ∈ first :: rest,
      retrieval kept.1 results artifact = answers artifact) :
    ∀ artifact ∈ rest,
      retrieval (pass world rules kept first).1 results artifact = answers artifact := by
  intro artifact later
  have different := (List.pairwise_cons.mp apart).1 artifact later
  rw [← retrieved artifact (List.mem_cons_of_mem first later)]
  cases included : rules.excludes first with
  | true => rw [pass_of_excluded included]
  | false =>
      rw [pass_of_included included]
      obtain ⟨tree?, -, fetched⟩ | ⟨next, -, fetched⟩ | ⟨result, next, -, fetched⟩ :=
        world.fetch_cases first kept.1 (world.poll kept.2).2
      · rw [fetched]
      · rw [fetched]
      · rw [fetched]
        cases lenient result with
        | error failure => rfl
        | ok tree? => rw [retrieval, retrieval, Cells.lookup_keep_ok, if_neg different]

theorem isInterrupted_cons_iff
    {first : Artifact}
    {rest : List Artifact}
    {kept : Cells × ω} :
    IsInterrupted world classifier rules results (first :: rest) kept ↔
      IsWithdrawnAt world rules kept first ∨
        ends (reading classifier rules (taken results) first) = false ∧
          IsInterrupted world classifier rules results rest (pass world rules kept first) := by
  rw [IsInterrupted, exists_comesTo_cons_iff, ← ends_reading_eq_false_iff]
  rfl

/-! ## Whole searches -/

section Inductions

variable
  (given : world.Gives results)
  (candidates : List Artifact)
  (apart : candidates.Pairwise fun earlier later => later.identity ≠ earlier.identity)

include given apart

/-- As long as the request is not withdrawn, every question of a search is answered. -/
theorem isAnswered_of_not_isInterrupted
    (kept : Cells × ω)
    (retrieved : ∀ artifact ∈ candidates, retrieval kept.1 results artifact = answers artifact)
    (undisturbed : ¬IsInterrupted world classifier rules answers candidates kept) :
    IsAnswered world classifier rules (taken answers) candidates kept.1 kept.2 := by
  induction candidates generalizing kept with
  | nil => trivial
  | cons first rest inductionHypothesis =>
      have further := inductionHypothesis (List.pairwise_cons.mp apart).2
        (pass world rules kept first) (retrieval_pass world rules apart kept retrieved)
      rw [isInterrupted_cons_iff, not_or, not_and] at undisturbed
      obtain ⟨waits, goesOn⟩ := undisturbed
      obtain ⟨waiting, answered⟩ := not_or.mp waits
      refine ⟨Bool.eq_false_iff.mpr waiting, ?_⟩
      cases included : rules.excludes first with
      | true =>
          rw [pass_of_excluded included] at further goesOn
          refine further (goesOn ?_)
          rw [reading_of_excluded classifier included]
          rfl
      | false =>
          rw [pass_of_included included] at further goesOn
          have fetched := (fetch_of_gives given first kept.1 _).resolve_left
            fun withdrawn => answered ⟨included, withdrawn⟩
          rw [taken_congr (retrieved first List.mem_cons_self)] at fetched
          exact ⟨fetched, fun passed => further (goesOn passed)⟩

/-- A request that is withdrawn at a candidate which a search comes to ends the search. -/
theorem scan_of_isInterrupted
    (scanned : List String)
    (state : SearchState σ ω)
    (retrieved : ∀ artifact ∈ candidates, retrieval state.cells results artifact = answers artifact)
    (interrupted : IsInterrupted world classifier rules answers candidates
      (state.cells, state.world)) :
    (scan world classifier rules scanned state candidates).1 = .error .cancelled := by
  induction candidates generalizing scanned state with
  | nil =>
      obtain ⟨before, candidate, ⟨⟨after, split⟩, -⟩, -⟩ := interrupted
      cases (List.nil_eq_append_iff.mp split).2
  | cons first rest inductionHypothesis =>
      have further (later : List String) (pool : Pool σ) :=
        inductionHypothesis (List.pairwise_cons.mp apart).2 later
          ⟨pool, (pass world rules (state.cells, state.world) first).1,
            (pass world rules (state.cells, state.world) first).2⟩
          (retrieval_pass world rules apart _ retrieved)
      rw [isInterrupted_cons_iff] at interrupted
      cases waiting : (world.poll state.world).1 with
      | true => simp only [scan, waiting, if_true]
      | false =>
          cases included : rules.excludes first with
          | true =>
              rw [pass_of_excluded included] at further interrupted
              obtain ⟨-, interrupted⟩ := interrupted.resolve_left
                (by simp [IsWithdrawnAt, waiting, included])
              simp only [scan, waiting, included]
              exact further scanned state.pool interrupted
          | false =>
              rw [pass_of_included included] at further interrupted
              rcases fetch_of_gives given first state.cells (world.poll state.world).2 with
                withdrawn | fetched
              · simp only [scan, waiting, included, withdrawn]
                rfl
              · obtain ⟨passed, interrupted⟩ := interrupted.resolve_left
                  (by simp [IsWithdrawnAt, waiting, fetched])
                rw [taken_congr (retrieved first List.mem_cons_self)] at fetched
                obtain ⟨pool, scans⟩ :=
                  exists_scan_cons_eq rest scanned state waiting included fetched
                rw [scans]
                cases read : reading classifier rules (taken answers) first with
                | error failure =>
                    rw [read] at passed
                    cases passed
                | ok outcome? =>
                    rw [read] at passed
                    cases outcome? with
                    | none => exact further scanned pool interrupted
                    | some outcome =>
                        rw [ends] at passed
                        simp only [passed]
                        exact further (first.path :: scanned) pool interrupted

end Inductions

theorem not_isInterrupted_ofTrees
    (candidates : List Artifact)
    (kept : Cells × Unit) :
    ¬IsInterrupted (.ofTrees results) classifier rules answers candidates kept := by
  rintro ⟨before, candidate, -, withdrawn | ⟨-, withdrawn⟩⟩
  · cases withdrawn
  · obtain ⟨tree?, -, fetched⟩ | ⟨next, loaded, -⟩ | ⟨result, next, -, fetched⟩ :=
      World.fetch_cases (.ofTrees results) candidate
        (before.foldl (pass (.ofTrees results) rules) kept).1 ()
    · rw [fetched] at withdrawn
      cases withdrawn
    · cases loaded
    · rw [fetched] at withdrawn
      cases withdrawn

theorem run_of_not_isInterrupted
    {group : Group}
    {current : Artifact}
    (given : world.Gives results)
    (state : SearchState σ ω)
    (undisturbed : ¬IsInterrupted world classifier rules (retrieval state.cells results)
      (Candidate.order rules group current) (state.cells, state.world)) :
    (run world classifier rules group current state).1 =
      settle (reading classifier rules (taken (retrieval state.cells results))) []
        (Candidate.order rules group current) :=
  scan_eq_settle [] state (isAnswered_of_not_isInterrupted given _ Candidate.pairwise_order
    (state.cells, state.world) (fun _ _ => rfl) undisturbed)

theorem scan_forgiving
    (world : World ω)
    (scanned : List String)
    (state : SearchState σ ω)
    (candidates : List Artifact) :
    scan world.forgiving classifier rules scanned state candidates =
      scan world classifier rules scanned state candidates := by
  induction candidates generalizing scanned state with
  | nil => rfl
  | cons first rest inductionHypothesis =>
      rw [scan, scan, World.fetch_forgiving]
      simp only [inductionHypothesis]
      rfl

/--
Every artifact is assigned a result, and the request may be withdrawn at any
moment.  A search gives what it gives undisturbed, or says that it was cancelled.
It says so exactly if the request is withdrawn before or while the search looks at
a candidate that it comes to, or if the fatal failure that it comes to says so; in
particular if the request is withdrawn from the beginning.  Undisturbed, it fails
exactly with the fatal failure that it comes to.  Any other failure is taken for
the absence of a tree.
-/
theorem run_undisturbed_or_cancelled
    (world : World ω)
    (classifier : Classifier δ σ)
    (rules : Rules)
    (group : Group)
    (current : Artifact)
    (results : Artifact → Except Failure (Option Tree))
    (given : world.Gives results)
    (state : SearchState σ ω)
    (pool : Pool σ) :
    let candidates := Candidate.order rules group current
    let retrieved := retrieval state.cells results
    let result := (run world classifier rules group current state).1
    let undisturbed :=
      (run (.ofTrees results) classifier rules group current ⟨pool, state.cells, ()⟩).1
    (result = undisturbed ∨ result = .error .cancelled) ∧
      (result = .error .cancelled ↔
        IsInterrupted world classifier rules retrieved candidates (state.cells, state.world) ∨
          EndsWith classifier rules retrieved candidates .cancelled) ∧
      ((world.poll state.world).1 = true → result = .error .cancelled) ∧
      (∀ failure, undisturbed = .error failure ↔
        EndsWith classifier rules retrieved candidates failure) ∧
      run world.forgiving classifier rules group current state =
        run world classifier rules group current state := by
  intro candidates retrieved result undisturbed
  have settled : undisturbed = settle (reading classifier rules (taken retrieved)) [] candidates :=
    run_of_not_isInterrupted (World.gives_ofTrees results) ⟨pool, state.cells, ()⟩
      (not_isInterrupted_ofTrees _ _)
  have cancelled (interrupted : IsInterrupted world classifier rules retrieved candidates
      (state.cells, state.world)) : result = .error .cancelled :=
    scan_of_isInterrupted given _ Candidate.pairwise_order [] state (fun _ _ => rfl) interrupted
  have same (uninterrupted : ¬IsInterrupted world classifier rules retrieved candidates
      (state.cells, state.world)) : result = undisturbed :=
    (run_of_not_isInterrupted given state uninterrupted).trans settled.symm
  have fails (failure : Failure) : undisturbed = .error failure ↔
      EndsWith classifier rules retrieved candidates failure := by
    rw [settled, settle_eq_error_iff]
  refine ⟨?_, ?_, ?_, fails, scan_forgiving world [] state candidates⟩
  · by_cases interrupted : IsInterrupted world classifier rules retrieved candidates
      (state.cells, state.world)
    · exact .inr (cancelled interrupted)
    · exact .inl (same interrupted)
  · by_cases interrupted : IsInterrupted world classifier rules retrieved candidates
      (state.cells, state.world)
    · exact iff_of_true (cancelled interrupted) (.inl interrupted)
    · rw [same interrupted, fails, or_iff_right interrupted]
  · intro withdrawn
    obtain ⟨rest, ordered⟩ : ∃ rest, candidates = current :: rest := ⟨_, rfl⟩
    exact cancelled ⟨[], current, ⟨⟨rest, ordered⟩, fun _ absent => absurd absent List.not_mem_nil⟩,
      .inl withdrawn⟩

/-- The request is withdrawn while the tree that would decide is out. -/
theorem run_undisturbed_or_cancelled_sample :
    let rule := Convention.qualifyFieldAccess.classifier
    let parser : Parser := fun _ _ => .ok Convention.sampleTree
    let world := World.planned parser fun path =>
      if path = "app/sub/Low.cs" then .withdraw else .parse
    let results := Artifact.parse parser ⟨[], []⟩
    let current : Artifact := ⟨3, "app/Main.cs", ["app"], .unavailable⟩
    let state : SearchState MemberTable PlanState := ⟨.make 1, [], ⟨false, [], []⟩⟩
    world.Gives results ∧
      (run (.ofTrees results) rule .none sampleGroup current ⟨.make 1, [], ()⟩).1 =
        .ok ⟨.mixed, .artifact "app/sub/Low.cs", ["app/sub/Low.cs"]⟩ ∧
      (run world rule .none sampleGroup current state).1 = .error .cancelled ∧
      IsInterrupted world rule .none (retrieval [] results)
        (Candidate.order .none sampleGroup current) ([], state.world) := by
  intro rule parser world results current state
  have given : world.Gives results := by
    intro artifact asked result next loaded
    by_cases low : artifact.path = "app/sub/Low.cs"
    · simp [world, World.planned, low] at loaded
    · simp only [world, World.planned, if_neg low] at loaded
      cases loaded
      rfl
  have decided : (run (.ofTrees results) rule .none sampleGroup current ⟨.make 1, [], ()⟩).1 =
      .ok ⟨.mixed, .artifact "app/sub/Low.cs", ["app/sub/Low.cs"]⟩ := by
    decide +kernel
  have cancelled : (run world rule .none sampleGroup current state).1 = .error .cancelled := by
    decide +kernel
  obtain ⟨-, exactly, -, fails, -⟩ := run_undisturbed_or_cancelled world rule .none sampleGroup
    current results given state (.make 1)
  refine ⟨given, decided, cancelled, (exactly.mp cancelled).resolve_right fun ends => ?_⟩
  have failed := (fails .cancelled).mpr ends
  rw [decided] at failed
  cases failed

end Search
end HouseStyle
