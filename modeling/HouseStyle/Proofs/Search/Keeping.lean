import HouseStyle.Proofs.Search.Settling

/-!
# Searches keep trees faithfully

Whatever comes of a search, the trees that it leaves behind are those that the
texts of the artifacts give.  So a search whose request is never withdrawn has
its questions answered by the texts, whether trees were kept before or not.
Where the answers are settled beforehand, a search keeps exactly the trees that
it has fetched.
-/

namespace HouseStyle

open Syntax

variable {δ σ ω : Type}

namespace World

/-- The states that questions to the world can lead to. -/
inductive Reaches (world : World ω) (start : ω) : ω → Prop
  | start : world.Reaches start start
  | poll
      {later : ω}
      (reached : world.Reaches start later) :
      world.Reaches start (world.poll later).2
  | load
      {later : ω}
      (artifact : Artifact)
      (reached : world.Reaches start later) :
      world.Reaches start (world.load artifact later).2

/-- From a state on, the request is never withdrawn. -/
def NeverWithdraws (world : World ω) (start : ω) : Prop :=
  ∀ later, world.Reaches start later →
    (world.poll later).1 = false ∧ ∀ artifact, (world.load artifact later).1 ≠ .withdrawn

theorem Reaches.fetch
    {world : World ω}
    {start later : ω}
    (reached : world.Reaches start later)
    (artifact : Artifact)
    (cells : Cells) :
    world.Reaches start (world.fetch artifact cells later).2.2 := by
  have asked := reached.load artifact
  obtain ⟨tree?, -, fetched⟩ | ⟨next, loaded, fetched⟩ | ⟨result, next, loaded, fetched⟩ :=
    world.fetch_cases artifact cells later
  · rw [fetched]
    exact reached
  · rw [fetched]
    rw [loaded] at asked
    exact asked
  · rw [fetched]
    rw [loaded] at asked
    exact asked

/-- Questions do not change what is on disk. -/
theorem eq_of_onDisk_reaches
    {parser : Parser}
    {start later : DiskState}
    (reached : (World.onDisk parser).Reaches start later) :
    later = start := by
  induction reached with
  | start => rfl
  | poll _ same => exact same
  | load _ _ same => exact same

theorem onDisk_neverWithdraws
    (parser : Parser)
    {start : DiskState}
    (waiting : start.cancelled = false) :
    (World.onDisk parser).NeverWithdraws start := by
  intro later reached
  rw [eq_of_onDisk_reaches reached]
  exact ⟨waiting, fun _ => Reply.noConfusion⟩

end World

namespace Search

variable
  [Scratch σ]
  {world : World ω}
  {classifier : Classifier δ σ}
  {rules : Rules}
  {parser : Parser}
  {artifacts : List Artifact}

/-- What every question leaves true is still true after a search, however it ends. -/
theorem scan_preserves
    (holds : Cells → ω → Prop)
    (polls : ∀ cells state, holds cells state → holds cells (world.poll state).2)
    (candidates : List Artifact)
    (fetches : ∀ candidate ∈ candidates, ∀ cells state, holds cells state →
      holds (world.fetch candidate cells state).2.1 (world.fetch candidate cells state).2.2)
    (scanned : List String)
    (search : SearchState σ ω)
    (initially : holds search.cells search.world) :
    holds (scan world classifier rules scanned search candidates).2.cells
      (scan world classifier rules scanned search candidates).2.world := by
  induction candidates generalizing scanned search with
  | nil => exact initially
  | cons candidate rest inductionHypothesis =>
      have polled := polls _ _ initially
      have fetched := fetches candidate List.mem_cons_self _ _ polled
      have restFetches (later : Artifact) (inside : later ∈ rest) :=
        fetches later (List.mem_cons_of_mem candidate inside)
      rw [scan]
      dsimp only
      split
      · exact polled
      · split
        · exact inductionHypothesis restFetches scanned _ polled
        · split
          · exact fetched
          · split
            · exact fetched
            · exact inductionHypothesis restFetches scanned _ fetched
          · exact inductionHypothesis restFetches scanned _ fetched
          · split
            · exact inductionHypothesis restFetches scanned _ fetched
            · split
              · exact fetched
              · exact inductionHypothesis restFetches _ _ fetched

/-- The answers for some artifacts are settled beforehand: what is kept for them is the answer,
and so is what the world will say for the others. -/
structure IsForetold
    (world : World ω)
    (answers : Artifact → Except Failure (Option Tree))
    (artifacts : List Artifact)
    (start : ω)
    (cells : Cells) : Prop where
  /-- The request is not withdrawn between questions. -/
  waits : ∀ later, world.Reaches start later → (world.poll later).1 = false
  /-- What is kept is the answer. -/
  kept : ∀ artifact ∈ artifacts, ∀ tree?, cells.lookup artifact.identity = some tree? →
    answers artifact = .ok tree?
  /-- What is not kept will be answered. -/
  asked : ∀ artifact ∈ artifacts, cells.lookup artifact.identity = none →
    ∀ later, world.Reaches start later →
      ∃ result, (world.load artifact later).1 = .settled result ∧ lenient result = answers artifact

section Foretold

variable
  {answers : Artifact → Except Failure (Option Tree)}
  {start state : ω}
  {cells : Cells}
  {candidate : Artifact}

/-- A fetch gives the answer for the candidate, and this is all that it may add to what is kept. -/
theorem IsForetold.fetch_eq
    (foretold : IsForetold world answers artifacts start cells)
    (present : candidate ∈ artifacts)
    (reached : world.Reaches start state) :
    (world.fetch candidate cells state).1 = .settled (answers candidate) ∧
      ∀ identity tree?,
        (world.fetch candidate cells state).2.1.lookup identity = some tree? ↔
          cells.lookup identity = some tree? ∨
            identity = candidate.identity ∧ answers candidate = .ok tree? := by
  cases known : cells.lookup candidate.identity with
  | some kept =>
      have answer := foretold.kept candidate present kept known
      rw [World.fetch, known, answer]
      refine ⟨rfl, fun identity tree? => ⟨.inl, ?_⟩⟩
      rintro (found | ⟨rfl, same⟩)
      · exact found
      · cases same
        exact known
  | none =>
      obtain ⟨result, answered, taken⟩ := foretold.asked candidate present known state reached
      obtain ⟨tree?, found, -⟩ | ⟨next, loaded, -⟩ | ⟨result, next, loaded, fetched⟩ :=
        world.fetch_cases candidate cells state
      · rw [known] at found
        cases found
      · rw [loaded] at answered
        cases answered
      · rw [loaded] at answered
        cases answered
        rw [fetched, taken]
        exact ⟨rfl, fun identity tree? => Cells.lookup_keep_iff known⟩

/-- Fetching a tree does not change the answers. -/
theorem IsForetold.fetch
    (foretold : IsForetold world answers artifacts start cells)
    (apart : ∀ artifact ∈ artifacts, artifact.identity = candidate.identity → artifact = candidate)
    (present : candidate ∈ artifacts)
    (reached : world.Reaches start state) :
    IsForetold world answers artifacts start (world.fetch candidate cells state).2.1 := by
  have kept := (foretold.fetch_eq present reached).2
  refine ⟨foretold.waits, fun artifact inside tree? found => ?_,
    fun artifact inside unknown => foretold.asked artifact inside ?_⟩
  · rcases (kept artifact.identity tree?).mp found with earlier | ⟨same, answer⟩
    · exact foretold.kept artifact inside tree? earlier
    · rw [apart artifact inside same, answer]
  · rw [Option.eq_none_iff_forall_ne_some] at unknown ⊢
    exact fun tree? earlier => unknown tree? ((kept artifact.identity tree?).mpr (.inl earlier))

/-- After a fetch, the trees are kept that were kept before, and that of the candidate. -/
theorem IsForetold.lookup_fetch_iff
    {artifact : Artifact}
    (foretold : IsForetold world answers artifacts start cells)
    (apart : ∀ artifact ∈ artifacts, artifact.identity = candidate.identity → artifact = candidate)
    (present : candidate ∈ artifacts)
    (reached : world.Reaches start state)
    (known : artifact ∈ artifacts)
    (tree? : Option Tree) :
    (world.fetch candidate cells state).2.1.lookup artifact.identity = some tree? ↔
      cells.lookup artifact.identity = some tree? ∨
        artifact = candidate ∧ answers artifact = .ok tree? := by
  rw [(foretold.fetch_eq present reached).2]
  refine or_congr_right ⟨?_, ?_⟩
  · rintro ⟨same, answer⟩
    obtain rfl := apart artifact known same
    exact ⟨rfl, answer⟩
  · rintro ⟨rfl, answer⟩
    exact ⟨rfl, answer⟩

/-- Answers that are settled beforehand answer a search. -/
theorem isAnswered_of_isForetold
    (candidates : List Artifact)
    (inside : candidates ⊆ artifacts)
    (apart : Artifact.ToldApart artifacts candidates)
    (reached : world.Reaches start state)
    (foretold : IsForetold world answers artifacts start cells) :
    IsAnswered world classifier rules answers candidates cells state := by
  induction candidates generalizing cells state with
  | nil => trivial
  | cons candidate rest inductionHypothesis =>
      obtain ⟨present, restInside⟩ := List.cons_subset.mp inside
      have restApart := apart.of_subset (List.subset_cons_self candidate rest)
      have polled := reached.poll
      refine ⟨foretold.waits state reached, ?_⟩
      split
      · exact inductionHypothesis restInside restApart polled foretold
      · refine ⟨(foretold.fetch_eq present polled).1, fun _ => ?_⟩
        exact inductionHypothesis restInside restApart (polled.fetch candidate cells)
          (foretold.fetch (fun artifact known => apart artifact known candidate List.mem_cons_self)
            present polled)

/-- The candidates whose trees a search fetches: those that are not left out, up to the one with
which it ends. -/
def fetched
    (classifier : Classifier δ σ)
    (rules : Rules)
    (answers : Artifact → Except Failure (Option Tree)) : List Artifact → List Artifact
  | [] => []
  | candidate :: rest =>
      if rules.excludes candidate then
        fetched classifier rules answers rest
      else if ends (reading classifier rules answers candidate) then
        [candidate]
      else
        candidate :: fetched classifier rules answers rest

theorem fetched_subset (candidates : List Artifact) :
    fetched classifier rules answers candidates ⊆ candidates := by
  induction candidates with
  | nil => exact List.Subset.refl _
  | cons candidate rest inductionHypothesis =>
      rw [fetched]
      split
      · exact List.subset_cons_of_subset _ inductionHypothesis
      · split
        · exact List.cons_subset_cons _ (List.nil_subset _)
        · exact List.cons_subset_cons _ inductionHypothesis

/-- After a search, the trees are kept that were kept before or that it has fetched. -/
theorem lookup_scan_iff
    {artifact : Artifact}
    {tree? : Option Tree}
    (known : artifact ∈ artifacts)
    (candidates : List Artifact)
    (inside : candidates ⊆ artifacts)
    (apart : Artifact.ToldApart artifacts candidates)
    (scanned : List String)
    (search : SearchState σ ω)
    (reached : world.Reaches start search.world)
    (foretold : IsForetold world answers artifacts start search.cells) :
    (scan world classifier rules scanned search candidates).2.cells.lookup artifact.identity =
        some tree? ↔
      search.cells.lookup artifact.identity = some tree? ∨
        artifact ∈ fetched classifier rules answers candidates ∧ answers artifact = .ok tree? := by
  induction candidates generalizing scanned search with
  | nil => simp [scan, fetched]
  | cons candidate rest inductionHypothesis =>
      obtain ⟨present, restInside⟩ := List.cons_subset.mp inside
      have restApart := apart.of_subset (List.subset_cons_self candidate rest)
      have waiting := foretold.waits search.world reached
      have polled := reached.poll
      cases included : rules.excludes candidate with
      | true =>
          simp only [scan, fetched, waiting, included]
          exact inductionHypothesis restInside restApart scanned _ polled foretold
      | false =>
          have own (artifact : Artifact) (known : artifact ∈ artifacts) :
              artifact.identity = candidate.identity → artifact = candidate :=
            apart artifact known candidate List.mem_cons_self
          have adds := foretold.lookup_fetch_iff own present polled known tree?
          have ended : (world.fetch candidate search.cells (world.poll search.world).2).2.1.lookup
                artifact.identity = some tree? ↔
              search.cells.lookup artifact.identity = some tree? ∨
                artifact ∈ [candidate] ∧ answers artifact = .ok tree? := by
            rw [adds, List.mem_singleton]
          have goesOn (pool : Pool σ) (later : List String) :=
            inductionHypothesis restInside restApart later ⟨pool, _, _⟩
              (polled.fetch candidate search.cells) (foretold.fetch own present polled)
          simp only [adds, or_assoc, ← or_and_right, ← List.mem_cons] at goesOn
          obtain ⟨pool, scans⟩ := exists_scan_cons_eq rest scanned search waiting included
            (foretold.fetch_eq present polled).1
          rw [scans, fetched, included]
          cases read : reading classifier rules answers candidate with
          | error failure => exact ended
          | ok outcome? =>
              cases outcome? with
              | none => exact goesOn pool scanned
              | some outcome =>
                  by_cases decided : outcome.isKnown = true
                  · simp only [ends, decided]
                    exact ended
                  · simp only [ends, decided]
                    exact goesOn pool (candidate.path :: scanned)

end Foretold

theorem reaches_scan
    {start : ω}
    (candidates : List Artifact)
    (scanned : List String)
    (search : SearchState σ ω)
    (reached : world.Reaches start search.world) :
    world.Reaches start (scan world classifier rules scanned search candidates).2.world :=
  scan_preserves (fun _ state => world.Reaches start state) (fun _ _ earlier => earlier.poll)
    candidates (fun candidate _ cells _ earlier => earlier.fetch candidate cells) scanned search
    reached

/-- The texts answer a search whose request is never withdrawn. -/
theorem isAnswered_of_neverWithdraws
    {start : ω}
    (parses : world.Parses parser)
    (never : world.NeverWithdraws start)
    (offDisk : ∀ artifact ∈ artifacts, artifact.IsOffDisk)
    (candidates : List Artifact)
    (inside : candidates ⊆ artifacts)
    (apart : Artifact.ToldApart artifacts candidates)
    {cells : Cells}
    {state : ω}
    (reached : world.Reaches start state)
    (faithful : cells.Faithful parser artifacts) :
    IsAnswered world classifier rules (Artifact.answer parser) candidates cells state := by
  refine isAnswered_of_isForetold candidates inside apart reached
    ⟨fun later onTheWay => (never later onTheWay).1, faithful, ?_⟩
  intro artifact present _ later onTheWay
  have waits := (never later onTheWay).2 artifact
  cases loaded : world.load artifact later with
  | mk reply next =>
      rw [loaded] at waits
      cases reply with
      | withdrawn => exact absurd rfl waits
      | settled result =>
          exact ⟨result, rfl, parses.lenient_eq_answer (offDisk artifact present) loaded⟩

/-- However a search ends, what it keeps stays faithful. -/
theorem faithful_scan
    (parses : world.Parses parser)
    (offDisk : ∀ artifact ∈ artifacts, artifact.IsOffDisk)
    (candidates : List Artifact)
    (apart : Artifact.ToldApart artifacts candidates)
    (scanned : List String)
    (state : SearchState σ ω)
    (faithful : state.cells.Faithful parser artifacts) :
    (scan world classifier rules scanned state candidates).2.cells.Faithful parser artifacts := by
  refine scan_preserves (fun cells _ => cells.Faithful parser artifacts) (fun _ _ same => same)
    candidates (fun candidate inside cells asked kept => ?_) scanned state faithful
  exact parses.faithful_fetch offDisk
    (fun artifact known => apart artifact known candidate inside) kept

end Search
end HouseStyle
