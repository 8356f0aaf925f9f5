import HouseStyle.Proofs.Candidate.Rank
import HouseStyle.Proofs.Convention.Locality
import HouseStyle.Proofs.Search.Settling

/-!
# The nearest evidence decides

A search gives what the eligible candidate of the lowest rank says whose tree
says anything, and it has then read the eligible candidates up to that rank.
-/

namespace HouseStyle

open Syntax
open Candidate

variable {δ σ ω : Type}

theorem Outcome.isKnown_iff {outcome : Outcome δ} :
    outcome.isKnown = true ↔ outcome ≠ .unknown := by
  cases outcome <;> simp [isKnown, verdict, Verdict.isKnown]

namespace Search

/-- The tree of an artifact that a search may read: the rules do not leave the artifact out, its
tree is retrieved, and the text is not marked as generated. -/
def eligibleTree?
    (rules : Rules)
    (retrieved : Artifact → Option Tree)
    (artifact : Artifact) : Option Tree :=
  if rules.excludes artifact then
    none
  else
    (retrieved artifact).filter fun tree => !Generated.isGenerated tree.source

section Nearest

variable
  [Scratch σ]
  (classifier : Classifier δ σ)
  (rules : Rules)
  (group : Group)
  (current : Artifact)
  (retrieved : Artifact → Option Tree)

/-- The list has the eligible candidates at certain ranks, in the order of their ranks. -/
structure ListsEligible
    (wanted : Rank → Prop)
    (entries : List (Artifact × Rank)) : Prop where
  /-- The ranks increase. -/
  sorted : entries.Pairwise fun earlier later => earlier.2 < later.2
  /-- The entries are the eligible candidates. -/
  mem_iff : ∀ entry, entry ∈ entries ↔
    IsCandidate rules group current entry.1 entry.2 ∧
      (∃ tree, eligibleTree? rules retrieved entry.1 = some tree) ∧ wanted entry.2

/-- What the nearest evidence says about a convention. -/
inductive DecidedByNearest : Inference δ → Prop
  /-- The eligible candidate of the lowest rank whose tree says anything decides. -/
  | found
      {nearest : Artifact}
      {rank : Rank}
      {tree : Tree}
      {entries : List (Artifact × Rank)}
      (candidate : IsCandidate rules group current nearest rank)
      (eligible : eligibleTree? rules retrieved nearest = some tree)
      (known : classifier.outcome tree ≠ .unknown)
      (lowest : ∀ other otherRank otherTree, IsCandidate rules group current other otherRank →
        eligibleTree? rules retrieved other = some otherTree →
        classifier.outcome otherTree ≠ .unknown → rank ≤ otherRank)
      (read : ListsEligible rules group current retrieved (· ≤ rank) entries) :
      DecidedByNearest
        ⟨classifier.outcome tree, .artifact nearest.path, entries.map fun entry => entry.1.path⟩
  /-- No eligible candidate has a tree that says anything. -/
  | notFound
      {entries : List (Artifact × Rank)}
      (silent : ∀ other otherRank otherTree, IsCandidate rules group current other otherRank →
        eligibleTree? rules retrieved other = some otherTree →
        classifier.outcome otherTree = .unknown)
      (read : ListsEligible rules group current retrieved (fun _ => True) entries) :
      DecidedByNearest ⟨.unknown, .notFound, entries.map fun entry => entry.1.path⟩

end Nearest

variable
  [Scratch σ]
  {classifier : Classifier δ σ}
  {rules : Rules}
  {group : Group}
  {current : Artifact}
  {retrieved : Artifact → Option Tree}

/-! ## The result of a search as a function of what can be read -/

theorem reading_eq_map_eligibleTree? (candidate : Artifact) :
    reading classifier rules (fun artifact => .ok (retrieved artifact)) candidate =
      .ok ((eligibleTree? rules retrieved candidate).map classifier.outcome) := by
  cases included : rules.excludes candidate with
  | true => rw [reading_of_excluded classifier included, eligibleTree?, if_pos included, Option.map]
  | false =>
      have eligible : eligibleTree? rules retrieved candidate =
          (retrieved candidate).filter fun tree => !Generated.isGenerated tree.source := by
        rw [eligibleTree?, included]
        rfl
      cases found : retrieved candidate with
      | none =>
          rw [eligible, found, reading_of_absent classifier included (congrArg _ found)]
          rfl
      | some tree =>
          have answered : (.ok (retrieved candidate) : Except Failure (Option Tree)) =
              .ok (some tree) := by
            rw [found]
          cases generated : Generated.isGenerated tree.source with
          | true =>
              rw [eligible, found, reading_of_generated classifier included answered generated,
                Option.filter_some, generated]
              rfl
          | false =>
              rw [eligible, found, reading_of_authored classifier included answered generated,
                Option.filter_some, generated]
              rfl

/-- The paths of the artifacts that a search can read. -/
def readablePaths
    (readable? : Artifact → Option (Outcome δ))
    (artifacts : List Artifact) : List String :=
  (artifacts.filter fun artifact => (readable? artifact).isSome).map Artifact.path

/-- A search goes past candidates that say nothing and keeps the paths of those it could read. -/
theorem settle_append_of_silent
    {readable? : Artifact → Option (Outcome δ)}
    {before : List Artifact}
    (silent : ∀ artifact ∈ before, ∀ outcome, readable? artifact = some outcome →
      outcome.isKnown = false)
    (scanned : List String)
    (rest : List Artifact) :
    settle (fun artifact => .ok (readable? artifact)) scanned (before ++ rest) =
      settle (fun artifact => .ok (readable? artifact))
        ((readablePaths readable? before).reverse ++ scanned) rest := by
  induction before generalizing scanned with
  | nil => rfl
  | cons artifact later inductionHypothesis =>
      have laterSilent := inductionHypothesis fun other present =>
        silent other (List.mem_cons_of_mem _ present)
      rw [List.cons_append, settle]
      cases readable : readable? artifact with
      | none =>
          have unlisted : readablePaths readable? (artifact :: later) =
              readablePaths readable? later := by
            simp [readablePaths, readable]
          rw [unlisted]
          exact laterSilent scanned
      | some outcome =>
          have listed : (readablePaths readable? (artifact :: later)).reverse ++ scanned =
              (readablePaths readable? later).reverse ++ artifact.path :: scanned := by
            simp [readablePaths, readable]
          have unknown := silent artifact List.mem_cons_self outcome readable
          rw [listed]
          simp only [unknown]
          exact laterSilent (artifact.path :: scanned)

/-! ## The result of a search in terms of ranks -/

/-- The candidate is eligible and its tree says something. -/
def hasEvidence
    (classifier : Classifier δ σ)
    (rules : Rules)
    (retrieved : Artifact → Option Tree)
    (entry : Artifact × Rank) : Bool :=
  (eligibleTree? rules retrieved entry.1).any fun tree => (classifier.outcome tree).isKnown

theorem hasEvidence_iff {entry : Artifact × Rank} :
    hasEvidence classifier rules retrieved entry = true ↔
      ∃ tree, eligibleTree? rules retrieved entry.1 = some tree ∧
        classifier.outcome tree ≠ .unknown := by
  simp only [hasEvidence, Option.any_eq_true, Outcome.isKnown_iff]

/-- Before the first evidence nothing is known. -/
theorem silent_of_not_hasEvidence
    {entries : List (Artifact × Rank)}
    (without : ∀ entry ∈ entries, hasEvidence classifier rules retrieved entry = false) :
    ∀ artifact ∈ entries.map Prod.fst, ∀ outcome,
      (eligibleTree? rules retrieved artifact).map classifier.outcome = some outcome →
        outcome.isKnown = false := by
  intro artifact present outcome readable
  obtain ⟨entry, member, rfl⟩ := List.mem_map.mp present
  obtain ⟨tree, eligible, rfl⟩ := Option.map_eq_some_iff.mp readable
  have silent := without entry member
  rw [hasEvidence, eligible] at silent
  exact silent

theorem readablePaths_map_fst (entries : List (Artifact × Rank)) :
    readablePaths (fun artifact => (eligibleTree? rules retrieved artifact).map classifier.outcome)
        (entries.map Prod.fst) =
      (entries.filter fun entry => (eligibleTree? rules retrieved entry.1).isSome).map
        fun entry => entry.1.path := by
  rw [readablePaths, List.filter_map, List.map_map]
  simp only [Function.comp_def, Option.isSome_map]

theorem mem_eligible_iff
    {entries : List (Artifact × Rank)}
    {entry : Artifact × Rank} :
    entry ∈ (entries.filter fun entry => (eligibleTree? rules retrieved entry.1).isSome) ↔
      entry ∈ entries ∧ ∃ tree, eligibleTree? rules retrieved entry.1 = some tree := by
  rw [List.mem_filter, Option.isSome_iff_exists]

theorem settle_of_nowhere
    (nowhere : ∀ entry ∈ ranked rules group current,
      hasEvidence classifier rules retrieved entry = false) :
    ∃ inference,
      settle (fun artifact => .ok ((eligibleTree? rules retrieved artifact).map classifier.outcome))
          [] (order rules group current) = .ok inference ∧
        DecidedByNearest classifier rules group current retrieved inference := by
  have settled := settle_append_of_silent (silent_of_not_hasEvidence nowhere) [] []
  rw [List.append_nil, List.append_nil, settle, List.reverse_reverse, readablePaths_map_fst,
    map_fst_ranked] at settled
  refine ⟨_, settled, .notFound ?_ ⟨?_, ?_⟩⟩
  · intro other otherRank otherTree candidate eligible
    have without := nowhere (other, otherRank) (mem_ranked_iff.mpr candidate)
    by_contra known
    exact Bool.eq_false_iff.mp without (hasEvidence_iff.mpr ⟨otherTree, eligible, known⟩)
  · exact (pairwise_ranked rules group current).filter _
  · intro entry
    rw [mem_eligible_iff, mem_ranked_iff, and_true]

/-- A search ends at the first evidence, with all that it could read up to there. -/
theorem settle_of_split
    {before after : List (Artifact × Rank)}
    {nearest : Artifact × Rank}
    {tree : Tree}
    (split : ranked rules group current = before ++ nearest :: after)
    (eligible : eligibleTree? rules retrieved nearest.1 = some tree)
    (known : classifier.outcome tree ≠ .unknown)
    (without : ∀ entry ∈ before, hasEvidence classifier rules retrieved entry = false) :
    settle (fun artifact => .ok ((eligibleTree? rules retrieved artifact).map classifier.outcome))
        [] (order rules group current) =
      .ok ⟨classifier.outcome tree, .artifact nearest.1.path,
        ((before.filter fun entry => (eligibleTree? rules retrieved entry.1).isSome) ++
          [nearest]).map fun entry => entry.1.path⟩ := by
  have settled := settle_append_of_silent (silent_of_not_hasEvidence without) []
    (nearest.1 :: after.map Prod.fst)
  rw [settle] at settled
  simp only [eligible, Option.map_some, Outcome.isKnown_iff.mpr known, if_true,
    readablePaths_map_fst] at settled
  rw [← map_fst_ranked, split, List.map_append, List.map_cons, settled]
  simp

theorem settle_of_nearest
    {before after : List (Artifact × Rank)}
    {nearest : Artifact × Rank}
    (split : ranked rules group current = before ++ nearest :: after)
    (evidence : hasEvidence classifier rules retrieved nearest = true)
    (without : ∀ entry ∈ before, hasEvidence classifier rules retrieved entry = false) :
    ∃ inference,
      settle (fun artifact => .ok ((eligibleTree? rules retrieved artifact).map classifier.outcome))
          [] (order rules group current) = .ok inference ∧
        DecidedByNearest classifier rules group current retrieved inference := by
  obtain ⟨tree, eligible, known⟩ := hasEvidence_iff.mp evidence
  have candidate_iff (entry : Artifact × Rank) :
      IsCandidate rules group current entry.1 entry.2 ↔
        entry ∈ before ∨ entry = nearest ∨ entry ∈ after := by
    rw [← mem_ranked_iff, split, List.mem_append, List.mem_cons]
  have sorted := pairwise_ranked rules group current
  rw [split, List.pairwise_append, List.pairwise_cons] at sorted
  obtain ⟨sortedBefore, ⟨fartherAfter, -⟩, nearerThan⟩ := sorted
  have nearerBefore (entry : Artifact × Rank) (member : entry ∈ before) : entry.2 < nearest.2 :=
    nearerThan entry member nearest List.mem_cons_self
  refine ⟨_, settle_of_split split eligible known without,
    .found ((candidate_iff nearest).mpr (.inr (.inl rfl))) eligible known ?_ ⟨?_, ?_⟩⟩
  · intro other otherRank otherTree candidate otherEligible otherKnown
    rcases (candidate_iff (other, otherRank)).mp candidate with earlier | same | later
    · have otherEvidence : hasEvidence classifier rules retrieved (other, otherRank) = true :=
        hasEvidence_iff.mpr ⟨otherTree, otherEligible, otherKnown⟩
      exact absurd otherEvidence (Bool.eq_false_iff.mp (without _ earlier))
    · exact (congrArg Prod.snd same).ge
    · exact (fartherAfter _ later).le
  · rw [List.pairwise_append]
    refine ⟨sortedBefore.filter _, List.pairwise_singleton _ _, ?_⟩
    intro entry member last isLast
    rw [List.mem_singleton.mp isLast]
    exact nearerBefore entry (mem_eligible_iff.mp member).1
  · intro entry
    rw [List.mem_append, mem_eligible_iff, List.mem_singleton, candidate_iff]
    constructor
    · rintro (⟨member, readable⟩ | rfl)
      · exact ⟨.inl member, readable, (nearerBefore entry member).le⟩
      · exact ⟨.inr (.inl rfl), ⟨tree, eligible⟩, le_rfl⟩
    · rintro ⟨member | same | member, readable, near⟩
      · exact .inl ⟨member, readable⟩
      · exact .inr same
      · exact absurd (fartherAfter entry member) near.not_gt

/--
As long as the request is not withdrawn and no retrieval fails fatally, a search
is decided by the nearest evidence.
-/
theorem run_decidedByNearest
    (world : World ω)
    (classifier : Classifier δ σ)
    (rules : Rules)
    (group : Group)
    (current : Artifact)
    (retrieved : Artifact → Option Tree)
    (state : SearchState σ ω)
    (answered : IsAnswered world classifier rules (fun artifact => .ok (retrieved artifact))
      (order rules group current) state.cells state.world) :
    ∃ inference, (run world classifier rules group current state).1 = .ok inference ∧
      DecidedByNearest classifier rules group current retrieved inference := by
  rw [run, scan_eq_settle [] state answered, funext reading_eq_map_eligibleTree?]
  cases found : (ranked rules group current).find? (hasEvidence classifier rules retrieved) with
  | none =>
      refine settle_of_nowhere fun entry member => ?_
      exact Bool.eq_false_iff.mpr (List.find?_eq_none.mp found entry member)
  | some nearest =>
      obtain ⟨evidence, before, after, split, without⟩ := List.find?_eq_some_iff_append.mp found
      exact settle_of_nearest split evidence fun entry member => by simpa using without entry member

/-- A project whose only trees lie in a folder below and elsewhere. -/
def sampleGroup : Group where
  name := "sample"
  artifacts := [
    ⟨0, "lib/Far.cs", ["lib"], .inMemory Convention.sampleTree.source⟩,
    ⟨1, "app/sub/Low.cs", ["app", "sub"], .inMemory Convention.sampleTree.source⟩,
    ⟨2, "app/Near.cs", ["app"], .unavailable⟩]

/-- The tree of an artifact whose text is at hand. -/
def sampleTrees (artifact : Artifact) : Option Tree :=
  match artifact.content with
  | .inMemory _ => some Convention.sampleTree
  | _ => none

/-- A world in which no request is ever withdrawn. -/
def sampleWorld : World Unit where
  poll := fun state => (false, state)
  load := fun artifact state => (.settled (.ok (sampleTrees artifact)), state)

theorem run_decidedByNearest_sample :
    let rule := Convention.qualifyFieldAccess.classifier
    let current : Artifact := ⟨3, "app/Main.cs", ["app"], .unavailable⟩
    let state : SearchState MemberTable Unit := ⟨.make 1, [], ()⟩
    IsAnswered sampleWorld rule Rules.none (fun artifact => .ok (sampleTrees artifact))
        (order Rules.none sampleGroup current) state.cells state.world ∧
      DecidedByNearest rule Rules.none sampleGroup current sampleTrees
        ⟨.mixed, .artifact "app/sub/Low.cs", ["app/sub/Low.cs"]⟩ := by
  intro rule current state
  have answered : IsAnswered sampleWorld rule Rules.none
      (fun artifact => .ok (sampleTrees artifact)) (order Rules.none sampleGroup current)
      state.cells state.world := by
    refine ⟨rfl, rfl, fun _ => ⟨rfl, rfl, fun _ => ⟨rfl, rfl, fun goesOn => ?_⟩⟩⟩
    -- The third candidate has evidence, so nothing is asked after it.
    exact absurd goesOn (by decide +kernel)
  obtain ⟨inference, ran, decided⟩ :=
    run_decidedByNearest sampleWorld rule Rules.none sampleGroup current sampleTrees state answered
  have computed : (run sampleWorld rule Rules.none sampleGroup current state).1 =
      .ok ⟨.mixed, .artifact "app/sub/Low.cs", ["app/sub/Low.cs"]⟩ := by
    decide +kernel
  rw [computed] at ran
  cases ran
  exact ⟨answered, decided⟩

end Search
end HouseStyle
