import HouseStyle.Candidate
import Mathlib.Data.Prod.Lex

/-!
# Ranks of candidates

The rank of a candidate says how near it is to the current artifact: first by
the bucket that it falls into, then by its position in the group.  An artifact
can fall into several buckets and stand in several positions, and the same
identity can have several ranks; the lowest of them counts.  The candidates in
the order of a search are the identities in the order of their lowest ranks.
-/

namespace HouseStyle
namespace Candidate

/-- The bucket of a candidate and its position in the group, the bucket being compared first. -/
abbrev Rank := Nat ×ₗ Nat

section Ranks

variable
  (rules : Rules)
  (group : Group)
  (current : Artifact)

/-- A rank at which an artifact comes up. -/
inductive HasRank : Artifact → Rank → Prop
  /-- The current artifact comes first, also if it is no member of the group. -/
  | current : HasRank current (toLex (0, 0))
  /-- Members in the same folder. -/
  | beside
      {position : Nat}
      {artifact : Artifact}
      (member : group.artifacts[position]? = some artifact)
      (same : artifact.folders = current.folders) :
      HasRank artifact (toLex (1, position))
  /-- Members in a folder below. -/
  | below
      {position : Nat}
      {artifact : Artifact}
      {further : List String}
      (member : group.artifacts[position]? = some artifact)
      (extended : artifact.folders = current.folders ++ further)
      (strictly : further ≠ []) :
      HasRank artifact (toLex (2, position))
  /-- All members that are no build output. -/
  | elsewhere
      {position : Nat}
      {artifact : Artifact}
      (member : group.artifacts[position]? = some artifact)
      (authored : rules.isBuildOutput artifact.folders = false) :
      HasRank artifact (toLex (3, position))

/-- An artifact is a candidate at a rank: no artifact of its identity comes up at a lower one. -/
def IsCandidate (artifact : Artifact) (rank : Rank) : Prop :=
  HasRank rules group current artifact rank ∧
    ∀ other lower, HasRank rules group current other lower →
      other.identity = artifact.identity → rank ≤ lower

/-- One pass over the group, with the ranks in a bucket. -/
def rankedPass
    (bucket : Nat)
    (keeps : Artifact → Bool) : List (Artifact × Rank) :=
  (group.artifacts.zipIdx.filter fun entry => keeps entry.1).map fun entry =>
    (entry.1, toLex (bucket, entry.2))

/-- The candidates with repetitions, each with the rank at which it comes up. -/
def rankedPasses : List (Artifact × Rank) :=
  (current, toLex (0, 0)) ::
    (rankedPass group 1 (fun artifact => artifact.folders == current.folders) ++
      rankedPass group 2 (isBelow current.folders) ++
      rankedPass group 3 (fun artifact => !rules.isBuildOutput artifact.folders))

/-- Keeps the first entry of each identity. -/
def firsts (seen : List Nat) : List (Artifact × Rank) → List (Artifact × Rank)
  | [] => []
  | entry :: rest =>
      if seen.contains entry.1.identity then
        firsts seen rest
      else
        entry :: firsts (entry.1.identity :: seen) rest

/-- The candidates in the order of a search, with their ranks. -/
def ranked : List (Artifact × Rank) :=
  firsts [] (rankedPasses rules group current)

end Ranks

variable
  {rules : Rules}
  {group : Group}
  {current : Artifact}

/-! ## The passes -/

/-- A folder below another one extends its names by at least one more. -/
theorem isBelow_iff
    {folders : List String}
    {artifact : Artifact} :
    isBelow folders artifact = true ↔
      ∃ further, artifact.folders = folders ++ further ∧ further ≠ [] := by
  rw [isBelow, Bool.and_eq_true, decide_eq_true_eq, List.isPrefixOf_iff_prefix]
  constructor
  · rintro ⟨longer, further, extended⟩
    refine ⟨further, extended.symm, ?_⟩
    rintro rfl
    rw [← extended, List.append_nil] at longer
    exact lt_irrefl _ longer
  · rintro ⟨further, extended, strictly⟩
    refine ⟨?_, further, extended.symm⟩
    rw [extended, List.length_append]
    have := List.length_pos_iff.mpr strictly
    omega

/-- Without the ranks, a pass is the group filtered. -/
theorem map_fst_rankedPass
    (bucket : Nat)
    (keeps : Artifact → Bool) :
    (rankedPass group bucket keeps).map Prod.fst = group.artifacts.filter keeps := by
  have unnumbered := List.filter_map (f := Prod.fst) (p := keeps) (l := group.artifacts.zipIdx)
  rw [List.zipIdx_map_fst] at unnumbered
  rw [rankedPass, List.map_map, unnumbered]
  rfl

theorem map_fst_rankedPasses :
    (rankedPasses rules group current).map Prod.fst = passes rules group current := by
  rw [rankedPasses, passes, List.map_cons, List.map_append, List.map_append]
  simp only [map_fst_rankedPass]

/-- A pass holds the kept members of the group, ranked by their positions in it. -/
theorem mem_rankedPass_iff
    {bucket : Nat}
    {keeps : Artifact → Bool}
    {entry : Artifact × Rank} :
    entry ∈ rankedPass group bucket keeps ↔
      ∃ position, group.artifacts[position]? = some entry.1 ∧ keeps entry.1 = true ∧
        entry.2 = toLex (bucket, position) := by
  rw [rankedPass, List.mem_map]
  constructor
  · rintro ⟨⟨artifact, position⟩, kept, rfl⟩
    obtain ⟨member, keeps⟩ := List.mem_filter.mp kept
    exact ⟨position, List.mem_zipIdx_iff_getElem?.mp member, keeps, rfl⟩
  · rintro ⟨position, member, keeps, rank⟩
    refine ⟨(entry.1, position), List.mem_filter.mpr ⟨?_, keeps⟩, Prod.ext rfl rank.symm⟩
    exact List.mem_zipIdx_iff_getElem?.mpr member

/-- The passes come up with an artifact at exactly the ranks that it has. -/
theorem mem_rankedPasses_iff {entry : Artifact × Rank} :
    entry ∈ rankedPasses rules group current ↔
      HasRank rules group current entry.1 entry.2 := by
  obtain ⟨artifact, rank⟩ := entry
  rw [rankedPasses, List.mem_cons, List.mem_append, List.mem_append]
  simp only [mem_rankedPass_iff, beq_iff_eq, isBelow_iff, Bool.not_eq_true', Prod.mk.injEq]
  constructor
  · rintro (⟨rfl, rfl⟩ | (⟨position, member, same, rfl⟩ |
      ⟨position, member, ⟨further, extended, strictly⟩, rfl⟩) | ⟨position, member, authored, rfl⟩)
    · exact .current
    · exact .beside member same
    · exact .below member extended strictly
    · exact .elsewhere member authored
  · intro comesUp
    cases comesUp with
    | current => exact .inl ⟨rfl, rfl⟩
    | beside member same => exact .inr (.inl (.inl ⟨_, member, same, rfl⟩))
    | below member extended strictly =>
        exact .inr (.inl (.inr ⟨_, member, ⟨_, extended, strictly⟩, rfl⟩))
    | elsewhere member authored => exact .inr (.inr ⟨_, member, authored, rfl⟩)

/-- Within a pass the positions, and so the ranks, increase. -/
theorem pairwise_rankedPass
    (bucket : Nat)
    (keeps : Artifact → Bool) :
    (rankedPass group bucket keeps).Pairwise fun earlier later => earlier.2 < later.2 := by
  have positions : group.artifacts.zipIdx.Pairwise fun earlier later => earlier.2 < later.2 := by
    rw [← List.pairwise_map, List.zipIdx_map_snd]
    exact List.pairwise_lt_range'
  rw [rankedPass, List.pairwise_map]
  refine (positions.filter _).imp fun before => ?_
  exact Prod.Lex.toLex_lt_toLex.mpr (.inr ⟨rfl, before⟩)

/-- Of two passes, all ranks of the one with the lower bucket come before those of the other. -/
theorem lt_of_mem_rankedPass
    {bucket higher : Nat}
    {keeps keepsHigher : Artifact → Bool}
    {entry later : Artifact × Rank}
    (apart : bucket < higher)
    (member : entry ∈ rankedPass group bucket keeps)
    (laterMember : later ∈ rankedPass group higher keepsHigher) :
    entry.2 < later.2 := by
  obtain ⟨position, -, -, rank⟩ := mem_rankedPass_iff.mp member
  obtain ⟨laterPosition, -, -, laterRank⟩ := mem_rankedPass_iff.mp laterMember
  rw [rank, laterRank]
  exact Prod.Lex.toLex_lt_toLex.mpr (.inl apart)

/-- All passes together run through the ranks from the lowest to the highest. -/
theorem pairwise_rankedPasses :
    (rankedPasses rules group current).Pairwise fun earlier later => earlier.2 < later.2 := by
  have afterCurrent
      {bucket : Nat}
      {keeps : Artifact → Bool}
      {entry : Artifact × Rank}
      (positive : 0 < bucket)
      (member : entry ∈ rankedPass group bucket keeps) :
      toLex (0, 0) < entry.2 := by
    obtain ⟨position, -, -, rank⟩ := mem_rankedPass_iff.mp member
    rw [rank]
    exact Prod.Lex.toLex_lt_toLex.mpr (.inl positive)
  rw [rankedPasses, List.pairwise_cons, List.pairwise_append, List.pairwise_append]
  refine ⟨?_, ⟨pairwise_rankedPass .., pairwise_rankedPass .., ?_⟩, pairwise_rankedPass .., ?_⟩
  · intro entry member
    rcases List.mem_append.mp member with member | member
    · rcases List.mem_append.mp member with member | member
      · exact afterCurrent Nat.one_pos member
      · exact afterCurrent Nat.two_pos member
    · exact afterCurrent (Nat.succ_pos 2) member
  · intro entry member later laterMember
    exact lt_of_mem_rankedPass (by omega) member laterMember
  · intro entry member later laterMember
    rcases List.mem_append.mp member with member | member
    · exact lt_of_mem_rankedPass (by omega) member laterMember
    · exact lt_of_mem_rankedPass (by omega) member laterMember

/-! ## The first entry of each identity -/

theorem map_fst_firsts
    (seen : List Nat)
    (entries : List (Artifact × Rank)) :
    (firsts seen entries).map Prod.fst = distinct seen (entries.map Prod.fst) := by
  induction entries generalizing seen with
  | nil => rfl
  | cons entry rest inductionHypothesis =>
      rw [firsts, List.map_cons, distinct]
      split
      · exact inductionHypothesis seen
      · rw [List.map_cons, inductionHypothesis]

theorem firsts_sublist
    (seen : List Nat)
    (entries : List (Artifact × Rank)) :
    (firsts seen entries).Sublist entries := by
  induction entries generalizing seen with
  | nil => exact List.Sublist.slnil
  | cons entry rest inductionHypothesis =>
      rw [firsts]
      split
      · exact (inductionHypothesis seen).cons entry
      · exact (inductionHypothesis _).cons_cons entry

/-- In entries that are sorted by rank, the first entry of an identity is the lowest one. -/
theorem mem_firsts_iff
    {seen : List Nat}
    {entries : List (Artifact × Rank)}
    {entry : Artifact × Rank}
    (sorted : entries.Pairwise fun earlier later => earlier.2 < later.2) :
    entry ∈ firsts seen entries ↔
      entry ∈ entries ∧ entry.1.identity ∉ seen ∧
        ∀ other ∈ entries, other.1.identity = entry.1.identity → entry.2 ≤ other.2 := by
  induction entries generalizing seen with
  | nil => simp [firsts]
  | cons first rest inductionHypothesis =>
      obtain ⟨afterFirst, restSorted⟩ := List.pairwise_cons.mp sorted
      rw [firsts, List.forall_mem_cons, List.mem_cons]
      split
      · rename_i skipped
        have known : first.1.identity ∈ seen := List.contains_iff_mem.mp skipped
        rw [inductionHypothesis restSorted]
        constructor
        · rintro ⟨member, unseen, lowest⟩
          exact ⟨.inr member, unseen, fun same => absurd (same ▸ known) unseen, lowest⟩
        · rintro ⟨member, unseen, -, lowest⟩
          rcases member with rfl | member
          · exact absurd known unseen
          · exact ⟨member, unseen, lowest⟩
      · rename_i kept
        have unknown : first.1.identity ∉ seen := fun known =>
          kept (List.contains_iff_mem.mpr known)
        rw [List.mem_cons, inductionHypothesis restSorted, List.mem_cons, not_or]
        constructor
        · rintro (rfl | ⟨member, ⟨other, unseen⟩, lowest⟩)
          · exact ⟨.inl rfl, unknown, fun _ => le_rfl, fun other later _ =>
              (afterFirst other later).le⟩
          · exact ⟨.inr member, unseen, fun same => absurd same.symm other, lowest⟩
        · rintro ⟨member, unseen, lowestFirst, lowest⟩
          rcases member with rfl | member
          · exact .inl rfl
          · -- An entry after the first one is kept only if it has another identity.
            refine .inr ⟨member, ⟨fun same => ?_, unseen⟩, lowest⟩
            exact absurd (afterFirst entry member) (lowestFirst same.symm).not_gt

/-! ## The order of a search -/

variable (rules group current)

/-- Without the ranks, the ranked candidates are the order of a search. -/
theorem map_fst_ranked :
    (ranked rules group current).map Prod.fst = order rules group current := by
  rw [ranked, map_fst_firsts, map_fst_rankedPasses, order]

/-- A search tries its candidates from the lowest rank to the highest. -/
theorem pairwise_ranked :
    (ranked rules group current).Pairwise fun earlier later => earlier.2 < later.2 :=
  pairwise_rankedPasses.sublist (firsts_sublist [] _)

variable {rules group current}

/-- The entries of the order are the artifacts that come up at the lowest rank of their identity. -/
theorem mem_ranked_iff {entry : Artifact × Rank} :
    entry ∈ ranked rules group current ↔
      IsCandidate rules group current entry.1 entry.2 := by
  rw [ranked, mem_firsts_iff pairwise_rankedPasses, mem_rankedPasses_iff, IsCandidate]
  refine and_congr_right fun _ => ?_
  constructor
  · rintro ⟨-, lowest⟩ other lower comesUp same
    exact lowest (other, lower) (mem_rankedPasses_iff.mpr comesUp) same
  · intro lowest
    refine ⟨List.not_mem_nil, fun other member same => ?_⟩
    exact lowest other.1 other.2 (mem_rankedPasses_iff.mp member) same

/-- A search tries the current artifact and members of its group, and nothing else. -/
theorem order_subset : order rules group current ⊆ current :: group.artifacts := by
  intro artifact present
  rw [← map_fst_ranked] at present
  obtain ⟨⟨candidate, rank⟩, member, rfl⟩ := List.mem_map.mp present
  cases (mem_ranked_iff.mp member).1 with
  | current => exact List.mem_cons_self
  | beside member => exact List.mem_cons_of_mem _ (List.mem_of_getElem? member)
  | below member => exact List.mem_cons_of_mem _ (List.mem_of_getElem? member)
  | elsewhere member => exact List.mem_cons_of_mem _ (List.mem_of_getElem? member)

/-! ## Identities of candidates -/

theorem identity_not_mem_of_mem_distinct
    {seen : List Nat}
    {artifacts : List Artifact}
    {artifact : Artifact}
    (kept : artifact ∈ distinct seen artifacts) :
    artifact.identity ∉ seen := by
  induction artifacts generalizing seen with
  | nil => cases kept
  | cons first rest inductionHypothesis =>
      rw [distinct] at kept
      split at kept
      · exact inductionHypothesis kept
      · rename_i unseen
        rcases List.mem_cons.mp kept with rfl | further
        · exact fun known => unseen (List.contains_iff_mem.mpr known)
        · exact fun known => inductionHypothesis further (List.mem_cons_of_mem _ known)

theorem pairwise_distinct
    (seen : List Nat)
    (artifacts : List Artifact) :
    (distinct seen artifacts).Pairwise fun earlier later =>
      later.identity ≠ earlier.identity := by
  induction artifacts generalizing seen with
  | nil => exact List.Pairwise.nil
  | cons first rest inductionHypothesis =>
      rw [distinct]
      split
      · exact inductionHypothesis seen
      · refine List.pairwise_cons.mpr ⟨fun later kept same => ?_, inductionHypothesis _⟩
        exact identity_not_mem_of_mem_distinct kept (same ▸ List.mem_cons_self)

/-- No two candidates of a search have the same identity. -/
theorem pairwise_order :
    (order rules group current).Pairwise fun earlier later =>
      later.identity ≠ earlier.identity :=
  pairwise_distinct [] _

end Candidate
end HouseStyle
