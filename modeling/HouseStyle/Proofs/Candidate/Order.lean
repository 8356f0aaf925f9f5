import HouseStyle.Proofs.Candidate.Rank
import HouseStyle.Proofs.Text.Cutting
import HouseStyle.Proofs.Trees.Fetch
import Mathlib.Data.List.Dedup

/-!
# The list of candidates

A search looks at the current artifact and at every other member of the group
once, apart from build output that lies elsewhere.  Where identities tell the
artifacts apart, an artifact has one place: its bucket, by how its folders relate
to those of the current artifact, and its first position in the group.  The
candidates after the current artifact stand in the order of their places.
-/

namespace HouseStyle
namespace Candidate

/-- An artifact lies directly in one folder, and that is one with build output. -/
def LiesInBuildOutput (rules : Rules) (artifact : Artifact) : Prop :=
  ∃ folder, artifact.folders = [folder] ∧
    ∃ name ∈ rules.buildFolders, Text.lower name.toList = Text.lower folder.toList

theorem isBuildOutput_iff {rules : Rules} {artifact : Artifact} :
    rules.isBuildOutput artifact.folders = true ↔ LiesInBuildOutput rules artifact := by
  unfold Rules.isBuildOutput LiesInBuildOutput
  split
  · rename_i folder only
    simp [only, Text.sameIgnoringCase_iff]
  · rename_i several
    constructor
    · intro found
      cases found
    · rintro ⟨folder, only, -⟩
      exact absurd only (several folder)

instance (rules : Rules) (artifact : Artifact) : Decidable (LiesInBuildOutput rules artifact) :=
  decidable_of_iff _ isBuildOutput_iff

/-- How near the folders of an artifact are to those of the current one: the same, further down
or elsewhere. -/
def bucketOf (current artifact : Artifact) : Nat :=
  if artifact.folders = current.folders then 1
  else if current.folders <+: artifact.folders then 2
  else 3

/-- The bucket of a member of the group and its first position there. -/
def placeOf (group : Group) (current artifact : Artifact) : Rank :=
  toLex (bucketOf current artifact, group.artifacts.idxOf artifact)

/-- A member of the group in the folders of the current artifact, in folders below, or outside of
build output. -/
def Belongs
    (rules : Rules)
    (group : Group)
    (current artifact : Artifact) : Prop :=
  artifact ∈ group.artifacts ∧
    (artifact.folders = current.folders ∨
      (∃ further, further ≠ [] ∧ artifact.folders = current.folders ++ further) ∨
      ¬ LiesInBuildOutput rules artifact)

variable
  {rules : Rules}
  {group : Group}
  {current artifact : Artifact}

/-- Two members of a list stand in it one way or the other. -/
theorem pair_sublist_or_pair_sublist
    {α : Type}
    {items : List α}
    {first second : α}
    (firstListed : first ∈ items)
    (secondListed : second ∈ items)
    (different : first ≠ second) :
    [first, second].Sublist items ∨ [second, first].Sublist items := by
  obtain ⟨before, after, rfl⟩ := List.append_of_mem firstListed
  rcases List.mem_append.mp secondListed with earlier | later
  · right
    have tail : [first].Sublist (first :: after) :=
      List.singleton_sublist.mpr List.mem_cons_self
    exact (List.singleton_sublist.mpr earlier).append tail
  · left
    have further := (List.mem_cons.mp later).resolve_left different.symm
    have part := (List.singleton_sublist.mpr further).cons_cons first
    exact part.trans (List.sublist_append_right before _)

/-! ## The place of an artifact -/

theorem idxOf_le_of_getElem?
    {position : Nat}
    (member : group.artifacts[position]? = some artifact) :
    group.artifacts.idxOf artifact ≤ position := by
  obtain ⟨bound, found⟩ := List.getElem?_eq_some_iff.mp member
  by_contra later
  have missed := List.not_of_lt_findIdx (Nat.lt_of_not_le later)
  simp [found] at missed

/-- A member of the group comes up at no rank below its place. -/
theorem placeOf_le_of_hasRank
    {rank : Rank}
    (other : artifact ≠ current)
    (comesUp : HasRank rules group current artifact rank) :
    placeOf group current artifact ≤ rank := by
  have le_of {bucket position : Nat}
      (near : bucketOf current artifact ≤ bucket)
      (member : group.artifacts[position]? = some artifact) :
      placeOf group current artifact ≤ toLex (bucket, position) := by
    refine Prod.Lex.toLex_le_toLex.mpr ?_
    rcases Nat.lt_or_eq_of_le near with nearer | same
    · exact .inl nearer
    · exact .inr ⟨same, idxOf_le_of_getElem? member⟩
  cases comesUp with
  | current => exact absurd rfl other
  | beside member same => exact le_of (by rw [bucketOf, if_pos same]) member
  | @below position _ further member extended strictly =>
      refine le_of ?_ member
      have below : current.folders <+: artifact.folders := ⟨further, extended.symm⟩
      rw [bucketOf, if_pos below]
      split <;> omega
  | elsewhere member authored =>
      refine le_of ?_ member
      unfold bucketOf
      split
      · omega
      · split <;> omega

/-- A member of the group that belongs to the candidates comes up at its place. -/
theorem hasRank_placeOf
    (belongs : Belongs rules group current artifact) :
    HasRank rules group current artifact (placeOf group current artifact) := by
  obtain ⟨present, near⟩ := belongs
  have member := List.getElem?_idxOf present
  unfold placeOf bucketOf
  split
  · rename_i same
    exact .beside member same
  · rename_i different
    split
    · rename_i below
      obtain ⟨further, extended⟩ := below
      refine .below member extended.symm ?_
      rintro rfl
      exact different (by rw [← extended, List.append_nil])
    · rename_i notBelow
      refine .elsewhere member (Bool.eq_false_iff.mpr fun output => ?_)
      rcases near with same | ⟨further, -, extended⟩ | authored
      · exact different same
      · exact notBelow ⟨further, extended.symm⟩
      · exact authored (isBuildOutput_iff.mp output)

theorem belongs_of_hasRank
    {rank : Rank}
    (other : artifact ≠ current)
    (comesUp : HasRank rules group current artifact rank) :
    Belongs rules group current artifact := by
  cases comesUp with
  | current => exact absurd rfl other
  | beside member same => exact ⟨List.mem_of_getElem? member, .inl same⟩
  | below member extended strictly =>
      exact ⟨List.mem_of_getElem? member, .inr (.inl ⟨_, strictly, extended⟩)⟩
  | elsewhere member authored =>
      refine ⟨List.mem_of_getElem? member, .inr (.inr fun output => ?_)⟩
      rw [isBuildOutput_iff.mpr output] at authored
      cases authored

theorem mem_of_hasRank
    {rank : Rank}
    (comesUp : HasRank rules group current artifact rank) :
    artifact ∈ current :: group.artifacts := by
  by_cases same : artifact = current
  · exact List.mem_cons.mpr (.inl same)
  · exact List.mem_cons_of_mem current (belongs_of_hasRank same comesUp).1

section ToldApart

variable (apart : Artifact.ToldApart (current :: group.artifacts) (current :: group.artifacts))

include apart

/-- Where identities tell artifacts apart, an artifact besides the current one is a candidate at
its place and at no other rank. -/
theorem isCandidate_iff
    {rank : Rank}
    (other : artifact ≠ current) :
    IsCandidate rules group current artifact rank ↔
      Belongs rules group current artifact ∧ rank = placeOf group current artifact := by
  constructor
  · rintro ⟨comesUp, lowest⟩
    have belongs := belongs_of_hasRank other comesUp
    have below := lowest artifact _ (hasRank_placeOf belongs) rfl
    exact ⟨belongs, le_antisymm below (placeOf_le_of_hasRank other comesUp)⟩
  · rintro ⟨belongs, rfl⟩
    refine ⟨hasRank_placeOf belongs, fun another lower comesUp same => ?_⟩
    have present := List.mem_cons_of_mem current belongs.1
    obtain rfl := apart another (mem_of_hasRank comesUp) artifact present same
    exact placeOf_le_of_hasRank other comesUp

theorem mem_order_iff (other : artifact ≠ current) :
    artifact ∈ order rules group current ↔ Belongs rules group current artifact := by
  rw [← map_fst_ranked, List.mem_map]
  constructor
  · rintro ⟨⟨candidate, rank⟩, ranked, rfl⟩
    exact ((isCandidate_iff apart other).mp (mem_ranked_iff.mp ranked)).1
  · intro belongs
    have candidate := (isCandidate_iff apart other).mpr ⟨belongs, rfl⟩
    exact ⟨(artifact, _), mem_ranked_iff.mpr candidate, rfl⟩

/-- The candidates besides the current one stand in the order of their places. -/
theorem pairwise_placeOf_order :
    (order rules group current).Pairwise fun earlier later =>
      earlier ≠ current → later ≠ current →
        placeOf group current earlier < placeOf group current later := by
  rw [← map_fst_ranked, List.pairwise_map]
  refine (pairwise_ranked rules group current).imp_of_mem ?_
  intro earlier later earlierRanked laterRanked increasing earlierOther laterOther
  have earlierPlace := ((isCandidate_iff apart earlierOther).mp (mem_ranked_iff.mp earlierRanked)).2
  have laterPlace := ((isCandidate_iff apart laterOther).mp (mem_ranked_iff.mp laterRanked)).2
  rwa [← earlierPlace, ← laterPlace]

/-- Of two candidates besides the current one, that with the lower place comes first. -/
theorem sublist_order_iff
    {first second : Artifact}
    (firstListed : first ∈ order rules group current)
    (secondListed : second ∈ order rules group current)
    (firstOther : first ≠ current)
    (secondOther : second ≠ current) :
    [first, second].Sublist (order rules group current) ↔
      placeOf group current first < placeOf group current second := by
  have lower {one another : Artifact}
      (oneOther : one ≠ current)
      (anotherOther : another ≠ current)
      (before : [one, another].Sublist (order rules group current)) :
      placeOf group current one < placeOf group current another := by
    have increasing := (pairwise_placeOf_order apart).sublist before
    exact List.pairwise_pair.mp increasing oneOther anotherOther
  refine ⟨lower firstOther secondOther, fun nearer => ?_⟩
  have different : first ≠ second := by
    rintro rfl
    exact lt_irrefl _ nearer
  rcases pair_sublist_or_pair_sublist firstListed secondListed different with before | after
  · exact before
  · exact absurd nearer (lower secondOther firstOther after).asymm

end ToldApart

/-! ## The whole list -/

theorem nodup_map_identity_order :
    ((order rules group current).map Artifact.identity).Nodup := by
  rw [List.Nodup, List.pairwise_map]
  exact pairwise_order.imp Ne.symm

theorem head?_order : (order rules group current).head? = some current := rfl

theorem current_mem_order : current ∈ order rules group current :=
  List.mem_of_mem_head? head?_order

/-- What belongs to the candidates is all but build output that lies elsewhere. -/
theorem belongs_iff :
    Belongs rules group current artifact ↔
      artifact ∈ group.artifacts ∧
        ¬ (LiesInBuildOutput rules artifact ∧ ¬ current.folders <+: artifact.folders) := by
  have within : current.folders <+: artifact.folders ↔
      artifact.folders = current.folders ∨
        ∃ further, further ≠ [] ∧ artifact.folders = current.folders ++ further := by
    constructor
    · rintro ⟨further, extended⟩
      by_cases none : further = []
      · exact .inl (by rw [← extended, none, List.append_nil])
      · exact .inr ⟨further, none, extended.symm⟩
    · rintro (same | ⟨further, -, extended⟩)
      · exact same ▸ List.prefix_rfl
      · exact ⟨further, extended.symm⟩
  rw [Belongs, ← or_assoc, ← within]
  refine and_congr_right fun _ => ?_
  tauto

/--
Where identities tell artifacts apart, the candidates of a search have no
identity twice and start with the current artifact.  After it come exactly the
members of the group in its folders, in folders below or outside of build output,
in the order of their buckets and, within a bucket, of their first positions.  So
the candidates are the current artifact and the distinct members of the group
without build output that lies neither in the folders of the current artifact nor
below.
-/
theorem order_lists_candidates_by_place
    (rules : Rules)
    (group : Group)
    (current : Artifact)
    (apart : Artifact.ToldApart (current :: group.artifacts) (current :: group.artifacts)) :
    let candidates := order rules group current
    (candidates.map Artifact.identity).Nodup ∧
      candidates.head? = some current ∧
      (∀ artifact, artifact ≠ current →
        (artifact ∈ candidates ↔ Belongs rules group current artifact)) ∧
      (∀ first ∈ candidates, ∀ second ∈ candidates, first ≠ current → second ≠ current →
        ([first, second].Sublist candidates ↔
          placeOf group current first < placeOf group current second)) ∧
      candidates.Perm ((current :: group.artifacts).dedup.filter fun artifact =>
        ¬ (LiesInBuildOutput rules artifact ∧ ¬ current.folders <+: artifact.folders)) := by
  intro candidates
  refine ⟨nodup_map_identity_order, head?_order, fun artifact => mem_order_iff apart, ?_, ?_⟩
  · intro first firstListed second secondListed firstOther secondOther
    exact sublist_order_iff apart firstListed secondListed firstOther secondOther
  · have distinct : candidates.Nodup := nodup_map_identity_order.of_map
    rw [List.perm_ext_iff_of_nodup distinct ((List.nodup_dedup _).filter _)]
    intro artifact
    rw [List.mem_filter, List.mem_dedup, decide_eq_true_eq, List.mem_cons]
    by_cases same : artifact = current
    · subst same
      simp [candidates, current_mem_order]
    · rw [mem_order_iff apart same, belongs_iff]
      simp [same]

/-- A group that lists one artifact twice and build output apart. -/
def mixedGroup : Group where
  name := "Shop"
  artifacts :=
    [⟨1, "b/B.cs", ["b"], .inMemory "B"⟩, ⟨2, "a/s/C.cs", ["a", "s"], .inMemory "C"⟩,
      ⟨1, "b/B.cs", ["b"], .inMemory "B"⟩, ⟨3, "a/D.cs", ["a"], .inMemory "D"⟩,
      ⟨4, "Obj/E.cs", ["Obj"], .inMemory "E"⟩]

/-- An artifact of no group. -/
def foreignArtifact : Artifact := ⟨9, "a/X.cs", ["a"], .inMemory "X"⟩

theorem order_lists_candidates_by_place_sample :
    let rules : Rules := ⟨[], ["bin", "obj"]⟩
    let candidates := order rules mixedGroup foreignArtifact
    Artifact.ToldApart (foreignArtifact :: mixedGroup.artifacts)
        (foreignArtifact :: mixedGroup.artifacts) ∧
      candidates.map Artifact.identity = [9, 3, 2, 1] ∧
      candidates.Perm ((foreignArtifact :: mixedGroup.artifacts).dedup.filter fun artifact =>
        ¬ (LiesInBuildOutput rules artifact ∧
          ¬ foreignArtifact.folders <+: artifact.folders)) := by
  intro rules candidates
  have apart : Artifact.ToldApart (foreignArtifact :: mixedGroup.artifacts)
      (foreignArtifact :: mixedGroup.artifacts) := by
    unfold Artifact.ToldApart
    decide
  have listed := order_lists_candidates_by_place rules mixedGroup foreignArtifact apart
  exact ⟨apart, by decide +kernel, listed.2.2.2.2⟩

end Candidate
end HouseStyle
