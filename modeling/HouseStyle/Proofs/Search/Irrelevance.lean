import HouseStyle.Proofs.Search.Keeping
import HouseStyle.Proofs.Search.Nearest

/-!
# What cannot influence a search

An artifact that a search cannot read leaves no trace in its result, wherever it
stands in the group.  Once there is evidence in the folder of the current
artifact or below, nothing outside that folder counts either.
-/

namespace HouseStyle

open Syntax

variable {δ σ ω υ : Type}

namespace Candidate

/-- The artifact lives in the given folders or below them. -/
def isWithin (folders : List String) (artifact : Artifact) : Bool :=
  folders.isPrefixOf artifact.folders

/-! ## Distinct artifacts -/

theorem distinct_sublist
    (seen : List Nat)
    (artifacts : List Artifact) :
    (distinct seen artifacts).Sublist artifacts := by
  induction artifacts generalizing seen with
  | nil => exact List.Sublist.slnil
  | cons artifact rest inductionHypothesis =>
      rw [distinct]
      split
      · exact (inductionHypothesis seen).cons artifact
      · exact (inductionHypothesis _).cons_cons artifact

theorem distinct_isPrefix_append
    (seen : List Nat)
    (artifacts more : List Artifact) :
    distinct seen artifacts <+: distinct seen (artifacts ++ more) := by
  induction artifacts generalizing seen with
  | nil => exact List.nil_prefix
  | cons artifact rest inductionHypothesis =>
      rw [List.cons_append, distinct, distinct]
      split
      · exact inductionHypothesis seen
      · exact (List.prefix_cons_inj artifact).mpr (inductionHypothesis _)

/-- Of each identity that has not been seen, one artifact is kept. -/
theorem exists_mem_distinct
    {seen : List Nat}
    {artifacts : List Artifact}
    {artifact : Artifact}
    (member : artifact ∈ artifacts)
    (unseen : artifact.identity ∉ seen) :
    ∃ kept ∈ distinct seen artifacts, kept.identity = artifact.identity := by
  induction artifacts generalizing seen with
  | nil => cases member
  | cons first rest inductionHypothesis =>
      rw [distinct]
      split
      · rename_i skipped
        rcases List.mem_cons.mp member with rfl | further
        · exact absurd (List.contains_iff_mem.mp skipped) unseen
        · exact inductionHypothesis further unseen
      · by_cases same : first.identity = artifact.identity
        · exact ⟨first, List.mem_cons_self, same⟩
        · have further : artifact ∈ rest := by
            refine (List.mem_cons.mp member).resolve_left ?_
            rintro rfl
            exact same rfl
          have stillUnseen : artifact.identity ∉ first.identity :: seen := by
            rw [List.mem_cons, not_or]
            exact ⟨Ne.symm same, unseen⟩
          obtain ⟨kept, present, sameIdentity⟩ := inductionHypothesis further stillUnseen
          exact ⟨kept, List.mem_cons_of_mem first present, sameIdentity⟩

/-- Artifacts can be dropped before or after the repetitions are, if identities tell those that
are dropped from those that are kept. -/
theorem filter_distinct
    {keeps : Artifact → Bool}
    {artifacts : List Artifact}
    (told : ∀ artifact ∈ artifacts, ∀ other ∈ artifacts,
      artifact.identity = other.identity → keeps artifact = keeps other)
    {seen otherSeen : List Nat}
    (sameSeen : ∀ artifact ∈ artifacts, keeps artifact = true →
      (artifact.identity ∈ seen ↔ artifact.identity ∈ otherSeen)) :
    (distinct seen artifacts).filter keeps = distinct otherSeen (artifacts.filter keeps) := by
  induction artifacts generalizing seen otherSeen with
  | nil => rfl
  | cons artifact rest inductionHypothesis =>
      have toldRest : ∀ one ∈ rest, ∀ other ∈ rest,
          one.identity = other.identity → keeps one = keeps other :=
        fun one present other otherPresent =>
          told one (List.mem_cons_of_mem _ present) other (List.mem_cons_of_mem _ otherPresent)
      have sameRest : ∀ one ∈ rest, keeps one = true →
          (one.identity ∈ seen ↔ one.identity ∈ otherSeen) :=
        fun one present => sameSeen one (List.mem_cons_of_mem _ present)
      rw [distinct]
      cases kept : keeps artifact with
      | true =>
          have same := sameSeen artifact List.mem_cons_self kept
          rw [List.filter_cons_of_pos kept, distinct]
          by_cases known : artifact.identity ∈ seen
          · rw [if_pos (List.contains_iff_mem.mpr known),
              if_pos (List.contains_iff_mem.mpr (same.mp known))]
            exact inductionHypothesis toldRest sameRest
          · have otherUnknown : artifact.identity ∉ otherSeen := fun present =>
              known (same.mpr present)
            rw [if_neg (mt List.contains_iff_mem.mp known),
              if_neg (mt List.contains_iff_mem.mp otherUnknown), List.filter_cons_of_pos kept]
            refine congrArg (artifact :: ·) (inductionHypothesis toldRest ?_)
            intro one present keepsOne
            rw [List.mem_cons, List.mem_cons, sameRest one present keepsOne]
      | false =>
          have dropped : ¬keeps artifact = true := Bool.eq_false_iff.mp kept
          rw [List.filter_cons_of_neg dropped]
          split
          · exact inductionHypothesis toldRest sameRest
          · rw [List.filter_cons_of_neg dropped]
            -- The identity that has now been seen is that of no artifact that is kept.
            refine inductionHypothesis toldRest fun one present keepsOne => ?_
            have differs : one.identity ≠ artifact.identity := by
              intro same
              have alike := told one (List.mem_cons_of_mem _ present) artifact List.mem_cons_self same
              rw [keepsOne, kept] at alike
              cases alike
            rw [List.mem_cons, or_iff_right differs]
            exact sameRest one present keepsOne

/-! ## Groups with the same artifacts of a kind -/

variable
  {rules : Rules}
  {group other : Group}
  {current : Artifact}

theorem passes_subset : passes rules group current ⊆ current :: group.artifacts := by
  intro artifact present
  rw [passes, List.mem_cons, List.mem_append, List.mem_append] at present
  rcases present with rfl | (beside | below) | elsewhere
  · exact List.mem_cons_self
  · exact List.mem_cons_of_mem _ (List.mem_of_mem_filter beside)
  · exact List.mem_cons_of_mem _ (List.mem_of_mem_filter below)
  · exact List.mem_cons_of_mem _ (List.mem_of_mem_filter elsewhere)

/-- The candidates of a kind depend on the artifacts of that kind alone. -/
theorem filter_passes_congr
    {keeps : Artifact → Bool}
    (same : group.artifacts.filter keeps = other.artifacts.filter keeps) :
    (passes rules group current).filter keeps = (passes rules other current).filter keeps := by
  have samePass (chosen : Artifact → Bool) :
      (group.artifacts.filter chosen).filter keeps =
        (other.artifacts.filter chosen).filter keeps := by
    rw [List.filter_comm, same, List.filter_comm]
  simp only [passes, List.filter_cons, List.filter_append, samePass]

theorem filter_order
    {keeps : Artifact → Bool}
    (apart : Artifact.ToldApart (current :: group.artifacts) (current :: group.artifacts)) :
    (order rules group current).filter keeps =
      distinct [] ((passes rules group current).filter keeps) := by
  refine filter_distinct ?_ fun _ _ _ => Iff.rfl
  intro artifact present twin twinPresent same
  rw [apart artifact (passes_subset present) twin (passes_subset twinPresent) same]

/-! ## Candidates within the folder of the current artifact -/

/-- The candidates that live in the folder of the current artifact or below it. -/
def nearby (group : Group) (current : Artifact) : List Artifact :=
  distinct []
    (current ::
      ((group.artifacts.filter fun artifact => artifact.folders == current.folders) ++
        (group.artifacts.filter fun artifact => isBelow current.folders artifact)))

theorem nearby_isPrefix_order : nearby group current <+: order rules group current := by
  have first := distinct_isPrefix_append []
    (current ::
      ((group.artifacts.filter fun artifact => artifact.folders == current.folders) ++
        (group.artifacts.filter fun artifact => isBelow current.folders artifact)))
    (group.artifacts.filter fun artifact => !rules.isBuildOutput artifact.folders)
  rw [List.cons_append] at first
  exact first

theorem isWithin_iff
    {folders : List String}
    {artifact : Artifact} :
    isWithin folders artifact = true ↔
      artifact.folders = folders ∨ isBelow folders artifact = true := by
  rw [isWithin, List.isPrefixOf_iff_prefix, isBelow_iff]
  constructor
  · rintro ⟨further, extended⟩
    cases further with
    | nil => exact .inl (by rw [← extended, List.append_nil])
    | cons folder more => exact .inr ⟨folder :: more, extended.symm, List.cons_ne_nil _ _⟩
  · rintro (same | ⟨further, extended, -⟩)
    · exact same ▸ List.prefix_refl _
    · exact ⟨further, extended.symm⟩

theorem mem_nearby
    {artifact : Artifact}
    (present : artifact ∈ nearby group current) :
    artifact ∈ current :: group.artifacts ∧ isWithin current.folders artifact = true := by
  have listed := (distinct_sublist _ _).subset present
  rw [List.mem_cons, List.mem_append, List.mem_filter, List.mem_filter, beq_iff_eq] at listed
  rcases listed with rfl | ⟨member, same⟩ | ⟨member, below⟩
  · exact ⟨List.mem_cons_self, isWithin_iff.mpr (.inl rfl)⟩
  · exact ⟨List.mem_cons_of_mem _ member, isWithin_iff.mpr (.inl same)⟩
  · exact ⟨List.mem_cons_of_mem _ member, isWithin_iff.mpr (.inr below)⟩

/-- Every artifact within the folder is a candidate there. -/
theorem mem_nearby_of_isWithin
    {artifact : Artifact}
    (apart : Artifact.ToldApart (current :: group.artifacts) (current :: group.artifacts))
    (member : artifact ∈ current :: group.artifacts)
    (within : isWithin current.folders artifact = true) :
    artifact ∈ nearby group current := by
  have listed : artifact ∈ current ::
      ((group.artifacts.filter fun artifact => artifact.folders == current.folders) ++
        (group.artifacts.filter fun artifact => isBelow current.folders artifact)) := by
    rw [List.mem_cons, List.mem_append, List.mem_filter, List.mem_filter, beq_iff_eq]
    rcases List.mem_cons.mp member with isCurrent | inGroup
    · exact .inl isCurrent
    · rcases isWithin_iff.mp within with same | below
      · exact .inr (.inl ⟨inGroup, same⟩)
      · exact .inr (.inr ⟨inGroup, below⟩)
  obtain ⟨kept, present, same⟩ := exists_mem_distinct listed List.not_mem_nil
  rwa [← apart kept (mem_nearby present).1 artifact member same]

/-- The candidates within the folder depend on the artifacts within it alone. -/
theorem nearby_congr
    (same : group.artifacts.filter (isWithin current.folders) =
      other.artifacts.filter (isWithin current.folders)) :
    nearby group current = nearby other current := by
  have samePass
      (chosen : Artifact → Bool)
      (within : ∀ artifact, chosen artifact = true → isWithin current.folders artifact = true) :
      group.artifacts.filter chosen = other.artifacts.filter chosen := by
    have absorbed (artifacts : List Artifact) :
        (artifacts.filter (isWithin current.folders)).filter chosen = artifacts.filter chosen := by
      rw [List.filter_filter]
      refine List.filter_congr fun artifact _ => ?_
      cases choice : chosen artifact with
      | false => rfl
      | true => exact within artifact choice
    rw [← absorbed group.artifacts, same, absorbed]
  rw [nearby, nearby,
    samePass _ fun artifact beside => isWithin_iff.mpr (.inl (beq_iff_eq.mp beside)),
    samePass _ fun artifact below => isWithin_iff.mpr (.inr below)]

end Candidate

namespace Search

open Candidate

/-! ## Results that do not change -/

section Settling

variable {readable? : Artifact → Option (Outcome δ)}

/-- A search that meets no failure comes to a result, and the paths in it are those of some of
the candidates, in their order. -/
theorem exists_settle_eq_ok
    (readable? : Artifact → Option (Outcome δ))
    (scanned : List String)
    (candidates : List Artifact) :
    ∃ (inference : Inference δ) (read : List Artifact),
      settle (fun artifact => .ok (readable? artifact)) scanned candidates = .ok inference ∧
        inference.scanned = scanned.reverse ++ read.map Artifact.path ∧
        read.Sublist candidates := by
  induction candidates generalizing scanned with
  | nil => exact ⟨_, [], rfl, (List.append_nil _).symm, List.Sublist.slnil⟩
  | cons candidate rest inductionHypothesis =>
      rw [settle]
      cases readable? candidate with
      | none =>
          obtain ⟨inference, read, settled, paths, inOrder⟩ := inductionHypothesis scanned
          exact ⟨inference, read, settled, paths, inOrder.cons candidate⟩
      | some outcome =>
          dsimp only
          split
          · exact ⟨_, [candidate], rfl, List.reverse_cons, List.singleton_sublist.mpr
              List.mem_cons_self⟩
          · obtain ⟨inference, read, settled, paths, inOrder⟩ :=
              inductionHypothesis (candidate.path :: scanned)
            refine ⟨inference, candidate :: read, settled, ?_, inOrder.cons_cons candidate⟩
            rw [paths, List.reverse_cons, List.append_assoc]
            rfl

/-- Candidates that cannot be read may as well be left out. -/
theorem settle_filter_isSome
    (scanned : List String)
    (candidates : List Artifact) :
    settle (fun artifact => .ok (readable? artifact)) scanned
        (candidates.filter fun artifact => (readable? artifact).isSome) =
      settle (fun artifact => .ok (readable? artifact)) scanned candidates := by
  induction candidates generalizing scanned with
  | nil => rfl
  | cons candidate rest inductionHypothesis =>
      cases readable : readable? candidate with
      | none =>
          rw [List.filter_cons_of_neg (by simp [readable]), inductionHypothesis, settle, readable]
      | some outcome =>
          rw [List.filter_cons_of_pos (by simp [readable]), settle, settle, readable]
          simp only [inductionHypothesis]

/-- Nothing counts after candidates with evidence among them. -/
theorem settle_append_of_evidence
    {candidates : List Artifact}
    {nearest : Artifact}
    {outcome : Outcome δ}
    (present : nearest ∈ candidates)
    (readable : readable? nearest = some outcome)
    (known : outcome.isKnown = true)
    (scanned : List String)
    (rest : List Artifact) :
    settle (fun artifact => .ok (readable? artifact)) scanned (candidates ++ rest) =
      settle (fun artifact => .ok (readable? artifact)) scanned candidates := by
  induction candidates generalizing scanned with
  | nil => cases present
  | cons candidate later inductionHypothesis =>
      rw [List.cons_append, settle, settle]
      rcases List.mem_cons.mp present with rfl | further
      · simp only [readable, known, if_true]
      · simp only [inductionHypothesis further]

theorem settle_congr
    {readings otherReadings : Artifact → Except Failure (Option (Outcome δ))}
    {candidates : List Artifact}
    (same : ∀ candidate ∈ candidates, readings candidate = otherReadings candidate)
    (scanned : List String) :
    settle readings scanned candidates = settle otherReadings scanned candidates := by
  induction candidates generalizing scanned with
  | nil => rfl
  | cons candidate rest inductionHypothesis =>
      have further := inductionHypothesis
        fun artifact present => same artifact (List.mem_cons_of_mem candidate present)
      rw [settle, settle, same candidate List.mem_cons_self]
      simp only [further]

end Settling

section Groups

variable
  [Scratch σ]
  {classifier : Classifier δ σ}
  {rules : Rules}
  {group other : Group}
  {current : Artifact}
  {retrieved otherRetrieved : Artifact → Option Tree}

/-- What a search reads from an artifact. -/
def eligibleOutcome?
    (classifier : Classifier δ σ)
    (rules : Rules)
    (retrieved : Artifact → Option Tree)
    (artifact : Artifact) : Option (Outcome δ) :=
  (eligibleTree? rules retrieved artifact).map classifier.outcome

/-- What a search over a group comes to if every question is answered. -/
def settleGroup
    (classifier : Classifier δ σ)
    (rules : Rules)
    (retrieved : Artifact → Option Tree)
    (group : Group)
    (current : Artifact) : Except Failure (Inference δ) :=
  settle (fun artifact => .ok (eligibleOutcome? classifier rules retrieved artifact)) []
    (order rules group current)

theorem run_eq_settleGroup
    {world : World ω}
    {state : SearchState σ ω}
    (answered : IsAnswered world classifier rules (fun artifact => .ok (retrieved artifact))
      (order rules group current) state.cells state.world) :
    (run world classifier rules group current state).1 =
      settleGroup classifier rules retrieved group current := by
  rw [run, scan_eq_settle [] state answered, funext reading_eq_map_eligibleTree?]
  rfl

/-- Groups with the same eligible artifacts in the same order have the same result. -/
theorem settleGroup_congr_of_eligible
    (apart : Artifact.ToldApart (current :: group.artifacts) (current :: group.artifacts))
    (otherApart : Artifact.ToldApart (current :: other.artifacts) (current :: other.artifacts))
    (same :
      (group.artifacts.filter fun artifact => (eligibleTree? rules retrieved artifact).isSome) =
        other.artifacts.filter fun artifact => (eligibleTree? rules retrieved artifact).isSome) :
    settleGroup classifier rules retrieved group current =
      settleGroup classifier rules retrieved other current := by
  have readable : (fun artifact => (eligibleOutcome? classifier rules retrieved artifact).isSome) =
      fun artifact => (eligibleTree? rules retrieved artifact).isSome := by
    funext artifact
    exact Option.isSome_map
  rw [settleGroup, settleGroup, ← settle_filter_isSome, readable, filter_order apart,
    filter_passes_congr same, ← filter_order otherApart, ← readable, settle_filter_isSome]

/-- With evidence within the folder of the current artifact, the candidates there settle a
search. -/
theorem settleGroup_eq_of_nearby
    {nearest : Artifact}
    {tree : Tree}
    (apart : Artifact.ToldApart (current :: group.artifacts) (current :: group.artifacts))
    (member : nearest ∈ current :: group.artifacts)
    (within : isWithin current.folders nearest = true)
    (eligible : eligibleTree? rules retrieved nearest = some tree)
    (known : classifier.outcome tree ≠ .unknown) :
    settleGroup classifier rules retrieved group current =
      settle (fun artifact => .ok (eligibleOutcome? classifier rules retrieved artifact)) []
        (nearby group current) := by
  have readable : eligibleOutcome? classifier rules retrieved nearest =
      some (classifier.outcome tree) := by
    rw [eligibleOutcome?, eligible, Option.map_some]
  have begins : nearby group current <+: order rules group current := nearby_isPrefix_order
  obtain ⟨rest, split⟩ := begins
  rw [settleGroup, ← split]
  exact settle_append_of_evidence (mem_nearby_of_isWithin apart member within) readable
    (Outcome.isKnown_iff.mpr known) [] rest

theorem eligibleOutcome?_congr
    {artifact : Artifact}
    (same : otherRetrieved artifact = retrieved artifact) :
    eligibleOutcome? classifier rules retrieved artifact =
      eligibleOutcome? classifier rules otherRetrieved artifact := by
  rw [eligibleOutcome?, eligibleOutcome?, eligibleTree?, eligibleTree?, same]

end Groups

/--
As long as no request is withdrawn and no retrieval fails fatally, two groups
whose eligible artifacts are the same, in the same order, have the same result;
so artifacts that are not eligible can stand anywhere or nowhere.  If there is
evidence in the folder of the current artifact or below, it is enough that the
groups have the same artifacts there; and only artifacts from there are read.
-/
theorem run_ignores_irrelevant
    [Scratch σ]
    (classifier : Classifier δ σ)
    (rules : Rules)
    (current : Artifact)
    (group other : Group)
    (retrieved otherRetrieved : Artifact → Option Tree)
    (world : World ω)
    (otherWorld : World υ)
    (state : SearchState σ ω)
    (otherState : SearchState σ υ)
    (apart : Artifact.ToldApart (current :: group.artifacts) (current :: group.artifacts))
    (otherApart : Artifact.ToldApart (current :: other.artifacts) (current :: other.artifacts))
    (answered : IsAnswered world classifier rules (fun artifact => .ok (retrieved artifact))
      (order rules group current) state.cells state.world)
    (otherAnswered : IsAnswered otherWorld classifier rules
      (fun artifact => .ok (otherRetrieved artifact))
      (order rules other current) otherState.cells otherState.world) :
    ((∀ artifact, otherRetrieved artifact = retrieved artifact) →
        (group.artifacts.filter fun artifact => (eligibleTree? rules retrieved artifact).isSome) =
          (other.artifacts.filter fun artifact =>
            (eligibleTree? rules retrieved artifact).isSome) →
        ∃ inference,
          (run world classifier rules group current state).1 = .ok inference ∧
            (run otherWorld classifier rules other current otherState).1 = .ok inference) ∧
      ((∀ artifact, isWithin current.folders artifact = true →
          otherRetrieved artifact = retrieved artifact) →
        group.artifacts.filter (isWithin current.folders) =
          other.artifacts.filter (isWithin current.folders) →
        (∃ nearest ∈ current :: group.artifacts, isWithin current.folders nearest = true ∧
          ∃ tree, eligibleTree? rules retrieved nearest = some tree ∧
            classifier.outcome tree ≠ .unknown) →
        ∃ (inference : Inference δ) (read : List Artifact),
          (run world classifier rules group current state).1 = .ok inference ∧
            (run otherWorld classifier rules other current otherState).1 = .ok inference ∧
            inference.scanned = read.map Artifact.path ∧
            ∀ artifact ∈ read, artifact ∈ current :: group.artifacts ∧
              isWithin current.folders artifact = true) := by
  rw [run_eq_settleGroup answered, run_eq_settleGroup otherAnswered]
  constructor
  · intro sameTrees sameEligible
    obtain rfl : otherRetrieved = retrieved := funext sameTrees
    rw [← settleGroup_congr_of_eligible apart otherApart sameEligible]
    obtain ⟨inference, -, settled, -⟩ := exists_settle_eq_ok
      (eligibleOutcome? classifier rules otherRetrieved) [] (order rules group current)
    exact ⟨inference, settled, settled⟩
  · rintro sameTrees sameArtifacts ⟨nearest, member, within, tree, eligible, known⟩
    have sameNearby := nearby_congr sameArtifacts
    have sameReadings (candidate : Artifact) (present : candidate ∈ nearby group current) :
        (.ok (eligibleOutcome? classifier rules retrieved candidate) :
            Except Failure (Option (Outcome δ))) =
          .ok (eligibleOutcome? classifier rules otherRetrieved candidate) :=
      congrArg Except.ok (eligibleOutcome?_congr (sameTrees candidate (mem_nearby present).2))
    have otherMember : nearest ∈ current :: other.artifacts := by
      have present := mem_nearby_of_isWithin apart member within
      rw [sameNearby] at present
      exact (mem_nearby present).1
    have otherEligible : eligibleTree? rules otherRetrieved nearest = some tree := by
      rw [← eligible, eligibleTree?, eligibleTree?, sameTrees nearest within]
    rw [settleGroup_eq_of_nearby apart member within eligible known,
      settleGroup_eq_of_nearby otherApart otherMember within otherEligible known, ← sameNearby,
      ← settle_congr sameReadings []]
    obtain ⟨inference, read, settled, paths, inOrder⟩ := exists_settle_eq_ok
      (eligibleOutcome? classifier rules retrieved) [] (nearby group current)
    exact ⟨inference, read, settled, settled, paths,
      fun artifact present => mem_nearby (inOrder.subset present)⟩

/-- Nothing that the sample world says about trees ever changes. -/
theorem isForetold_sampleWorld (artifacts : List Artifact) :
    IsForetold sampleWorld (fun artifact => .ok (sampleTrees artifact)) artifacts () [] where
  waits := fun _ _ => rfl
  kept := fun _ _ _ found => by cases found
  asked := fun artifact _ _ _ _ => ⟨.ok (sampleTrees artifact), rfl, rfl⟩

/-- An artifact with a text at hand in some folders. -/
def sampleArtifact (identity : Nat) (path : String) (folders : List String) : Artifact :=
  ⟨identity, path, folders, .inMemory Convention.sampleTree.source⟩

/-- The current artifact is build output itself, as is a neighbour; a folder below has evidence. -/
theorem run_ignores_irrelevant_sample :
    let rule := Convention.qualifyFieldAccess.classifier
    let rules : Rules := ⟨[], ["obj"]⟩
    let current : Artifact := ⟨3, "obj/Main.cs", ["obj"], .unavailable⟩
    let far := sampleArtifact 0 "lib/Far.cs" ["lib"]
    let low := sampleArtifact 1 "obj/sub/Low.cs" ["obj", "sub"]
    let beside := sampleArtifact 2 "obj/Beside.cs" ["obj"]
    let state : SearchState MemberTable Unit := ⟨.make 1, [], ()⟩
    let result := fun artifacts =>
      (run sampleWorld rule rules ⟨"sample", artifacts⟩ current state).1
    (∃ inference, result [far, beside, low, beside] = .ok inference ∧
        result [far, ⟨4, "doc/Gone.cs", ["doc"], .unavailable⟩, low] = .ok inference) ∧
      ∃ (inference : Inference Detail) (read : List Artifact),
        result [far, beside, low] = .ok inference ∧
          result [beside, sampleArtifact 5 "lib/New.cs" ["lib"], low] = .ok inference ∧
          inference.scanned = read.map Artifact.path ∧
          ∀ artifact ∈ read, artifact ∈ current :: [far, beside, low] ∧
            isWithin current.folders artifact = true := by
  intro rule rules current far low beside state result
  have answered (artifacts : List Artifact)
      (apart : Artifact.ToldApart (current :: artifacts) (current :: artifacts)) :
      IsAnswered sampleWorld rule rules (fun artifact => .ok (sampleTrees artifact))
        (order rules ⟨"sample", artifacts⟩ current) [] () :=
    isAnswered_of_isForetold _ order_subset (apart.of_subset order_subset) .start
      (isForetold_sampleWorld _)
  have eligible : eligibleTree? rules sampleTrees low = some Convention.sampleTree := by
    have included : rules.excludes low = false := by decide +kernel
    have authored : Generated.isGenerated Convention.sampleTree.source = false := by decide +kernel
    have retrieved : sampleTrees low = some Convention.sampleTree := rfl
    rw [eligibleTree?, included, retrieved, Option.filter_some, authored]
    rfl
  have known : rule.outcome Convention.sampleTree ≠ .unknown := by decide +kernel
  constructor
  · refine (run_ignores_irrelevant rule rules current _ _ sampleTrees sampleTrees sampleWorld
      sampleWorld state state ?_ ?_ (answered _ ?_) (answered _ ?_)).1 (fun _ => rfl)
      (by decide +kernel) <;>
    · unfold Artifact.ToldApart
      decide
  · refine (run_ignores_irrelevant rule rules current _ _ sampleTrees sampleTrees sampleWorld
      sampleWorld state state ?_ ?_ (answered _ ?_) (answered _ ?_)).2 (fun _ _ => rfl)
      (by decide +kernel) ⟨low, by simp, by decide, Convention.sampleTree, eligible, known⟩ <;>
    · unfold Artifact.ToldApart
      decide

end Search
end HouseStyle
