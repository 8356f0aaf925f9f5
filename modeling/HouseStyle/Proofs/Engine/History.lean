import HouseStyle.Engine
import HouseStyle.Proofs.Search.Keeping
import HouseStyle.Proofs.Search.Nearest
import HouseStyle.Proofs.Search.Renumbering

/-!
# Inference has no memory

An engine keeps working memory, trees and the state of its preferences between
answers.  After any history of answers, some of them perhaps cut short, it gives
the answer that a new engine gives for a new copy of the group.
-/

namespace HouseStyle

variable {τ ω υ : Type}

namespace PreferenceStore

/-- The states that questions to a store can lead to. -/
inductive Reaches (store : PreferenceStore τ) (start : τ) : τ → Prop
  | start : store.Reaches start start
  | get
      {later : τ}
      (path key : String)
      (reached : store.Reaches start later) :
      store.Reaches start (store.get path key later).2

/-- From a state on, the store always gives the same value for a key at a path. -/
def IsFixed (store : PreferenceStore τ) (start : τ) : Prop :=
  ∀ later, store.Reaches start later → ∀ path key,
    (store.get path key later).1 = (store.get path key start).1

theorem inMemory_isFixed (properties : Properties) : inMemory.IsFixed properties := by
  intro later reached path key
  have unchanged : later = properties := by
    induction reached with
    | start => rfl
    | get _ _ _ same => exact same
  rw [unchanged]

end PreferenceStore

/-- A question to an engine, with the state of the world in which it is asked. -/
structure Call (ω : Type) where
  /-- The convention that is asked about. -/
  convention : Convention
  /-- The artifact that it is asked for. -/
  current : Artifact
  /-- The state of the world at the beginning. -/
  request : ω

/-- The same question about the copy of an artifact. -/
def Call.renumber (rename : Nat → Nat) (call : Call ω) : Call ω :=
  { call with current := call.current.renumber rename }

namespace Engine

variable
  (engine : Engine τ ω)
  (group : Group)

/-- The answer to a question, and what the engine keeps afterwards. -/
def answer
    (call : Call ω)
    (state : EngineState τ ω) : Except Failure (Inference Detail) × EngineState τ ω :=
  engine.infer call.convention group call.current { state with world := call.request }

/-- What the engine keeps after answers to some questions, one after the other. -/
def stateAfter
    (history : List (Call ω))
    (state : EngineState τ ω) : EngineState τ ω :=
  history.foldl (fun state call => (engine.answer group call state).2) state

end Engine

/-- What an engine keeps does not show: its preferences have only been asked for, and the trees
of some artifacts are those of their texts. -/
structure EngineState.IsSound
    (engine : Engine τ ω)
    (parser : Parser)
    (artifacts : List Artifact)
    (preferences : τ)
    (state : EngineState τ ω) : Prop where
  /-- The preferences have only been asked for. -/
  preferences : engine.store.Reaches preferences state.preferences
  /-- The trees are those of the texts. -/
  cells : state.cells.Faithful parser artifacts

namespace Engine

variable
  {engine : Engine τ ω}
  {parser : Parser}
  {artifacts : List Artifact}
  {preferences : τ}
  {group : Group}

/-! ## What one answer leaves behind -/

/-- A new engine has kept nothing, so it has nothing wrong. -/
theorem isSound_start
    (capacity : Nat)
    (world : ω) :
    (EngineState.start capacity preferences world).IsSound engine parser artifacts preferences where
  preferences := .start
  cells := by
    intro artifact _ tree? found
    cases found

theorem isSound_ask
    {state : EngineState τ ω}
    (sound : state.IsSound engine parser artifacts preferences)
    (path key : String) :
    (engine.ask path key state).2.IsSound engine parser artifacts preferences where
  preferences := sound.preferences.get path key
  cells := sound.cells

theorem isSound_configuredDetail
    {state : EngineState τ ω}
    (sound : state.IsSound engine parser artifacts preferences)
    (convention : Convention)
    (path : String) :
    (engine.configuredDetail convention path state).2.IsSound
      engine parser artifacts preferences := by
  cases convention with
  | backingFieldAdjacency => exact isSound_ask sound path Convention.blankLineKey
  | underscoreFields | qualifyFieldAccess | qualifyPropertyAccess | qualifyMethodAccess
  | qualifyEventAccess | usingPlacement => exact sound

/-- A search keeps trees only as the parser gives them. -/
theorem isSound_searchFor
    {state : EngineState τ ω}
    {current : Artifact}
    (parses : engine.world.Parses parser)
    (offDisk : ∀ artifact ∈ artifacts, artifact.IsOffDisk)
    (apart : Artifact.ToldApart artifacts (current :: group.artifacts))
    (sound : state.IsSound engine parser artifacts preferences)
    (convention : Convention) :
    (engine.searchFor convention group current state).2.IsSound
      engine parser artifacts preferences where
  preferences := sound.preferences
  cells := Search.faithful_scan parses offDisk _ (apart.of_subset Candidate.order_subset) [] _
    sound.cells

/-- No answer breaks the invariant, whether it takes a search or not. -/
theorem isSound_infer
    {state : EngineState τ ω}
    {current : Artifact}
    (parses : engine.world.Parses parser)
    (offDisk : ∀ artifact ∈ artifacts, artifact.IsOffDisk)
    (apart : Artifact.ToldApart artifacts (current :: group.artifacts))
    (sound : state.IsSound engine parser artifacts preferences)
    (convention : Convention) :
    (engine.infer convention group current state).2.IsSound
      engine parser artifacts preferences := by
  have asked := isSound_ask sound current.path convention.optionKey
  rw [infer]
  dsimp only
  split
  · exact sound
  · split
    · exact asked
    · split
      · exact isSound_searchFor parses offDisk apart asked convention
      · exact isSound_configuredDetail asked convention current.path

/-- Any history of answers leaves an engine sound. -/
theorem isSound_stateAfter
    (parses : engine.world.Parses parser)
    (offDisk : ∀ artifact ∈ artifacts, artifact.IsOffDisk)
    (history : List (Call ω))
    (apart : Artifact.ToldApart artifacts (history.map Call.current ++ group.artifacts))
    {state : EngineState τ ω}
    (sound : state.IsSound engine parser artifacts preferences) :
    (engine.stateAfter group history state).IsSound engine parser artifacts preferences := by
  induction history generalizing state with
  | nil => exact sound
  | cons call rest inductionHypothesis =>
      have callApart : Artifact.ToldApart artifacts (call.current :: group.artifacts) :=
        apart.of_subset (List.cons_subset_cons _ (List.subset_append_right _ _))
      have restApart := apart.of_subset (List.subset_cons_self call.current _)
      rw [stateAfter, List.foldl_cons]
      apply inductionHypothesis restApart
      apply isSound_infer parses offDisk callApart
      exact ⟨sound.preferences, sound.cells⟩

/-! ## What an answer depends on -/

theorem ask_eq_of_isFixed
    {state : EngineState τ ω}
    (fixed : engine.store.IsFixed preferences)
    (sound : state.IsSound engine parser artifacts preferences)
    (path key : String) :
    (engine.ask path key state).1 = (engine.store.get path key preferences).1 :=
  fixed state.preferences sound.preferences path key

/-- In a sound state a search ends as one that reads every artifact afresh. -/
theorem searchFor_eq_settle
    {state : EngineState τ ω}
    {current : Artifact}
    (parses : engine.world.Parses parser)
    (never : engine.world.NeverWithdraws state.world)
    (offDisk : ∀ artifact ∈ artifacts, artifact.IsOffDisk)
    (inside : current :: group.artifacts ⊆ artifacts)
    (apart : Artifact.ToldApart artifacts (current :: group.artifacts))
    (sound : state.IsSound engine parser artifacts preferences)
    (convention : Convention) :
    (engine.searchFor convention group current state).1 =
      Search.settle
        (Search.reading convention.classifier engine.rules (Artifact.answer parser)) []
        (Candidate.order engine.rules group current) := by
  apply Search.scan_eq_settle
  exact Search.isAnswered_of_neverWithdraws parses never offDisk _
    (List.Subset.trans Candidate.order_subset inside)
    (apart.of_subset Candidate.order_subset) .start sound.cells

/-- The detail of a stated preference depends on one more preference alone. -/
theorem configuredDetail_congr
    {other : Engine τ υ}
    {state : EngineState τ ω}
    {otherState : EngineState τ υ}
    (convention : Convention)
    {path : String}
    (sameValue : (engine.ask path Convention.blankLineKey state).1 =
      (other.ask path Convention.blankLineKey otherState).1) :
    (engine.configuredDetail convention path state).1 =
      (other.configuredDetail convention path otherState).1 := by
  cases convention with
  | backingFieldAdjacency => simp only [configuredDetail, sameValue]
  | underscoreFields | qualifyFieldAccess | qualifyPropertyAccess | qualifyMethodAccess
  | qualifyEventAccess | usingPlacement => rfl

theorem configuredDetail_eq_of_isFixed
    {state other : EngineState τ ω}
    {others : List Artifact}
    (fixed : engine.store.IsFixed preferences)
    (sound : state.IsSound engine parser artifacts preferences)
    (otherSound : other.IsSound engine parser others preferences)
    (convention : Convention)
    (path : String) :
    (engine.configuredDetail convention path state).1 =
      (engine.configuredDetail convention path other).1 := by
  apply configuredDetail_congr
  rw [ask_eq_of_isFixed fixed sound, ask_eq_of_isFixed fixed otherSound]

/-- An answer depends on the preferences asked for and on the search alone. -/
theorem infer_congr
    {other : Engine τ υ}
    {state : EngineState τ ω}
    {otherState : EngineState τ υ}
    {copy : Group}
    {current twin : Artifact}
    {convention : Convention}
    (samePath : twin.path = current.path)
    (sameValue : (engine.ask current.path convention.optionKey state).1 =
      (other.ask current.path convention.optionKey otherState).1)
    (sameDetail :
      (engine.configuredDetail convention current.path
          (engine.ask current.path convention.optionKey state).2).1 =
        (other.configuredDetail convention current.path
          (other.ask current.path convention.optionKey otherState).2).1)
    (sameSearch :
      (engine.searchFor convention group current
          (engine.ask current.path convention.optionKey state).2).1 =
        (other.searchFor convention copy twin
          (other.ask current.path convention.optionKey otherState).2).1) :
    (engine.infer convention group current state).1 =
      (other.infer convention copy twin otherState).1 := by
  simp only [infer, samePath, ← sameValue]
  split
  · rfl
  · split
    · rfl
    · split
      · exact sameSearch
      · simp only [sameDetail]

/-- The copies of artifacts are told apart if the artifacts are. -/
theorem toldApart_map_renumber
    {rename : Nat → Nat}
    (injective : Function.Injective rename)
    (apart : Artifact.ToldApart artifacts artifacts) :
    Artifact.ToldApart (artifacts.map (Artifact.renumber rename))
      (artifacts.map (Artifact.renumber rename)) := by
  intro copy inside twin present same
  obtain ⟨artifact, artifactInside, rfl⟩ := List.mem_map.mp inside
  obtain ⟨other, otherPresent, rfl⟩ := List.mem_map.mp present
  rw [apart artifact artifactInside other otherPresent (injective same)]

/--
An uncancelled question has the same answer after any history as on a new engine
with a new copy of the group, whatever the capacity of the pools.
-/
theorem answer_eq_answer_afresh
    (engine : Engine τ ω)
    (parser : Parser)
    (preferences : τ)
    (parses : engine.world.Parses parser)
    (fixed : engine.store.IsFixed preferences)
    (group : Group)
    (history : List (Call ω))
    (call : Call ω)
    (uncancelled : engine.world.NeverWithdraws call.request)
    (offDisk : ∀ artifact ∈ call.current :: group.artifacts, artifact.IsOffDisk)
    (apart : Artifact.ToldApart (call.current :: group.artifacts)
      (history.map Call.current ++ call.current :: group.artifacts))
    (rename : Nat → Nat)
    (injective : Function.Injective rename)
    (capacity otherCapacity : Nat)
    (world otherWorld : ω) :
    (engine.answer group call
        (engine.stateAfter group history (.start capacity preferences world))).1 =
      (engine.answer (group.renumber rename) (call.renumber rename)
        (.start otherCapacity preferences otherWorld)).1 := by
  have selfApart := apart.of_subset (List.subset_append_right _ _)
  have historyApart : Artifact.ToldApart (call.current :: group.artifacts)
      (history.map Call.current ++ group.artifacts) :=
    apart.of_subset (List.append_subset.mpr ⟨List.subset_append_left _ _,
      List.Subset.trans (List.subset_cons_self _ _) (List.subset_append_right _ _)⟩)
  have copiesOffDisk : ∀ copy ∈ (call.current :: group.artifacts).map (Artifact.renumber rename),
      copy.IsOffDisk := by
    intro copy present
    obtain ⟨artifact, inside, rfl⟩ := List.mem_map.mp present
    exact offDisk artifact inside
  have copiesApart : Artifact.ToldApart
      ((call.current :: group.artifacts).map (Artifact.renumber rename))
      (call.current.renumber rename :: (group.renumber rename).artifacts) :=
    toldApart_map_renumber injective selfApart
  have kept : (engine.stateAfter group history (.start capacity preferences world)).IsSound
      engine parser (call.current :: group.artifacts) preferences :=
    isSound_stateAfter parses offDisk history historyApart (isSound_start capacity world)
  have sound : ({ engine.stateAfter group history (.start capacity preferences world) with
      world := call.request } : EngineState τ ω).IsSound engine parser
        (call.current :: group.artifacts) preferences :=
    ⟨kept.preferences, kept.cells⟩
  have fresh : (EngineState.start otherCapacity preferences call.request).IsSound engine parser
      ((call.current :: group.artifacts).map (Artifact.renumber rename)) preferences :=
    isSound_start otherCapacity call.request
  refine infer_congr rfl ?_ ?_ ?_
  · rw [ask_eq_of_isFixed fixed sound]
    exact (ask_eq_of_isFixed fixed fresh _ _).symm
  · exact configuredDetail_eq_of_isFixed fixed (isSound_ask sound _ _) (isSound_ask fresh _ _) _ _
  · calc
      _ = Search.settle
            (Search.reading call.convention.classifier engine.rules (Artifact.answer parser)) []
            (Candidate.order engine.rules group call.current) :=
        searchFor_eq_settle parses uncancelled offDisk (List.Subset.refl _) selfApart
          (isSound_ask sound _ _) _
      _ = Search.settle
            (Search.reading call.convention.classifier engine.rules (Artifact.answer parser)) []
            (Candidate.order engine.rules (group.renumber rename)
              (call.current.renumber rename)) := by
        rw [Candidate.order_renumber injective, Search.settle_map_renumber fun _ => rfl]
      _ = _ := by
        symm
        exact searchFor_eq_settle parses uncancelled copiesOffDisk (List.Subset.refl _)
          copiesApart (isSound_ask fresh _ _) _

/-- An engine without stated preferences whose parser knows one text. -/
def sampleEngine : Engine Properties DiskState where
  store := .inMemory
  rules := .none
  world := .onDisk fun _ _ => .ok Convention.sampleTree

theorem answer_eq_answer_afresh_sample :
    let current : Artifact := ⟨3, "app/Main.cs", ["app"], .unavailable⟩
    let member : Artifact := ⟨0, "lib/Far.cs", ["lib"], .inMemory Convention.sampleTree.source⟩
    let request : DiskState := ⟨⟨[], []⟩, false⟩
    let call : Call DiskState := ⟨.qualifyFieldAccess, current, request⟩
    let history : List (Call DiskState) :=
      [⟨.underscoreFields, member, request⟩, { call with request := ⟨⟨[], []⟩, true⟩ }, call]
    let kept := sampleEngine.stateAfter Search.sampleGroup history (.start 1 .empty request)
    kept.cells.length = 4 ∧
      (sampleEngine.answer Search.sampleGroup call kept).1 =
        (sampleEngine.answer (Search.sampleGroup.renumber (· + 10)) (call.renumber (· + 10))
          (.start 0 .empty request)).1 := by
  intro current member request call history kept
  refine ⟨by decide +kernel, ?_⟩
  exact answer_eq_answer_afresh sampleEngine (fun _ _ => .ok Convention.sampleTree) .empty
    (World.onDisk_parses _) (PreferenceStore.inMemory_isFixed _) Search.sampleGroup history call
    (World.onDisk_neverWithdraws _ rfl)
    (by simp [call, current, Search.sampleGroup, Artifact.IsOffDisk])
    (by unfold Artifact.ToldApart; decide)
    (· + 10) (fun _ _ same => Nat.add_right_cancel same) 1 0 request request

end Engine
end HouseStyle
