import HouseStyle.Proofs.Association
import HouseStyle.Proofs.Engine.History
import HouseStyle.Workspace

/-!
# Every file is read at most once

The artifacts of a project are those found when it was loaded.  The file of an
artifact is read when a search first fetches its tree, and what it holds then
counts from then on, whatever becomes of the file.  So an answer is that of a
search over a snapshot whose files may have been taken at different moments.
-/

namespace HouseStyle

open Syntax

variable {τ : Type}

/-! ## Loaded projects -/

/--
What is known of an artifact while a disk stands as it does: the tree of the text
that its file holds or that is at hand, and no tree if the file cannot be read.
-/
structure Artifact.LooksLike
    (parser : Parser)
    (disk : Disk)
    (artifact : Artifact)
    (outcome : Except Failure (Option Tree)) : Prop where
  readable : ∀ file text, artifact.content = .onDisk file → disk.read file = .ok text →
    outcome = lenient ((parser artifact.path text).map some)
  unreadable : ∀ file fault, artifact.content = .onDisk file → disk.read file = .error fault →
    outcome = .ok none
  atHand : ∀ text, artifact.content = .inMemory text →
    outcome = lenient ((parser artifact.path text).map some)
  missing : artifact.content = .unavailable → outcome = .ok none

theorem Artifact.looksLike_lenient_parse
    (parser : Parser)
    (disk : Disk)
    (artifact : Artifact) :
    artifact.LooksLike parser disk (lenient (artifact.parse parser disk)) where
  readable file text content readable := by
    simp only [Artifact.parse, Artifact.readText, content, readable]
  unreadable file fault content unreadable := by
    simp [Artifact.parse, Artifact.readText, content, unreadable, lenient, Failure.ofRead,
      Failure.isFatal]
  atHand text content := by
    simp only [Artifact.parse, Artifact.readText, content]
  missing content := by
    simp only [Artifact.parse, Artifact.readText, content, lenient]

/-- Identities tell the artifacts of one list apart, and from those of another. -/
theorem Artifact.ToldApart.append
    {artifacts others : List Artifact}
    (apart : ToldApart artifacts (artifacts ++ others))
    (othersApart : ToldApart others others) :
    ToldApart (artifacts ++ others) (artifacts ++ others) := by
  intro artifact inside other present same
  rcases List.mem_append.mp inside with mine | theirs
  · exact apart artifact mine other present same
  · rcases List.mem_append.mp present with otherMine | otherTheirs
    · exact (apart other otherMine artifact inside same.symm).symm
    · exact othersApart artifact theirs other otherTheirs same

namespace Workspace

theorem toldApart_artifactsAt (root paths : List String) :
    Artifact.ToldApart (artifactsAt root paths) (artifactsAt root paths) := by
  intro artifact inside other present same
  obtain ⟨⟨path, position⟩, listed, rfl⟩ := List.mem_map.mp inside
  obtain ⟨⟨otherPath, otherPosition⟩, otherListed, rfl⟩ := List.mem_map.mp present
  rw [List.mem_zipIdx_iff_getElem?] at listed otherListed
  change position = otherPosition at same
  subst same
  rw [listed] at otherListed
  cases otherListed
  rfl

theorem exists_root_of_load
    {disk : Disk}
    {path : Path}
    {group : Group}
    (loaded : load disk path = .ok group) :
    ∃ root, locate disk path = .ok root ∧ group = groupAt disk root := by
  unfold load at loaded
  cases located : locate disk path with
  | error failure =>
      rw [located] at loaded
      cases loaded
  | ok root =>
      rw [located] at loaded
      cases loaded
      exact ⟨root, rfl, rfl⟩

end Workspace

namespace Engine

/-- The engine for artifacts on disk. -/
def onDisk
    (store : PreferenceStore τ)
    (rules : Rules)
    (parser : Parser) : Engine τ DiskState where
  store := store
  rules := rules
  world := World.onDisk parser

/-- What can happen to a disk and an engine. -/
inductive Event where
  /-- An item of the disk changes. -/
  | change (path : Path) (action : Disk.Change)
  /-- The engine is asked what a convention is for an artifact. -/
  | ask (convention : Convention) (current : Artifact)

/-- The disk after an event. -/
def Event.disk (disk : Disk) : Event → Disk
  | change path action => disk.change path action
  | ask _ _ => disk

/-- The disk after some events. -/
def diskAfter (disk : Disk) (history : List Event) : Disk :=
  history.foldl Event.disk disk

/-- What a search would take the tree of an artifact to be: as kept, or else as parsed from the
file as it is now. -/
def view
    (parser : Parser)
    (state : EngineState τ DiskState)
    (artifact : Artifact) : Except Failure (Option Tree) :=
  match state.cells.lookup artifact.identity with
  | some tree? => .ok tree?
  | none => lenient (artifact.parse parser state.world.disk)

section Events

variable
  (engine : Engine τ DiskState)
  (group : Group)

/-- What the disk and the engine have become after an event. -/
def Event.apply (state : EngineState τ DiskState) : Event → EngineState τ DiskState
  | change path action =>
      { state with world := { state.world with disk := state.world.disk.change path action } }
  | ask convention current => (engine.infer convention group current state).2

/-- What the disk and the engine have become after some events. -/
def after
    (start : EngineState τ DiskState)
    (history : List Event) : EngineState τ DiskState :=
  history.foldl (Event.apply engine group) start

/-- A question takes a search, since no preference answers it. -/
def Searches
    (convention : Convention)
    (current : Artifact)
    (state : EngineState τ DiskState) : Prop :=
  current.path ≠ "" ∧
    ∃ value, (engine.ask current.path convention.optionKey state).1 = .ok value ∧
      value.bind (stated? convention) = none

/-- An event has the tree of an artifact, or finds that there is none: it is a question, and the
search for it fetches the tree. -/
def Event.Fetches
    (parser : Parser)
    (state : EngineState τ DiskState)
    (artifact : Artifact)
    (tree? : Option Tree) : Event → Prop
  | change _ _ => False
  | ask convention current =>
      engine.Searches convention current state ∧
        artifact ∈ Search.fetched convention.classifier engine.rules (view parser state)
          (Candidate.order engine.rules group current) ∧
        view parser state artifact = .ok tree?

/-- No question has had the tree of an artifact yet. -/
def Unfetched
    (parser : Parser)
    (start : EngineState τ DiskState)
    (history : List Event)
    (artifact : Artifact) : Prop :=
  ∀ before event tree?, before ++ [event] <+: history →
    ¬event.Fetches engine group parser (engine.after group start before) artifact tree?

end Events

/-! ## One question -/

section Question

variable
  {store : PreferenceStore τ}
  {rules : Rules}
  {parser : Parser}
  {preferences : τ}
  {group : Group}
  {state : EngineState τ DiskState}
  {artifacts : List Artifact}
  {current : Artifact}
  {convention : Convention}

theorem view_of_kept
    {artifact : Artifact}
    {tree? : Option Tree}
    (kept : state.cells.lookup artifact.identity = some tree?) :
    view parser state artifact = .ok tree? := by
  rw [view, kept]

theorem view_of_unknown
    {artifact : Artifact}
    (unknown : state.cells.lookup artifact.identity = none) :
    view parser state artifact = lenient (artifact.parse parser state.world.disk) := by
  rw [view, unknown]

theorem lenient_view (artifact : Artifact) :
    lenient (view parser state artifact) = view parser state artifact := by
  unfold view
  split
  · rfl
  · exact lenient_lenient _

/-- The view of an uncancelled state settles all that a search may ask. -/
theorem isForetold_view (waiting : state.world.cancelled = false) :
    Search.IsForetold (World.onDisk parser) (view parser state) artifacts state.world
      state.cells where
  waits := fun later reached => (World.onDisk_neverWithdraws parser waiting later reached).1
  kept := fun _ _ _ kept => view_of_kept kept
  asked := by
    intro artifact _ unknown later reached
    rw [World.eq_of_onDisk_reaches reached]
    exact ⟨_, rfl, (view_of_unknown unknown).symm⟩

theorem isForetold_ofTrees
    {trees : Artifact → Except Failure (Option Tree)}
    (taken : ∀ artifact, lenient (trees artifact) = trees artifact) :
    Search.IsForetold (World.ofTrees trees) trees artifacts () [] where
  waits := fun _ _ => rfl
  kept := by
    intro artifact _ tree? kept
    cases kept
  asked := fun artifact _ _ _ _ => ⟨trees artifact, rfl, taken artifact⟩

/-- An answer is that of a search over what the artifacts look like. -/
theorem infer_eq_infer_ofTrees
    (fixed : store.IsFixed preferences)
    (reached : store.Reaches preferences state.preferences)
    (waiting : state.world.cancelled = false)
    (inside : current :: group.artifacts ⊆ artifacts)
    (apart : Artifact.ToldApart artifacts artifacts)
    (capacity : Nat) :
    ((onDisk store rules parser).infer convention group current state).1 =
      (Engine.infer ⟨store, rules, .ofTrees (view parser state)⟩ convention group current
        (.start capacity preferences ())).1 := by
  have ordered : Candidate.order rules group current ⊆ artifacts :=
    List.Subset.trans Candidate.order_subset inside
  refine infer_congr rfl ?_ ?_ ?_
  · exact fixed _ reached _ _
  · apply configuredDetail_congr
    have stays := fixed _ (reached.get current.path convention.optionKey)
    have freshStays := fixed _
      (PreferenceStore.Reaches.start.get current.path convention.optionKey)
    exact (stays _ _).trans (freshStays _ _).symm
  · calc
      _ = Search.settle (Search.reading convention.classifier rules (view parser state)) []
            (Candidate.order rules group current) :=
        Search.scan_eq_settle _ _ (Search.isAnswered_of_isForetold _ ordered
          (apart.of_subset ordered) .start (isForetold_view waiting))
      _ = _ := by
        symm
        exact Search.scan_eq_settle _ _ (Search.isAnswered_of_isForetold _ ordered
          (apart.of_subset ordered) .start (isForetold_ofTrees lenient_view))

/-- A question that takes no search leaves disk and trees alone. -/
theorem infer_of_not_searches
    {engine : Engine τ DiskState}
    (answered : ¬engine.Searches convention current state) :
    (engine.infer convention group current state).2.cells = state.cells ∧
      (engine.infer convention group current state).2.world = state.world := by
  unfold infer
  split
  · exact ⟨rfl, rfl⟩
  · rename_i named
    dsimp only
    split
    · exact ⟨rfl, rfl⟩
    · rename_i value asked
      split
      · rename_i unstated
        exact absurd ⟨named, value, asked, unstated⟩ answered
      · cases convention <;> exact ⟨rfl, rfl⟩

theorem infer_of_searches
    {engine : Engine τ DiskState}
    (searches : engine.Searches convention current state) :
    engine.infer convention group current state =
      engine.searchFor convention group current
        (engine.ask current.path convention.optionKey state).2 := by
  obtain ⟨named, value, asked, unstated⟩ := searches
  rw [infer, if_neg named]
  simp only [asked, unstated]

/-- After a question, the trees are kept that were so before or that the question has had. -/
theorem lookup_infer_iff
    {artifact : Artifact}
    {tree? : Option Tree}
    (waiting : state.world.cancelled = false)
    (inside : current :: group.artifacts ⊆ artifacts)
    (apart : Artifact.ToldApart artifacts artifacts)
    (known : artifact ∈ artifacts) :
    ((onDisk store rules parser).infer convention group current state).2.cells.lookup
        artifact.identity = some tree? ↔
      state.cells.lookup artifact.identity = some tree? ∨
        (Event.ask convention current).Fetches (onDisk store rules parser) group parser state
          artifact tree? := by
  by_cases searches : (onDisk store rules parser).Searches convention current state
  · have ordered : Candidate.order rules group current ⊆ artifacts :=
      List.Subset.trans Candidate.order_subset inside
    rw [infer_of_searches searches, Event.Fetches, and_iff_right searches]
    exact Search.lookup_scan_iff known _ ordered (apart.of_subset ordered) []
      ⟨state.pools convention, state.cells, state.world⟩ .start (isForetold_view waiting)
  · rw [(infer_of_not_searches searches).1, Event.Fetches, or_iff_left fun fetches =>
      searches fetches.1]

theorem world_infer :
    ((onDisk store rules parser).infer convention group current state).2.world = state.world := by
  by_cases searches : (onDisk store rules parser).Searches convention current state
  · rw [infer_of_searches searches]
    exact World.eq_of_onDisk_reaches (Search.reaches_scan _ []
      ⟨state.pools convention, state.cells, state.world⟩ .start)
  · exact (infer_of_not_searches searches).2

theorem reaches_infer
    (reached : store.Reaches preferences state.preferences) :
    store.Reaches preferences
      ((onDisk store rules parser).infer convention group current state).2.preferences := by
  -- Only the preferences matter here, so soundness is asked for no artifact at all.
  have sound : state.IsSound (onDisk store rules parser) parser [] preferences :=
    ⟨reached, fun _ absent => absurd absent List.not_mem_nil⟩
  exact (isSound_infer (World.onDisk_parses parser) (fun _ absent => absurd absent List.not_mem_nil)
    (fun _ absent => absurd absent List.not_mem_nil) sound convention).preferences

end Question

/-! ## Any number of events -/

section Histories

variable
  {store : PreferenceStore τ}
  {rules : Rules}
  {parser : Parser}
  {group : Group}
  {start : EngineState τ DiskState}
  {artifacts : List Artifact}
  {history : List Event}

theorem after_concat
    (engine : Engine τ DiskState)
    (group : Group)
    (start : EngineState τ DiskState)
    (history : List Event)
    (event : Event) :
    engine.after group start (history ++ [event]) =
      event.apply engine group (engine.after group start history) := by
  rw [after, List.foldl_append, List.foldl_cons, List.foldl_nil, after]

theorem world_after :
    ((onDisk store rules parser).after group start history).world =
      ⟨diskAfter start.world.disk history, start.world.cancelled⟩ := by
  induction history using List.reverseRecOn with
  | nil => rfl
  | append_singleton earlier event inductionHypothesis =>
      rw [after_concat, diskAfter, List.foldl_append, List.foldl_cons, List.foldl_nil, ← diskAfter]
      cases event with
      | change path action => simp only [Event.apply, Event.disk, inductionHypothesis]
      | ask convention current => rw [Event.apply, world_infer, inductionHypothesis, Event.disk]

theorem reaches_after :
    store.Reaches start.preferences
      ((onDisk store rules parser).after group start history).preferences := by
  induction history using List.reverseRecOn with
  | nil => exact .start
  | append_singleton earlier event inductionHypothesis =>
      rw [after_concat]
      cases event with
      | change path action => exact inductionHypothesis
      | ask convention current => exact reaches_infer inductionHypothesis

/-- Exactly the trees are kept that some question has had, as that question has had them. -/
theorem lookup_after_iff
    {artifact : Artifact}
    {tree? : Option Tree}
    (waiting : start.world.cancelled = false)
    (fresh : start.cells = [])
    (members : group.artifacts ⊆ artifacts)
    (apart : Artifact.ToldApart artifacts artifacts)
    (asked : ∀ convention current, .ask convention current ∈ history → current ∈ artifacts)
    (known : artifact ∈ artifacts) :
    ((onDisk store rules parser).after group start history).cells.lookup artifact.identity =
        some tree? ↔
      ∃ before event, before ++ [event] <+: history ∧
        event.Fetches (onDisk store rules parser) group parser
          ((onDisk store rules parser).after group start before) artifact tree? := by
  apply Association.lookup_foldl_iff (Event.apply (onDisk store rules parser) group) start
    EngineState.cells fun state event =>
      event.Fetches (onDisk store rules parser) group parser state artifact tree?
  · simp [fresh]
  · intro before event begins
    cases event with
    | change path action => simp [Event.apply, Event.Fetches]
    | ask convention current =>
        have inHistory : Event.ask convention current ∈ history :=
          begins.subset (List.mem_append_right _ (List.mem_singleton_self _))
        refine lookup_infer_iff ?_ ?_ apart known
        · rw [← after, world_after]
          exact waiting
        · exact List.cons_subset.mpr ⟨asked convention current inHistory, members⟩

theorem unfetched_iff
    {artifact : Artifact}
    (waiting : start.world.cancelled = false)
    (fresh : start.cells = [])
    (members : group.artifacts ⊆ artifacts)
    (apart : Artifact.ToldApart artifacts artifacts)
    (asked : ∀ convention current, .ask convention current ∈ history → current ∈ artifacts)
    (known : artifact ∈ artifacts) :
    (onDisk store rules parser).Unfetched group parser start history artifact ↔
      ((onDisk store rules parser).after group start history).cells.lookup artifact.identity =
        none := by
  rw [Option.eq_none_iff_forall_ne_some]
  constructor
  · intro never tree? kept
    obtain ⟨before, event, begins, fetches⟩ :=
      (lookup_after_iff waiting fresh members apart asked known).mp kept
    exact never before event tree? begins fetches
  · intro unknown before event tree? begins fetches
    exact unknown tree? ((lookup_after_iff waiting fresh members apart asked known).mpr
      ⟨before, event, begins, fetches⟩)

/-- Only artifacts of the group, and the one that is asked for, are ever fetched. -/
theorem mem_of_fetches
    {engine : Engine τ DiskState}
    {state : EngineState τ DiskState}
    {artifact : Artifact}
    {tree? : Option Tree}
    {event : Event}
    (fetches : event.Fetches engine group parser state artifact tree?) :
    ∃ convention current, event = .ask convention current ∧
      artifact ∈ current :: group.artifacts := by
  cases event with
  | change path action => exact fetches.elim
  | ask convention current =>
      exact ⟨convention, current, rfl,
        Candidate.order_subset (Search.fetched_subset _ fetches.2.1)⟩

end Histories

/--
A project is loaded, and then files change and questions are asked in any order,
none of them cancelled; the preferences are fixed, and besides the artifacts of the
project some visitors may be asked for.  The artifacts stay those found on the disk
at the beginning.  A search takes a tree as it looks in the view: for good as the
first question to fetch it found it, the tree of the text that the file held at that
moment, with no tree if the file could not be read then; and as the file is on disk
now if no question has fetched it.  Every answer is that of a new engine which is
given the trees of the view.
-/
theorem infer_answers_from_snapshot
    (store : PreferenceStore τ)
    (rules : Rules)
    (parser : Parser)
    (preferences : τ)
    (fixed : store.IsFixed preferences)
    (disk : Disk)
    (path : Path)
    (group : Group)
    (loaded : Workspace.load disk path = .ok group)
    (visitors : List Artifact)
    (apart : Artifact.ToldApart visitors (visitors ++ group.artifacts))
    (capacity : Nat)
    (history : List Event)
    (asked : ∀ convention current, .ask convention current ∈ history →
      current ∈ visitors ++ group.artifacts) :
    let engine := onDisk store rules parser
    let start := EngineState.start capacity preferences ⟨disk, false⟩
    let state := engine.after group start history
    (∃ root, Workspace.locate disk path = .ok root ∧ group = Workspace.groupAt disk root) ∧
      (∀ artifact ∈ visitors ++ group.artifacts,
        (engine.world.fetch artifact state.cells state.world).1 =
          .settled (view parser state artifact)) ∧
      (∀ before event artifact tree?, before ++ [event] <+: history →
        event.Fetches engine group parser (engine.after group start before) artifact tree? →
        view parser state artifact = .ok tree? ∧
          (engine.Unfetched group parser start before artifact →
            artifact.LooksLike parser (diskAfter disk before) (.ok tree?))) ∧
      (∀ artifact ∈ visitors ++ group.artifacts,
        engine.Unfetched group parser start history artifact →
        artifact.LooksLike parser (diskAfter disk history) (view parser state artifact)) ∧
      ∀ convention, ∀ current ∈ visitors ++ group.artifacts, ∀ otherCapacity,
        (engine.infer convention group current state).1 =
          (Engine.infer ⟨store, rules, .ofTrees (view parser state)⟩ convention group current
            (.start otherCapacity preferences ())).1 := by
  intro engine start state
  obtain ⟨root, located, grouped⟩ := Workspace.exists_root_of_load loaded
  have allApart : Artifact.ToldApart (visitors ++ group.artifacts)
      (visitors ++ group.artifacts) := by
    apply apart.append
    rw [grouped]
    exact Workspace.toldApart_artifactsAt root _
  have members : group.artifacts ⊆ visitors ++ group.artifacts := List.subset_append_right _ _
  have worldThen (moments : List Event) :
      (engine.after group start moments).world = ⟨diskAfter disk moments, false⟩ :=
    world_after
  have waiting : state.world.cancelled = false := by rw [worldThen]
  have reached : store.Reaches start.preferences state.preferences := reaches_after
  -- Before its first fetch an artifact looks as its file does at the moment.
  have unfetched {moments : List Event} {artifact : Artifact}
      (begins : moments <+: history)
      (known : artifact ∈ visitors ++ group.artifacts)
      (never : engine.Unfetched group parser start moments artifact) :
      artifact.LooksLike parser (diskAfter disk moments)
        (view parser (engine.after group start moments) artifact) := by
    have unknown := (unfetched_iff rfl rfl members allApart
      (fun convention current inside => asked convention current (begins.subset inside))
      known).mp never
    rw [view_of_unknown unknown, worldThen]
    exact artifact.looksLike_lenient_parse parser _
  refine ⟨⟨root, located, grouped⟩, ?_, ?_, ?_, ?_⟩
  · intro artifact known
    exact ((isForetold_view waiting).fetch_eq known .start).1
  · intro before event artifact tree? begins fetches
    obtain ⟨convention, current, rfl, inside⟩ := mem_of_fetches fetches
    have known : artifact ∈ visitors ++ group.artifacts := by
      have present := asked convention current
        (begins.subset (List.mem_append_right _ (List.mem_singleton_self _)))
      exact List.cons_subset.mpr ⟨present, members⟩ inside
    refine ⟨view_of_kept ((lookup_after_iff rfl rfl members allApart asked known).mpr
      ⟨before, _, begins, fetches⟩), fun never => ?_⟩
    have looks := unfetched ((List.prefix_append _ _).trans begins) known never
    rwa [fetches.2.2] at looks
  · exact fun artifact known never => unfetched (List.prefix_refl _) known never
  · intro convention current present otherCapacity
    exact infer_eq_infer_ofTrees fixed reached waiting
      (List.cons_subset.mpr ⟨present, members⟩) allApart otherCapacity

/-- A project of one file on disk. -/
def sampleDisk (text : String) : Disk where
  items := [(["w"], .folder), (["w", "A.cs"], .file (some text))]
  workingFolder := []

/-- The artifact of the one file. -/
def sampleArtifact : Artifact :=
  ⟨0, "A.cs", [], .onDisk ⟨true, ["w", "A.cs"]⟩⟩

/-- The tree of a text that is not looked into. -/
def plainTree (text : String) : Tree where
  source := text
  root := .rule 0 .compilationUnit none 0 text.utf8ByteSize text []
  distinct := List.nodup_singleton 0

theorem load_sampleDisk :
    Workspace.load (sampleDisk "class A;") ⟨true, ["w"]⟩ = .ok ⟨"w", [sampleArtifact]⟩ := by
  have located : Workspace.locate (sampleDisk "class A;") ⟨true, ["w"]⟩ = .ok ["w"] := by
    simp +decide [Workspace.locate, Disk.resolve, Disk.follow, Disk.itemAt?, sampleDisk]
  have files : Workspace.filePaths (sampleDisk "class A;") ["w"] = ["A.cs"] := by decide +kernel
  have isSource : ["A.cs"].filter Artifact.isSourcePath = ["A.cs"] := by decide +kernel
  have sources : Workspace.sourcePaths (sampleDisk "class A;") ["w"] = ["A.cs"] := by
    rw [Workspace.sourcePaths, files, isSource, List.mergeSort_singleton]
  have listed : Workspace.artifactsAt ["w"] ["A.cs"] = [sampleArtifact] := by decide +kernel
  simp only [Workspace.load, located, bind, Except.bind, pure, Except.pure, Workspace.groupAt,
    sources, listed]
  rfl

theorem read_sampleDisk (text : String) :
    (sampleDisk text).read ⟨true, ["w", "A.cs"]⟩ = .ok text := by
  simp +decide [Disk.read, Disk.resolve, Disk.follow, Disk.itemAt?, Disk.textAt, sampleDisk,
    List.lookup_cons, bind, Except.bind]

/-- A file that is written again after it was first read keeps the tree of its first text. -/
theorem infer_answers_from_snapshot_sample :
    let parser : Parser := fun _ text => .ok (plainTree text)
    let file : Path := ⟨true, ["w", "A.cs"]⟩
    let history : List Event :=
      [.ask .qualifyFieldAccess sampleArtifact, .change file (.write (some "class B;"))]
    let state := (onDisk .inMemory .none parser).after ⟨"w", [sampleArtifact]⟩
      (.start 1 .empty ⟨sampleDisk "class A;", false⟩) history
    (diskAfter (sampleDisk "class A;") history).read file = .ok "class B;" ∧
      view parser state sampleArtifact = .ok (some (plainTree "class A;")) := by
  intro parser file history state
  constructor
  · have written : diskAfter (sampleDisk "class A;") history = sampleDisk "class B;" := by
      simp +decide [diskAfter, history, file, Event.disk, Disk.change, Disk.makeFolders,
        Disk.follow, Disk.itemAt?, Disk.put, Disk.linkLimit, sampleDisk, List.lookup_cons,
        Except.toOption]
    rw [written, read_sampleDisk]
  · have atFirst : view parser (.start 1 Properties.empty ⟨sampleDisk "class A;", false⟩)
        sampleArtifact = .ok (some (plainTree "class A;")) := by
      rw [view_of_unknown rfl]
      exact (sampleArtifact.looksLike_lenient_parse parser _).readable _ _ rfl
        (read_sampleDisk "class A;")
    have ordered : Candidate.order .none ⟨"w", [sampleArtifact]⟩ sampleArtifact =
        [sampleArtifact] := by decide +kernel
    have included : Rules.none.excludes sampleArtifact = false := by decide
    obtain ⟨-, -, frozen, -, -⟩ := infer_answers_from_snapshot .inMemory .none parser .empty
      (PreferenceStore.inMemory_isFixed _) (sampleDisk "class A;") ⟨true, ["w"]⟩ _
      load_sampleDisk [] (by intro artifact absent; cases absent) 1 history
      (by simp [history])
    refine (frozen [] (.ask .qualifyFieldAccess sampleArtifact) sampleArtifact _ ⟨_, rfl⟩
      ⟨⟨by decide, none, rfl, rfl⟩, ?_, atFirst⟩).1
    change sampleArtifact ∈ Search.fetched _ .none _ (Candidate.order .none _ sampleArtifact)
    simp [ordered, Search.fetched, included]

end Engine
end HouseStyle
