import HouseStyle.Proofs.Association
import HouseStyle.Proofs.EditorConfig.Reach
import Mathlib.Data.List.Nodup

/-!
# What a lookup has once had stays

A lookup remembers a folder from the first time that it has its file, or finds
that there is none; a failure is not remembered.  However the disk changes
between its answers, every answer is that of a survey in which the folders it has
had before are as they were then, and all others are as they are now.
-/

namespace HouseStyle
namespace EditorConfig
namespace Lookup

/-- What can happen to a disk and a lookup. -/
inductive Event where
  /-- An item of the disk changes. -/
  | change (path : Path) (action : Disk.Change)
  /-- The lookup is asked for the value of a key at a path. -/
  | get (path key : String)

/-- The disk and the lookup after an event. -/
def Event.apply (state : Disk × Lookup) : Event → Disk × Lookup
  | change path action => (state.1.change path action, state.2)
  | get path key => (store.get path key state).2

/-- The disk and the lookup after some events, the lookup being new at first. -/
def after
    (disk : Disk)
    (workspace : Path)
    (history : List Event) : Disk × Lookup :=
  history.foldl Event.apply (disk, make workspace)

section State

variable (state : Disk × Lookup)

/-- What the lookup takes a folder to hold: as remembered, or else as it stands on disk. -/
def view (folder : Path) : Except Failure (Option File) :=
  known state.1 state.2.findings folder

/-- The folders above the artifact at a path, nearest first. -/
def foldersAbove (path : String) : List Path :=
  (state.2.workspace.join (Path.ofText path)).parents

/-- The values that hold for the artifact at a path if folders hold what they are taken to. -/
def viewed (path : String) : Except Failure Properties :=
  (survey (view state) (foldersAbove state path)).map fun files =>
    combine files (state.2.workspace.join (Path.ofText path))

/-- A call for a path has a folder: it gets to the folder, under some spelling, and has its file
or finds that there is none. -/
def Loads (path : String) (folder : Path) (found : Option File) : Prop :=
  ∃ spelled ∈ reached (view state) (foldersAbove state path),
    spelled.key = folder.key ∧ view state spelled = .ok found

/-- The folders whose files a call for a path reads: those that it gets to and that are not
remembered. -/
def reads (path : String) : List Path :=
  (reached (view state) (foldersAbove state path)).filter fun folder =>
    (state.2.findings.lookup folder.key).isNone

end State

/-! ## One call -/

variable {state : Disk × Lookup}

theorem view_of_remembered
    {folder : Path}
    {found : Option File}
    (remembered : state.2.findings.lookup folder.key = some found) :
    view state folder = .ok found := by
  rw [view, known, remembered]

theorem view_of_unknown
    {folder : Path}
    (unknown : state.2.findings.lookup folder.key = none) :
    view state folder = inspect state.1 folder := by
  rw [view, known, unknown]

theorem nodup_foldersAbove (state : Disk × Lookup) (path : String) :
    ((foldersAbove state path).map Path.key).Nodup :=
  Path.nodup_map_key_parents _

/-- The values found for a path, and what is remembered afterwards. -/
theorem properties_eq (state : Disk × Lookup) (path : String) :
    state.2.properties state.1 path =
      (viewed state path,
        { state.2 with
          findings :=
            ((reached (view state) (foldersAbove state path)).filterMap
              (lesson? state.1 state.2.findings)).reverse ++ state.2.findings }) := by
  have consulted := consult_eq state.1 state.2.findings (nodup_foldersAbove state path)
  simp only [foldersAbove] at consulted
  simp only [properties, consulted]
  rfl

/-- The answer to a call, and what is remembered after it. -/
theorem get_eq (state : Disk × Lookup) (path key : String) :
    store.get path key state =
      ((viewed state path).map fun properties => properties.get? (plainKey key),
        state.1,
        { state.2 with
          findings :=
            ((reached (view state) (foldersAbove state path)).filterMap
              (lesson? state.1 state.2.findings)).reverse ++ state.2.findings }) := by
  simp only [store, get, properties_eq]

theorem lesson?_eq_some_iff
    {disk : Disk}
    {findings : Findings}
    {folder : Path}
    {entry : (Nat × Bool × List String) × Option File} :
    lesson? disk findings folder = some entry ↔
      findings.lookup folder.key = none ∧ entry.1 = folder.key ∧
        inspect disk folder = .ok entry.2 := by
  unfold lesson?
  obtain ⟨key, found⟩ := entry
  cases findings.lookup folder.key with
  | some remembered => simp
  | none => cases inspect disk folder <;> simp [Except.toOption, eq_comm]

/-- A call learns of the folders that it has had and that were not remembered. -/
theorem lookup_lessons_iff
    {path : String}
    {folder : Path}
    {found : Option File} :
    ((reached (view state) (foldersAbove state path)).filterMap
        (lesson? state.1 state.2.findings)).reverse.lookup folder.key = some found ↔
      state.2.findings.lookup folder.key = none ∧ Loads state path folder found := by
  have fromLesson {value : Option File}
      (learned : ((reached (view state) (foldersAbove state path)).filterMap
        (lesson? state.1 state.2.findings)).reverse.lookup folder.key = some value) :
      state.2.findings.lookup folder.key = none ∧ Loads state path folder value := by
    obtain ⟨front, back, shape, -⟩ := List.lookup_eq_some_iff.mp learned
    have member : (folder.key, value) ∈ (reached (view state) (foldersAbove state path)).filterMap
        (lesson? state.1 state.2.findings) := by
      rw [← List.mem_reverse, shape]
      exact List.mem_append_right _ List.mem_cons_self
    obtain ⟨spelled, isReached, lesson⟩ := List.mem_filterMap.mp member
    obtain ⟨unknown, sameKey, seen⟩ := lesson?_eq_some_iff.mp lesson
    change folder.key = spelled.key at sameKey
    rw [sameKey]
    exact ⟨unknown, spelled, isReached, sameKey.symm, (view_of_unknown unknown).trans seen⟩
  refine ⟨fromLesson, ?_⟩
  rintro ⟨unknown, spelled, isReached, sameKey, seen⟩
  rw [← sameKey] at unknown
  have member : (spelled.key, found) ∈ (reached (view state) (foldersAbove state path)).filterMap
      (lesson? state.1 state.2.findings) := by
    refine List.mem_filterMap.mpr ⟨spelled, isReached, lesson?_eq_some_iff.mpr ⟨unknown, rfl, ?_⟩⟩
    rwa [view_of_unknown unknown] at seen
  have present : (((reached (view state) (foldersAbove state path)).filterMap
      (lesson? state.1 state.2.findings)).reverse.lookup folder.key).isSome = true :=
    List.lookup_isSome_iff.mpr ⟨_, List.mem_reverse.mpr member, beq_iff_eq.mpr sameKey.symm⟩
  obtain ⟨value, learned⟩ := Option.isSome_iff_exists.mp present
  -- No other folder on the way says the same, so the lesson is that of this one.
  obtain ⟨-, twin, twinReached, twinKey, twinSeen⟩ := fromLesson learned
  have same : twin = spelled := by
    refine List.inj_on_of_nodup_map (nodup_foldersAbove state path) ?_ ?_
      (twinKey.trans sameKey.symm)
    · exact (reached_isPrefix _ _).subset twinReached
    · exact (reached_isPrefix _ _).subset isReached
  rw [same, seen] at twinSeen
  rw [learned, Except.ok.inj twinSeen]

/-- After a call, the folders are remembered that were so before or that the call has had. -/
theorem lookup_get_iff
    {path key : String}
    {folder : Path}
    {found : Option File} :
    (store.get path key state).2.2.findings.lookup folder.key = some found ↔
      state.2.findings.lookup folder.key = some found ∨ Loads state path folder found := by
  rw [get_eq]
  dsimp only
  rw [List.lookup_append, Option.or_eq_some_iff, lookup_lessons_iff]
  cases remembered : state.2.findings.lookup folder.key with
  | none => simp
  | some old =>
      have unlearned : ((reached (view state) (foldersAbove state path)).filterMap
          (lesson? state.1 state.2.findings)).reverse.lookup folder.key = none := by
        rw [Option.eq_none_iff_forall_ne_some]
        intro value learned
        have unknown := (lookup_lessons_iff.mp learned).1
        rw [remembered] at unknown
        cases unknown
      have alike (loads : Loads state path folder found) : some old = some found := by
        obtain ⟨spelled, -, sameKey, seen⟩ := loads
        rw [← sameKey] at remembered
        rw [view_of_remembered remembered] at seen
        rw [Except.ok.inj seen]
      rw [unlearned]
      constructor
      · rintro (⟨unknown, -⟩ | ⟨-, same⟩)
        · cases unknown
        · exact .inl same
      · rintro (same | loads)
        · exact .inr ⟨rfl, same⟩
        · exact .inr ⟨rfl, alike loads⟩

/-! ## Any number of calls -/

section Histories

variable
  {disk : Disk}
  {workspace : Path}
  {history : List Event}

theorem after_concat
    (disk : Disk)
    (workspace : Path)
    (history : List Event)
    (event : Event) :
    after disk workspace (history ++ [event]) = event.apply (after disk workspace history) := by
  rw [after, List.foldl_append, List.foldl_cons, List.foldl_nil, after]

theorem workspace_after : (after disk workspace history).2.workspace = workspace := by
  induction history using List.reverseRecOn with
  | nil => rfl
  | append_singleton earlier event inductionHypothesis =>
      rw [after_concat]
      cases event with
      | change path action => exact inductionHypothesis
      | get path key =>
          rw [Event.apply, get_eq]
          exact inductionHypothesis

/-- Exactly the folders are remembered that some call has had, as that call has had them. -/
theorem lookup_after_iff
    {folder : Path}
    {found : Option File} :
    (after disk workspace history).2.findings.lookup folder.key = some found ↔
      ∃ before path key, before ++ [.get path key] <+: history ∧
        Loads (after disk workspace before) path folder found := by
  have stepwise (before : List Event) (event : Event) (_ : before ++ [event] <+: history) :
      (event.apply (after disk workspace before)).2.findings.lookup folder.key = some found ↔
        (after disk workspace before).2.findings.lookup folder.key = some found ∨
          ∃ path key, event = .get path key ∧
            Loads (after disk workspace before) path folder found := by
    cases event with
    | change path action => simp [Event.apply]
    | get path key => simp [Event.apply, lookup_get_iff]
  refine (Association.lookup_foldl_iff Event.apply (disk, make workspace)
    (fun state => state.2.findings)
    (fun state event => ∃ path key, event = .get path key ∧ Loads state path folder found)
    (by simp [make]) history stepwise).trans ⟨?_, ?_⟩
  · rintro ⟨before, event, begins, path, key, rfl, loads⟩
    exact ⟨before, path, key, begins, loads⟩
  · rintro ⟨before, path, key, begins, loads⟩
    exact ⟨before, .get path key, begins, path, key, rfl, loads⟩

theorem lookup_after_eq_none_iff {folder : Path} :
    (after disk workspace history).2.findings.lookup folder.key = none ↔
      ∀ before path key found, before ++ [.get path key] <+: history →
        ¬Loads (after disk workspace before) path folder found := by
  rw [Option.eq_none_iff_forall_ne_some]
  constructor
  · intro unknown before path key found begins loads
    exact unknown found (lookup_after_iff.mpr ⟨before, path, key, begins, loads⟩)
  · intro never found remembered
    obtain ⟨before, path, key, begins, loads⟩ := lookup_after_iff.mp remembered
    exact never before path key found begins loads

end Histories

/-! ## What a call reads -/

theorem mem_reads_iff
    {path : String}
    {folder : Path} :
    folder ∈ reads state path ↔
      folder ∈ reached (view state) (foldersAbove state path) ∧
        state.2.findings.lookup folder.key = none := by
  rw [reads, List.mem_filter, Option.isNone_iff_eq_none]

/-- A folder looks the same on another disk if its file, should it be read, is the same there. -/
theorem view_of_agree
    {other : Disk}
    {path : String}
    {folder : Path}
    (agree : folder ∈ reads state path →
      other.read (fileIn folder) = state.1.read (fileIn folder))
    (isReached : folder ∈ reached (view state) (foldersAbove state path)) :
    view (other, state.2) folder = view state folder := by
  simp only [view, known]
  split
  · rfl
  · rename_i unknown
    exact inspect_congr (agree (mem_reads_iff.mpr ⟨isReached, unknown⟩))

theorem lesson?_of_agree
    {other : Disk}
    {path : String}
    {folder : Path}
    (agree : folder ∈ reads state path →
      other.read (fileIn folder) = state.1.read (fileIn folder))
    (isReached : folder ∈ reached (view state) (foldersAbove state path)) :
    lesson? other state.2.findings folder = lesson? state.1 state.2.findings folder := by
  simp only [lesson?]
  split
  · rfl
  · rename_i unknown
    rw [inspect_congr (agree (mem_reads_iff.mpr ⟨isReached, unknown⟩))]

/-- Another disk makes no difference to a call if the files that the call reads are the same. -/
theorem get_congr
    {other : Disk}
    {path : String}
    (agree : ∀ folder ∈ reads state path,
      other.read (fileIn folder) = state.1.read (fileIn folder))
    (key : String) :
    store.get path key (other, state.2) =
      ((store.get path key state).1, other, (store.get path key state).2.2) := by
  have sameFolders : foldersAbove (other, state.2) path = foldersAbove state path := rfl
  have sameView (folder : Path)
      (isReached : folder ∈ reached (view state) (foldersAbove state path)) :
      view (other, state.2) folder = view state folder :=
    view_of_agree (agree folder) isReached
  have sameLesson (folder : Path)
      (isReached : folder ∈ reached (view state) (foldersAbove state path)) :
      lesson? other state.2.findings folder = lesson? state.1 state.2.findings folder :=
    lesson?_of_agree (agree folder) isReached
  simp only [get_eq, viewed, sameFolders, survey_congr sameView, reached_congr sameView,
    List.filterMap_congr sameLesson]

/-- A failure in a file that a call reads shows in its answer. -/
theorem get_of_fails
    {other : Disk}
    {path : String}
    {folder : Path}
    {failure : Failure}
    (read : folder ∈ reads state path)
    (agree : ∀ nearer ∈ reads state path, nearer ≠ folder →
      other.read (fileIn nearer) = state.1.read (fileIn nearer))
    (fails : Fails other folder failure)
    (key : String) :
    (store.get path key (other, state.2)).1 = .error failure := by
  obtain ⟨isReached, unknown⟩ := mem_reads_iff.mp read
  obtain ⟨before, after, split, pass⟩ := mem_reached_iff.mp isReached
  have distinct := (nodup_foldersAbove state path).of_map
  rw [split, List.nodup_append] at distinct
  have failed : survey (view (other, state.2)) (foldersAbove state path) = .error failure := by
    refine survey_eq_error_iff.mpr ⟨folder, mem_reached_iff.mpr ⟨before, after, split, ?_⟩, ?_⟩
    · intro nearer below
      -- A nearer folder is another one, so it looks the same on both disks.
      have different : nearer ≠ folder := distinct.2.2 nearer below folder List.mem_cons_self
      obtain ⟨front, back, shape⟩ := List.append_of_mem below
      have nearerReached : nearer ∈ reached (view state) (foldersAbove state path) := by
        refine mem_reached_iff.mpr ⟨front, back ++ folder :: after, ?_, fun first inFront => ?_⟩
        · rw [split, shape, List.append_assoc, List.cons_append]
        · exact pass first (shape ▸ List.mem_append_left _ inFront)
      rw [view_of_agree (fun isRead => agree nearer isRead different) nearerReached]
      exact pass nearer below
    · have looked : view (other, state.2) folder = inspect other folder := view_of_unknown unknown
      rw [looked, inspect_of_fails fails]
  have sameFolders : foldersAbove (other, state.2) path = foldersAbove state path := rfl
  simp only [get_eq, viewed, sameFolders, failed, Except.map]

/-- A call that succeeds has every folder that it gets to. -/
theorem loads_of_viewed
    {path : String}
    {properties : Properties}
    (succeeds : viewed state path = .ok properties)
    {folder : Path}
    (isReached : folder ∈ reached (view state) (foldersAbove state path)) :
    ∃ found, view state folder = .ok found ∧ Loads state path folder found := by
  cases seen : view state folder with
  | ok found => exact ⟨found, rfl, folder, isReached, rfl, seen⟩
  | error failure =>
      have failed := survey_eq_error_iff.mpr ⟨folder, isReached, seen⟩
      rw [viewed, failed] at succeeds
      cases succeeds

/-- If all folders that a successful call gets to are remembered later on, the same call reads
nothing then and has the same values, on any disk. -/
theorem get_of_remembered
    (later : Disk × Lookup)
    {path : String}
    {properties : Properties}
    (sameWorkspace : later.2.workspace = state.2.workspace)
    (succeeds : viewed state path = .ok properties)
    (remembered : ∀ folder ∈ reached (view state) (foldersAbove state path), ∀ found,
      view state folder = .ok found → later.2.findings.lookup folder.key = some found) :
    reads later path = [] ∧
      ∀ key, store.get path key later = (.ok (properties.get? (plainKey key)), later) := by
  have sameFolders : foldersAbove later path = foldersAbove state path := by
    rw [foldersAbove, sameWorkspace, foldersAbove]
  have had (folder : Path)
      (isReached : folder ∈ reached (view state) (foldersAbove state path)) :
      ∃ found, view state folder = .ok found ∧
        later.2.findings.lookup folder.key = some found := by
    obtain ⟨found, seen, -⟩ := loads_of_viewed succeeds isReached
    exact ⟨found, seen, remembered folder isReached found seen⟩
  have sameView (folder : Path)
      (isReached : folder ∈ reached (view state) (foldersAbove state path)) :
      view later folder = view state folder := by
    obtain ⟨found, seen, kept⟩ := had folder isReached
    rw [view_of_remembered kept, seen]
  have sameReached : reached (view later) (foldersAbove later path) =
      reached (view state) (foldersAbove state path) := by
    rw [sameFolders, reached_congr sameView]
  have sameViewed : viewed later path = .ok properties := by
    rw [← succeeds, viewed, viewed, sameFolders, survey_congr sameView, sameWorkspace]
  constructor
  · rw [reads, sameReached, List.filter_eq_nil_iff]
    intro folder isReached
    obtain ⟨found, -, kept⟩ := had folder isReached
    simp [kept]
  · intro key
    have nothing : (reached (view state) (foldersAbove state path)).filterMap
        (lesson? later.1 later.2.findings) = [] := by
      rw [List.filterMap_eq_nil_iff]
      intro folder isReached
      obtain ⟨found, -, kept⟩ := had folder isReached
      rw [lesson?, kept]
    rw [get_eq, sameViewed, sameReached, nothing]
    rfl

/--
After any history of changes to the disk and of calls, an answer is that of a
survey of what the lookup takes the folders to hold.  A folder is taken to hold
for good what the first call that had it found there; as long as no call has had
it, it is as it stands on disk.  A call reads the files of the folders that it
gets to and that no call has had; no other file makes a difference to it, and a
failure in any of these shows.  Once a call has succeeded, calls for the same path
read nothing and answer from the same values.
-/
theorem get_answers_from_frozen_folders
    (disk : Disk)
    (workspace : Path)
    (history : List Event) :
    let state := after disk workspace history
    (∀ path key, (store.get path key state).1 =
        (viewed state path).map fun properties => properties.get? (plainKey key)) ∧
      (∀ before path key folder found, before ++ [.get path key] <+: history →
        Loads (after disk workspace before) path folder found → view state folder = .ok found) ∧
      (∀ folder,
        (∀ before path key found, before ++ [.get path key] <+: history →
          ¬Loads (after disk workspace before) path folder found) →
        view state folder = inspect state.1 folder) ∧
      (∀ path folder, folder ∈ reads state path ↔
        folder ∈ reached (view state) (foldersAbove state path) ∧
          ∀ before earlier key found, before ++ [.get earlier key] <+: history →
            ¬Loads (after disk workspace before) earlier folder found) ∧
      (∀ path key (other : Disk),
        (∀ folder ∈ reads state path,
          other.read (fileIn folder) = state.1.read (fileIn folder)) →
        store.get path key (other, state.2) =
          ((store.get path key state).1, other, (store.get path key state).2.2)) ∧
      (∀ path key (other : Disk), ∀ folder ∈ reads state path, ∀ failure,
        (∀ nearer ∈ reads state path, nearer ≠ folder →
          other.read (fileIn nearer) = state.1.read (fileIn nearer)) →
        Fails other folder failure →
        (store.get path key (other, state.2)).1 = .error failure) ∧
      ∀ before path key value, before ++ [.get path key] <+: history →
        (store.get path key (after disk workspace before)).1 = .ok value →
        ∃ found,
          ((after disk workspace before).2.properties (after disk workspace before).1 path).1 =
              .ok found ∧
            value = found.get? (plainKey key) ∧
            reads state path = [] ∧
            ∀ otherKey (other : Disk), store.get path otherKey (other, state.2) =
              (.ok (found.get? (plainKey otherKey)), other, state.2) := by
  intro state
  refine ⟨fun path key => by rw [get_eq], ?_, ?_, ?_, fun path key other agree =>
    get_congr agree key, fun path key other folder read failure agree fails =>
    get_of_fails read agree fails key, ?_⟩
  · intro before path key folder found begins loads
    exact view_of_remembered (lookup_after_iff.mpr ⟨before, path, key, begins, loads⟩)
  · intro folder never
    exact view_of_unknown (lookup_after_eq_none_iff.mpr never)
  · intro path folder
    rw [mem_reads_iff, lookup_after_eq_none_iff]
  · intro before path key value begins succeeds
    have sameWorkspace : state.2.workspace = (after disk workspace before).2.workspace :=
      workspace_after.trans workspace_after.symm
    rw [get_eq] at succeeds
    cases had : viewed (after disk workspace before) path with
    | error failure =>
        simp only [had] at succeeds
        cases succeeds
    | ok found =>
        simp only [had] at succeeds
        cases succeeds
        have remembered (folder : Path)
            (isReached : folder ∈ reached (view (after disk workspace before))
              (foldersAbove (after disk workspace before) path))
            (file : Option File)
            (seen : view (after disk workspace before) folder = .ok file) :
            state.2.findings.lookup folder.key = some file :=
          lookup_after_iff.mpr ⟨before, path, key, begins, folder, isReached, rfl, seen⟩
        refine ⟨found, ?_, rfl, ?_, fun otherKey other => ?_⟩
        · rw [properties_eq, had]
        · exact (get_of_remembered state sameWorkspace had remembered).1
        · exact (get_of_remembered (other, state.2) sameWorkspace had remembered).2 otherKey

/-- The file of a workspace is deleted after a first call, and the second call answers as the
first. -/
theorem get_answers_from_frozen_folders_sample :
    let history : List Event := [.get "A.cs" "key", .change (Path.ofText "/w/.editorconfig") .delete]
    let state := after (rootedDisk []) (Path.ofText "/w") history
    ∃ value, (store.get "A.cs" "key" (rootedDisk [], make (Path.ofText "/w"))).1 = .ok value ∧
      store.get "A.cs" "key" state = (.ok value, state) := by
  intro history state
  have succeeds : ∃ value,
      (store.get "A.cs" "key" (rootedDisk [], make (Path.ofText "/w"))).1 = .ok value := by
    have fresh : view (rootedDisk [], make (Path.ofText "/w")) = inspect (rootedDisk []) := rfl
    have above : foldersAbove (rootedDisk [], make (Path.ofText "/w")) "A.cs" =
        [⟨true, ["w"]⟩, ⟨true, []⟩] := by decide +kernel
    obtain ⟨file, surveyed⟩ :=
      exists_survey_of_holdsRoot (holdsRoot_rootedDisk []) [(⟨true, []⟩ : Path)]
    rw [get_eq, viewed, fresh, above, surveyed]
    exact ⟨_, rfl⟩
  obtain ⟨value, answered⟩ := succeeds
  obtain ⟨-, -, -, -, -, -, settled⟩ :=
    get_answers_from_frozen_folders (rootedDisk []) (Path.ofText "/w") history
  obtain ⟨found, -, isValue, -, same⟩ := settled [] "A.cs" "key" value ⟨_, rfl⟩ answered
  exact ⟨value, answered, isValue ▸ same "key" state.1⟩

end Lookup
end EditorConfig
end HouseStyle
