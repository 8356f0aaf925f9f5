import HouseStyle.EditorConfig.Lookup
import HouseStyle.Proofs.Path.Parents

/-!
# Which files count

A lookup looks into the folders above a path, nearest first, and stops at a file
that calls itself the root.  The folders above one path all say different things,
so what a lookup learns of one of them on its way does not change what it takes
the others to hold.
-/

namespace HouseStyle
namespace EditorConfig
namespace Lookup

/-- The files that count among folders given nearest first, each folder looked into on its own. -/
def survey (look : Path → Except Failure (Option File)) : List Path → Except Failure (List File)
  | [] => .ok []
  | folder :: rest =>
      match look folder with
      | .error failure => .error failure
      | .ok none => survey look rest
      | .ok (some file) => if file.isRoot then .ok [file] else (survey look rest).map (file :: ·)

/-- A survey goes on after such a folder: it has no file, or one that is no root. -/
def goesOn : Except Failure (Option File) → Bool
  | .ok none => true
  | .ok (some file) => !file.isRoot
  | .error _ => false

/-- The folders that a survey looks into: up to and including the first after which it does not
go on. -/
def reached (look : Path → Except Failure (Option File)) : List Path → List Path
  | [] => []
  | folder :: rest => folder :: if goesOn (look folder) then reached look rest else []

section Reached

variable {look other : Path → Except Failure (Option File)}

theorem reached_isPrefix
    (look : Path → Except Failure (Option File))
    (folders : List Path) :
    reached look folders <+: folders := by
  induction folders with
  | nil => exact List.prefix_refl []
  | cons folder rest inductionHypothesis =>
      rw [reached, List.prefix_cons_inj]
      split
      · exact inductionHypothesis
      · exact List.nil_prefix

/-- A survey looks into a folder if it goes on after every nearer one. -/
theorem mem_reached_iff
    {folders : List Path}
    {folder : Path} :
    folder ∈ reached look folders ↔
      ∃ before after, folders = before ++ folder :: after ∧
        ∀ nearer ∈ before, goesOn (look nearer) = true := by
  induction folders with
  | nil => simp [reached]
  | cons nearest rest inductionHypothesis =>
      rw [reached, List.mem_cons]
      constructor
      · rintro (rfl | further)
        · exact ⟨[], rest, rfl, fun _ none => by cases none⟩
        · split at further
          · rename_i on
            obtain ⟨before, after, rfl, pass⟩ := inductionHypothesis.mp further
            exact ⟨nearest :: before, after, rfl, List.forall_mem_cons.mpr ⟨on, pass⟩⟩
          · cases further
      · rintro ⟨before, after, split, pass⟩
        cases before with
        | nil => exact .inl (List.cons.inj split).1.symm
        | cons first others =>
            obtain ⟨rfl, further⟩ := List.cons.inj split
            obtain ⟨on, pass⟩ := List.forall_mem_cons.mp pass
            rw [if_pos on]
            exact .inr (inductionHypothesis.mpr ⟨others, after, further, pass⟩)

/-- Only the folders that are looked into matter. -/
theorem reached_congr
    {folders : List Path}
    (agree : ∀ folder ∈ reached look folders, other folder = look folder) :
    reached other folders = reached look folders := by
  induction folders with
  | nil => rfl
  | cons folder rest inductionHypothesis =>
      rw [reached, List.forall_mem_cons] at agree
      rw [reached, reached, agree.1]
      split
      · rename_i on
        rw [if_pos on] at agree
        rw [inductionHypothesis agree.2]
      · rfl

theorem survey_congr
    {folders : List Path}
    (agree : ∀ folder ∈ reached look folders, other folder = look folder) :
    survey other folders = survey look folders := by
  induction folders with
  | nil => rfl
  | cons folder rest inductionHypothesis =>
      rw [reached, List.forall_mem_cons] at agree
      obtain ⟨same, further⟩ := agree
      rw [survey, survey, same]
      split
      · rfl
      · rename_i absent
        rw [absent] at further
        exact inductionHypothesis further
      · rename_i file present
        rw [present] at further
        cases root : file.isRoot with
        | true => rfl
        | false =>
            simp only [goesOn, root, Bool.not_false, if_true] at further
            rw [inductionHypothesis further]

/-- A survey fails with the failure of a folder that it looks into. -/
theorem survey_eq_error_iff
    {folders : List Path}
    {failure : Failure} :
    survey look folders = .error failure ↔
      ∃ folder ∈ reached look folders, look folder = .error failure := by
  induction folders with
  | nil =>
      constructor
      · intro failed
        cases failed
      · rintro ⟨folder, present, -⟩
        cases present
  | cons folder rest inductionHypothesis =>
      rw [survey, reached, List.exists_mem_cons_iff]
      cases seen : look folder with
      | error cause => simp [goesOn]
      | ok found =>
          cases found with
          | none => simp [goesOn, inductionHypothesis]
          | some file =>
              cases root : file.isRoot with
              | true => simp [goesOn, root]
              | false =>
                  have further : (survey look rest).map (file :: ·) = .error failure ↔
                      survey look rest = .error failure := by
                    cases survey look rest <;> simp [Except.map]
                  simp [goesOn, root, further, inductionHypothesis]

end Reached

/-! ## Lookups with a memory -/

/-- What a lookup takes a folder to hold: as remembered, or else as it stands on disk. -/
def known
    (disk : Disk)
    (findings : Findings)
    (folder : Path) : Except Failure (Option File) :=
  match findings.lookup folder.key with
  | some found => .ok found
  | none => inspect disk folder

/-- What is learned from a folder that is not remembered yet. -/
def lesson?
    (disk : Disk)
    (findings : Findings)
    (folder : Path) : Option ((Nat × Bool × List String) × Option File) :=
  match findings.lookup folder.key with
  | some _ => none
  | none => (inspect disk folder).toOption.map (folder.key, ·)

theorem lesson?_of_failure
    {disk : Disk}
    {findings : Findings}
    {folder : Path}
    {failure : Failure}
    (failed : known disk findings folder = .error failure) :
    lesson? disk findings folder = none := by
  unfold known at failed
  unfold lesson?
  cases remembered : findings.lookup folder.key with
  | some found => rfl
  | none =>
      rw [remembered] at failed
      simp only [failed, Except.toOption, Option.map_none]

theorem load_eq
    (disk : Disk)
    (folder : Path)
    (findings : Findings) :
    load disk folder findings =
      (known disk findings folder).map fun found =>
        (found, (lesson? disk findings folder).toList ++ findings) := by
  unfold load known lesson?
  cases findings.lookup folder.key with
  | some found => rfl
  | none => cases inspect disk folder <;> rfl

/-- What is learned from a folder does not tell about folders that say something else. -/
theorem lookup_lesson?_append
    (disk : Disk)
    (findings : Findings)
    {folder other : Path}
    (different : other.key ≠ folder.key) :
    ((lesson? disk findings folder).toList ++ findings).lookup other.key =
      findings.lookup other.key := by
  unfold lesson?
  cases findings.lookup folder.key with
  | some found => rfl
  | none =>
      cases inspect disk folder with
      | error failure => rfl
      | ok found =>
          change ((folder.key, found) :: findings).lookup other.key = _
          rw [List.lookup_cons, beq_false_of_ne different]

/-- The files that a lookup finds among folders that all say different things, and what it
remembers afterwards. -/
theorem consult_eq
    (disk : Disk)
    (findings : Findings)
    {folders : List Path}
    (distinct : (folders.map Path.key).Nodup) :
    consult disk findings folders =
      (survey (known disk findings) folders,
        ((reached (known disk findings) folders).filterMap (lesson? disk findings)).reverse ++
          findings) := by
  induction folders generalizing findings with
  | nil => rfl
  | cons folder rest inductionHypothesis =>
      obtain ⟨different, distinctRest⟩ := List.nodup_cons.mp distinct
      -- What is learned here concerns none of the other folders.
      have unchanged (other : Path) (further : other ∈ rest) :
          ((lesson? disk findings folder).toList ++ findings).lookup other.key =
            findings.lookup other.key := by
        apply lookup_lesson?_append
        intro same
        exact different (same ▸ List.mem_map_of_mem further)
      have sameKnown (other : Path) (further : other ∈ reached (known disk findings) rest) :
          known disk ((lesson? disk findings folder).toList ++ findings) other =
            known disk findings other := by
        rw [known, unchanged other ((reached_isPrefix _ _).subset further), known]
      have sameLesson (other : Path) (further : other ∈ reached (known disk findings) rest) :
          lesson? disk ((lesson? disk findings folder).toList ++ findings) other =
            lesson? disk findings other := by
        rw [lesson?, unchanged other ((reached_isPrefix _ _).subset further), lesson?]
      have further := inductionHypothesis ((lesson? disk findings folder).toList ++ findings)
        distinctRest
      rw [survey_congr sameKnown, reached_congr sameKnown, List.filterMap_congr sameLesson]
        at further
      have memory (others : List Path) :
          ((folder :: others).filterMap (lesson? disk findings)).reverse ++ findings =
            (others.filterMap (lesson? disk findings)).reverse ++
              ((lesson? disk findings folder).toList ++ findings) := by
        cases learned : lesson? disk findings folder <;> simp [learned]
      rw [consult, load_eq, survey, reached, memory]
      cases seen : known disk findings folder with
      | error failure =>
          rw [lesson?_of_failure seen]
          rfl
      | ok found =>
          cases found with
          | none => exact further
          | some file =>
              cases root : file.isRoot with
              | true => simp [Except.map, goesOn, root]
              | false => simp [Except.map, goesOn, root, further]

/-- A new lookup takes every folder to hold what stands there on disk. -/
theorem properties_make_eq
    (disk : Disk)
    (workspace : Path)
    (path : String) :
    (make workspace).properties disk path =
      ((survey (inspect disk) (workspace.join (Path.ofText path)).parents).map fun files =>
          combine files (workspace.join (Path.ofText path)),
        ⟨workspace,
          ((reached (inspect disk) (workspace.join (Path.ofText path)).parents).filterMap
            fun folder => (inspect disk folder).toOption.map (folder.key, ·)).reverse⟩) := by
  have nothing : known disk [] = inspect disk := rfl
  have consulted := consult_eq disk [] (workspace.join (Path.ofText path)).nodup_map_key_parents
  rw [nothing, List.append_nil] at consulted
  simp only [properties, make, consulted]
  rfl

/-- A new lookup finds for a path the files that a survey of its parents finds. -/
theorem properties_make
    (disk : Disk)
    (workspace : Path)
    (path : String) :
    ((make workspace).properties disk path).1 =
      (survey (inspect disk) (workspace.join (Path.ofText path)).parents).map fun files =>
        combine files (workspace.join (Path.ofText path)) := by
  rw [properties_make_eq]

end Lookup
end EditorConfig
end HouseStyle
