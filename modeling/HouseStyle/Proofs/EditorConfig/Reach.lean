import HouseStyle.Proofs.EditorConfig.Precedence

/-!
# How far a lookup reads

A new lookup reads the configuration files above a path from the nearest upward.
It ends at the first one that is a root or that fails, and what stands anywhere
else on disk makes no difference.
-/

namespace HouseStyle
namespace EditorConfig

/-- The path of the configuration file of a folder. -/
def fileIn (folder : Path) : Path :=
  folder.join (Path.ofText fileName)

/-- The configuration file of a folder fails, with the failure that is reported for it. -/
inductive Fails (disk : Disk) (folder : Path) : Failure → Prop where
  /-- The file cannot be read, and not because there is none. -/
  | unreadable
      {fault : ReadFault}
      (read : disk.read (fileIn folder) = .error fault)
      (present : fault ≠ .missing) :
      Fails disk folder (.unreadable (fileIn folder).text fault.message)
  /-- The file has a malformed line; the first one is reported. -/
  | malformed
      {text : String}
      {before after : List (List Char)}
      {line : List Char}
      {lines : List Line}
      {fault : LineFault}
      (found : disk.read (fileIn folder) = .ok text)
      (split : Text.lines text.toList = before ++ line :: after)
      (read : List.Forall₂ Tells before lines)
      (wrong : readLine line = .error fault)
      (reported : fault ≠ .deepPattern) :
      Fails disk folder (.misconfigured (fileIn folder).text (before.length + 1) fault.message)
  /-- The file has a header that breaks the program, and no malformed line before it. -/
  | crash
      {text : String}
      {before after : List (List Char)}
      {line : List Char}
      {lines : List Line}
      (found : disk.read (fileIn folder) = .ok text)
      (split : Text.lines text.toList = before ++ line :: after)
      (read : List.Forall₂ Tells before lines)
      (wrong : readLine line = .error .deepPattern) :
      Fails disk folder .crash

/-- A folder has a well-formed file that says that it is the root. -/
def HoldsRoot (disk : Disk) (folder : Path) : Prop :=
  ∃ lines, Stands disk folder (some lines) ∧ declaresRoot lines = true

/-- No folder further up is read after such a folder. -/
def Ends (disk : Disk) (folder : Path) : Prop :=
  HoldsRoot disk folder ∨ ∃ failure, Fails disk folder failure

/-- The folders that are read among those above a path: from the nearest up to the first that
ends the search, or all of them. -/
structure IsReadUpTo (disk : Disk) (folders read : List Path) : Prop where
  /-- The nearest folders are read. -/
  isPrefix : read <+: folders
  /-- Only the last one may end the search. -/
  passes : ∀ folder ∈ read.dropLast, ¬Ends disk folder
  /-- The last one ends the search, unless it is the last of all. -/
  ends : read ≠ folders → ∃ last ∈ read.getLast?, Ends disk last

namespace Lookup

/-! ## What is found in a folder -/

theorem fails_of_inspect
    {disk : Disk}
    {folder : Path}
    {failure : Failure}
    (failed : inspect disk folder = .error failure) :
    Fails disk folder failure := by
  unfold inspect at failed
  dsimp only at failed
  split at failed
  · rename_i text found
    cases parsed : File.parse (folder.join (Path.ofText fileName)) text with
    | ok file =>
        simp only [File.read, parsed] at failed
        cases failed
    | error wrong =>
        simp only [File.read, parsed] at failed
        cases failed
        cases readAll : readLines 1 (Text.lines text.toList) with
        | ok lines =>
            rw [File.parse, readAll] at parsed
            cases parsed
        | error fault =>
            rw [File.parse, readAll] at parsed
            cases parsed
            obtain ⟨before, line, after, lines, split, read, failed, position⟩ :=
              readLines_eq_error_iff.mp readAll
            rw [position, Nat.add_comm]
            by_cases deep : wrong.2 = .deepPattern
            · rw [deep] at failed ⊢
              exact .crash found split read failed
            · rw [LineFault.failure_of_ne deep]
              exact .malformed found split read failed deep
  · cases failed
  · rename_i fault present read
    cases failed
    exact .unreadable read present

/-- A fault in a line of the file fails the whole folder. -/
theorem inspect_of_readLines_error
    {disk : Disk}
    {folder : Path}
    {text : String}
    {number : Nat}
    {fault : LineFault}
    (found : disk.read (fileIn folder) = .ok text)
    (wrong : readLines 1 (Text.lines text.toList) = .error (number, fault)) :
    inspect disk folder = .error (fault.failure (fileIn folder) number) := by
  rw [fileIn] at found
  simp only [inspect, found, File.read, File.parse, wrong]
  rfl

theorem inspect_of_fails
    {disk : Disk}
    {folder : Path}
    {failure : Failure}
    (fails : Fails disk folder failure) :
    inspect disk folder = .error failure := by
  cases fails with
  | @unreadable fault read present =>
      rw [fileIn] at read
      simp only [inspect, read]
      rfl
  | malformed found split read wrong reported =>
      rw [inspect_of_readLines_error found (readLines_eq_error_iff.mpr
        ⟨_, _, _, _, split, read, wrong, Nat.add_comm _ _⟩), LineFault.failure_of_ne reported]
  | crash found split read wrong =>
      rw [inspect_of_readLines_error found (readLines_eq_error_iff.mpr
        ⟨_, _, _, _, split, read, wrong, Nat.add_comm _ _⟩)]
      rfl

/-- A folder fails in exactly the ways that are described. -/
theorem inspect_eq_error_iff
    {disk : Disk}
    {folder : Path}
    {failure : Failure} :
    inspect disk folder = .error failure ↔ Fails disk folder failure :=
  ⟨fails_of_inspect, inspect_of_fails⟩

/-- A folder that does not fail holds no file or one with lines that say something. -/
theorem exists_stands_of_inspect
    {disk : Disk}
    {folder : Path}
    {found : Option File}
    (seen : inspect disk folder = .ok found) :
    ∃ lines?, Stands disk folder lines? ∧ found = lines?.map (fileOf folder) := by
  have stands : ∃ lines?, Stands disk folder lines? := by
    unfold inspect at seen
    dsimp only at seen
    split at seen
    · rename_i text read
      cases readAll : readLines 1 (Text.lines text.toList) with
      | error wrong =>
          simp only [File.read, File.parse, readAll] at seen
          cases seen
      | ok lines => exact ⟨some lines, .present read (readLines_eq_ok_iff.mp readAll)⟩
    · rename_i read
      exact ⟨none, .absent read⟩
    · cases seen
  obtain ⟨lines?, stands⟩ := stands
  rw [inspect_of_stands stands] at seen
  exact ⟨lines?, stands, (Except.ok.inj seen).symm⟩

theorem isRoot_fileOf
    {disk : Disk}
    {folder : Path}
    {lines : List Line}
    (stands : Stands disk folder (some lines)) :
    (fileOf folder lines).isRoot = declaresRoot lines :=
  statesRoot_eq_declaresRoot stands.hasPlainKeys

/-- A survey of the disk goes on unless a folder ends it. -/
theorem goesOn_inspect_iff
    {disk : Disk}
    {folder : Path} :
    goesOn (inspect disk folder) = true ↔ ¬Ends disk folder := by
  cases seen : inspect disk folder with
  | error failure =>
      have ends : Ends disk folder := .inr ⟨failure, inspect_eq_error_iff.mp seen⟩
      exact iff_of_false Bool.false_ne_true (not_not_intro ends)
  | ok found =>
      obtain ⟨lines?, stands, rfl⟩ := exists_stands_of_inspect seen
      have sound : ¬∃ failure, Fails disk folder failure := by
        rintro ⟨failure, fails⟩
        rw [inspect_of_fails fails] at seen
        cases seen
      rw [Ends, or_iff_left sound]
      cases lines? with
      | none =>
          have absent : ¬HoldsRoot disk folder := by
            rintro ⟨lines, otherwise, -⟩
            rw [inspect_of_stands otherwise] at seen
            cases seen
          exact iff_of_true rfl absent
      | some lines =>
          have root : HoldsRoot disk folder ↔ declaresRoot lines = true := by
            constructor
            · rintro ⟨others, otherwise, declared⟩
              rw [inspect_of_stands otherwise] at seen
              have same : fileOf folder others = fileOf folder lines :=
                Option.some.inj (Except.ok.inj seen)
              rwa [← isRoot_fileOf stands, ← same, isRoot_fileOf otherwise]
            · intro declared
              exact ⟨lines, stands, declared⟩
          rw [root, Option.map_some, goesOn, isRoot_fileOf stands, Bool.not_eq_true',
            Bool.not_eq_true]

/-! ## The folders that are read -/

/-- Folders are read from the nearest one up to the first that ends the search. -/
theorem isReadUpTo_reached (disk : Disk) (folders : List Path) :
    IsReadUpTo disk folders (reached (inspect disk) folders) := by
  refine ⟨reached_isPrefix _ _, ?_, ?_⟩
  · induction folders with
    | nil => simp [reached]
    | cons folder rest inductionHypothesis =>
        intro passed early
        rw [reached] at early
        split at early
        · rename_i on
          cases further : reached (inspect disk) rest with
          | nil => simp [further] at early
          | cons next others =>
              rw [further, List.dropLast_cons_cons, ← further] at early
              rcases List.mem_cons.mp early with rfl | later
              · exact goesOn_inspect_iff.mp on
              · exact inductionHypothesis passed later
        · simp at early
  · induction folders with
    | nil => exact fun different => absurd rfl different
    | cons folder rest inductionHypothesis =>
        intro different
        rw [reached] at different ⊢
        split
        · rename_i on
          rw [if_pos on] at different
          have shorter : reached (inspect disk) rest ≠ rest := fun same => different (by rw [same])
          obtain ⟨last, isLast, ends⟩ := inductionHypothesis shorter
          refine ⟨last, ?_, ends⟩
          rw [Option.mem_def] at isLast ⊢
          rw [List.getLast?_cons, isLast, Option.getD_some]
        · rename_i off
          have ends : Ends disk folder := by
            by_contra passes
            exact off (goesOn_inspect_iff.mpr passes)
          exact ⟨folder, rfl, ends⟩

/-- A survey of the disk fails with the failure of the nearest folder that fails, unless a root
is nearer. -/
theorem survey_inspect_eq_error_iff
    {disk : Disk}
    {folders : List Path}
    {failure : Failure} :
    survey (inspect disk) folders = .error failure ↔
      ∃ before folder after, folders = before ++ folder :: after ∧
        (∀ nearer ∈ before, ¬Ends disk nearer) ∧ Fails disk folder failure := by
  rw [survey_eq_error_iff]
  constructor
  · rintro ⟨folder, isReached, failed⟩
    obtain ⟨before, after, split, pass⟩ := mem_reached_iff.mp isReached
    exact ⟨before, folder, after, split,
      fun nearer below => goesOn_inspect_iff.mp (pass nearer below),
      inspect_eq_error_iff.mp failed⟩
  · rintro ⟨before, folder, after, split, passes, fails⟩
    exact ⟨folder, mem_reached_iff.mpr ⟨before, after, split,
      fun nearer below => goesOn_inspect_iff.mpr (passes nearer below)⟩,
      inspect_eq_error_iff.mpr fails⟩

/-- Above a root nothing is read, whatever stands there. -/
theorem exists_survey_of_holdsRoot
    {disk : Disk}
    {nearest : Path}
    (root : HoldsRoot disk nearest)
    (rest : List Path) :
    ∃ file, survey (inspect disk) (nearest :: rest) = .ok [file] := by
  obtain ⟨lines, stands, declared⟩ := root
  refine ⟨fileOf nearest lines, ?_⟩
  rw [survey, inspect_of_stands stands]
  simp only [Option.map_some, isRoot_fileOf stands, declared, if_true]

/-- A folder is judged by its one configuration file. -/
theorem inspect_congr
    {disk other : Disk}
    {folder : Path}
    (same : other.read (fileIn folder) = disk.read (fileIn folder)) :
    inspect other folder = inspect disk folder := by
  rw [fileIn] at same
  simp only [inspect, same]

/-! ## The values that hold for a path -/

/--
A new lookup reads the configuration files above a path from the nearest upward.
It reads no further than the first one that is a root or that fails, and fails
exactly if a file that it reads does.  It then remembers what it has read.  Any
other disk with the same files there gives the same values, and every one of
these files counts: on a disk where the nearer ones are the same and this one
fails, the lookup fails with it.
-/
theorem properties_reads_up_to_root
    (disk : Disk)
    (workspace : Path)
    (path : String) :
    let target := workspace.join (Path.ofText path)
    let result := (make workspace).properties disk path
    target.parents.map Path.components =
        target.components.2.inits.dropLast.reverse.map (target.isAbsolute, ·) ∧
      (∀ failure, result.1 = .error failure ↔
        ∃ before folder after, target.parents = before ++ folder :: after ∧
          (∀ nearer ∈ before, ¬Ends disk nearer) ∧ Fails disk folder failure) ∧
      ∃ read, IsReadUpTo disk target.parents read ∧
        result.2.findings =
          (read.filterMap fun folder =>
            (inspect disk folder).toOption.map (folder.key, ·)).reverse ∧
        (∀ other : Disk,
          (∀ folder ∈ read, other.read (fileIn folder) = disk.read (fileIn folder)) →
          (make workspace).properties other path = result) ∧
        ∀ (other : Disk) before folder after failure, read = before ++ folder :: after →
          (∀ nearer ∈ before, other.read (fileIn nearer) = disk.read (fileIn nearer)) →
          Fails other folder failure →
          ((make workspace).properties other path).1 = .error failure := by
  intro target result
  have fails_iff (state : Disk) (failure : Failure) :
      ((make workspace).properties state path).1 = .error failure ↔
        ∃ before folder after, target.parents = before ++ folder :: after ∧
          (∀ nearer ∈ before, ¬Ends state nearer) ∧ Fails state folder failure := by
    rw [← survey_inspect_eq_error_iff, properties_make_eq]
    cases survey (inspect state) target.parents <;> simp [Except.map]
  have upTo := isReadUpTo_reached disk target.parents
  refine ⟨target.map_components_parents, fails_iff disk, reached (inspect disk) target.parents,
    upTo, ?_, ?_, ?_⟩
  · exact congrArg (fun found => found.2.findings) (properties_make_eq disk workspace path)
  · intro other agree
    have same (folder : Path) (read : folder ∈ reached (inspect disk) target.parents) :
        inspect other folder = inspect disk folder :=
      inspect_congr (agree folder read)
    have sameLessons := List.filterMap_congr fun folder read => congrArg
      (fun found : Except Failure (Option File) => found.toOption.map (folder.key, ·))
      (same folder read)
    change (make workspace).properties other path = (make workspace).properties disk path
    rw [properties_make_eq, properties_make_eq, survey_congr same, reached_congr same, sameLessons]
  · intro other before folder after failure split agree fails
    rw [fails_iff other]
    obtain ⟨beyond, whole⟩ := upTo.isPrefix
    refine ⟨before, folder, after ++ beyond, ?_, fun nearer below => ?_, fails⟩
    · rw [← whole, split, List.append_assoc, List.cons_append]
    · have early : nearer ∈ (reached (inspect disk) target.parents).dropLast := by
        rw [split, List.dropLast_append_cons]
        exact List.mem_append_left _ below
      rw [← goesOn_inspect_iff, inspect_congr (agree nearer below), goesOn_inspect_iff]
      exact upTo.passes nearer early

/-- A workspace with a root file, and whatever else is on the disk. -/
def rootedDisk (others : List (List String × Item)) : Disk where
  items := [
    (["w"], .folder),
    (["w", ".editorconfig"], .file (some "root = true\n[*]\nkey = value\n"))] ++ others
  workingFolder := []

theorem ofText_fileName : Path.ofText fileName = ⟨false, [".editorconfig"]⟩ := by
  decide +kernel

theorem read_rootedDisk (others : List (List String × Item)) :
    (rootedDisk others).read ((⟨true, ["w"]⟩ : Path).join (Path.ofText fileName)) =
      .ok "root = true\n[*]\nkey = value\n" := by
  rw [ofText_fileName, Disk.read_eq_follow (by decide) (by decide) (by decide)]
  simp +decide [Disk.follow, Disk.itemAt?, Disk.textAt, rootedDisk, List.lookup_cons,
    Except.bind, Path.join]

theorem holdsRoot_rootedDisk (others : List (List String × Item)) :
    HoldsRoot (rootedDisk others) ⟨true, ["w"]⟩ := by
  have declared : (said? ["root = true", "[*]", "key = value"]).any declaresRoot = true := by
    decide +kernel
  obtain ⟨lines, told, isRoot⟩ := (Option.any_eq_true _ _).mp declared
  have stands := stands_said? (read_rootedDisk others)
    (show _ = ["root = true", "[*]", "key = value"].map String.toList by decide +kernel)
    (by rw [told, Option.isSome_some])
  rw [told] at stands
  exact ⟨lines, stands, isRoot⟩

/-- A malformed file above a root makes no difference. -/
theorem properties_reads_up_to_root_sample :
    let malformed : Disk := rootedDisk [([".editorconfig"], .file (some "malformed"))]
    (∃ failure, Fails malformed ⟨true, []⟩ failure) ∧
      (make (Path.ofText "/w")).properties malformed "A.cs" =
        (make (Path.ofText "/w")).properties (rootedDisk []) "A.cs" := by
  intro malformed
  constructor
  · have read : malformed.read (fileIn ⟨true, []⟩) = .ok "malformed" := by
      rw [fileIn, ofText_fileName, Disk.read_eq_follow (by decide) (by decide) (by decide)]
      simp +decide [Disk.follow, Disk.itemAt?, Disk.textAt, malformed, rootedDisk,
        List.lookup_cons, Except.bind, Path.join]
    have cut : Text.lines "malformed".toList = [] ++ "malformed".toList :: [] := by decide +kernel
    exact ⟨_, .malformed read cut .nil rfl (by decide)⟩
  · obtain ⟨-, -, read, upTo, -, same, -⟩ :=
      properties_reads_up_to_root (rootedDisk []) (Path.ofText "/w") "A.cs"
    refine same malformed fun folder isRead => ?_
    have parents : ((Path.ofText "/w").join (Path.ofText "A.cs")).parents =
        [⟨true, ["w"]⟩, ⟨true, []⟩] := by decide +kernel
    obtain ⟨beyond, whole⟩ := upTo.isPrefix
    rw [parents] at whole
    have nearest : folder = ⟨true, ["w"]⟩ := by
      rcases read with _ | ⟨first, _ | ⟨second, others⟩⟩
      · cases isRead
      · rw [List.mem_singleton.mp isRead]
        exact (List.cons.inj whole).1
      · -- After the root nothing is read.
        have passes := upTo.passes first List.mem_cons_self
        rw [(List.cons.inj whole).1] at passes
        exact absurd (.inl (holdsRoot_rootedDisk [])) passes
    rw [nearest, fileIn, read_rootedDisk, read_rootedDisk]

end Lookup
end EditorConfig
end HouseStyle
