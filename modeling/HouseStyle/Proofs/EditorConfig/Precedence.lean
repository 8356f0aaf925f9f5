import HouseStyle.Proofs.Association
import HouseStyle.Proofs.EditorConfig.Grammar
import HouseStyle.Proofs.EditorConfig.Survey
import Mathlib.Data.List.Induction

/-!
# The last assignment wins

Read from the farthest file that counts to the nearest, and in each file from the
first line to the last, the lines in sections that apply to a path assign values
to keys.  A lookup answers with the last assignment to the key that it is asked
for, unless that one is `unset`.
-/

namespace HouseStyle

/-- Reading a path that is spelled properly follows it to a place. -/
theorem Disk.read_eq_follow
    {disk : Disk}
    {path : Path}
    (short : path.text.utf8ByteSize ≤ pathLimit)
    (plain : path.holdsNul = false)
    (spelled : path.isEmpty = false) :
    disk.read path =
      (disk.follow false linkLimit (if path.isAbsolute then [] else disk.workingFolder)
        path.pieces).bind disk.textAt := by
  rw [read, if_neg (by simp [short]), resolve, plain, spelled]
  rfl

namespace Properties

theorem get?_erase (properties : Properties) (key other : String) :
    (properties.erase key).get? other = if key = other then none else properties.get? other :=
  Association.lookup_filter_ne key other properties.entries

theorem get?_insert
    (properties : Properties)
    (key other : String)
    (value : OptionValue) :
    (properties.insert key value).get? other =
      if key = other then some value else properties.get? other := by
  have erased := properties.get?_erase key other
  unfold get? at erased
  rw [get?, insert, List.lookup_cons, erased]
  grind [get?]

end Properties

namespace EditorConfig

/-! ## What the files say -/

namespace Line

/-- The line begins a section. -/
def isHeader : Line → Bool
  | .header _ => true
  | _ => false

/-- The value that the line states under a key, up to the case of its letters. -/
def value? (key : String) : Line → Option String
  | .property stated value =>
      if Text.sameIgnoringCase stated.toList key.toList then some value else none
  | _ => none

end Line

/-- The lines before the first header. -/
def upToHeader (lines : List Line) : List Line :=
  lines.takeWhile fun line => !line.isHeader

/-- The last line for `root` before the first header has the value `true`. -/
def declaresRoot (lines : List Line) : Bool :=
  ((upToHeader lines).filterMap (Line.value? "root")).getLast?.any fun value =>
    Text.sameIgnoringCase value.toList "true".toList

/-- The values that lines assign to a key in the sections that apply; the flag tells whether the
section at hand does. -/
def assigned (applies : Glob → Bool) (key : String) : Bool → List Line → List String
  | _, [] => []
  | _, .header glob :: rest => assigned applies key (applies glob) rest
  | inside, line :: rest =>
      (if inside then (line.value? key).toList else []) ++ assigned applies key inside rest

/-- A text with its backslashes turned into slashes. -/
def withSlashes (text : String) : String :=
  String.ofList (text.toList.map fun character => if character = '\\' then '/' else character)

/-- A section with a pattern applies to a path, as it is seen from the folder of the file and
written with slashes. -/
def appliesFrom (folder target : Path) (glob : Glob) : Bool :=
  (target.relativeTo? folder).any fun relative => glob.matchesText (withSlashes relative.text)

/-- The files above a path, nearest first, with their folders. -/
def filesAbove (contents : Path → Option (List Line)) (target : Path) : List (Path × List Line) :=
  target.parents.filterMap fun folder => (contents folder).map (folder, ·)

/-- The files, given nearest first, up to and including the nearest one that is a root. -/
def throughRoot (files : List (Path × List Line)) : List (Path × List Line) :=
  files.takeWhile (fun file => !declaresRoot file.2) ++
    (files.find? fun file => declaresRoot file.2).toList

/-- What files, given nearest first, assign to a key, the farthest file first; each value comes
with the folder of its file. -/
def assignments
    (target : Path)
    (key : String)
    (files : List (Path × List Line)) : List (Path × String) :=
  files.reverse.flatMap fun file =>
    (assigned (appliesFrom file.1 target) key false file.2).map (file.1, ·)

/-- What an assignment makes a lookup answer: nothing for `unset`, and otherwise the value up to
its first colon, trimmed. -/
def answerOf (assignment : Path × String) : Option OptionValue :=
  if Text.sameIgnoringCase assignment.2.toList "unset".toList then
    none
  else
    some ⟨String.ofList (Text.trim (assignment.2.toList.takeWhile (· ≠ ':'))),
      .editorConfig (assignment.1.join (Path.ofText fileName)).text⟩

/-- On disk, a folder has a configuration file whose lines say something, or none. -/
inductive Stands (disk : Disk) (folder : Path) : Option (List Line) → Prop where
  /-- There is no file. -/
  | absent
      (missing : disk.read (folder.join (Path.ofText fileName)) = .error .missing) :
      Stands disk folder none
  /-- There is a file, and each of its lines follows the grammar. -/
  | present
      {text : String}
      {lines : List Line}
      (found : disk.read (folder.join (Path.ofText fileName)) = .ok text)
      (read : List.Forall₂ Tells (Text.lines text.toList) lines) :
      Stands disk folder (some lines)

/-! ## Lines and sections -/

/-- The keys in lines are in small letters. -/
def HasPlainKeys (lines : List Line) : Prop :=
  ∀ key value, Line.property key value ∈ lines → Text.lower key.toList = key.toList

theorem hasPlainKeys_of_tells
    {texts : List (List Char)}
    {lines : List Line}
    (read : List.Forall₂ Tells texts lines) :
    HasPlainKeys lines := by
  intro key value stated
  induction read with
  | nil => cases stated
  | cons tells _ inductionHypothesis =>
      rcases List.mem_cons.mp stated with rfl | further
      · exact tells.lower_key
      · exact inductionHypothesis further

theorem HasPlainKeys.tail
    {line : Line}
    {rest : List Line}
    (plain : HasPlainKeys (line :: rest)) :
    HasPlainKeys rest :=
  fun key value stated => plain key value (List.mem_cons_of_mem line stated)

theorem sameIgnoringCase_iff_eq_plainKey
    {stated : String}
    (plain : Text.lower stated.toList = stated.toList)
    (key : String) :
    Text.sameIgnoringCase stated.toList key.toList = true ↔ stated = plainKey key := by
  rw [Text.sameIgnoringCase_iff, plain, plainKey]
  constructor
  · intro same
    rw [← same, String.ofList_toList]
  · intro same
    rw [same, String.toList_ofList]

theorem upToHeader_property
    (key value : String)
    (rest : List Line) :
    upToHeader (.property key value :: rest) = .property key value :: upToHeader rest := rfl

/-- The values under a key among the stated ones are those that the lines before the next header
state. -/
theorem map_snd_filter_propertiesOf
    {lines : List Line}
    (plain : HasPlainKeys lines)
    (key : String) :
    ((propertiesOf lines).filter fun entry => entry.1 == plainKey key).map Prod.snd =
      (upToHeader lines).filterMap (Line.value? key) := by
  induction lines with
  | nil => rfl
  | cons line rest inductionHypothesis =>
      have further := inductionHypothesis plain.tail
      cases line with
      | silent => exact further
      | header glob => rfl
      | property stated value =>
          have same := sameIgnoringCase_iff_eq_plainKey
            (plain stated value List.mem_cons_self) key
          simp only [propertiesOf, List.filter_cons, beq_iff_eq, upToHeader_property,
            List.filterMap_cons, Line.value?, same]
          by_cases asked : stated = plainKey key
          · simp only [asked, if_true, List.map_cons, further]
          · simp only [asked, if_false, further]

theorem propertiesOf_preamble (lines : List Line) :
    propertiesOf (preamble lines) = propertiesOf lines := by
  induction lines with
  | nil => rfl
  | cons line rest inductionHypothesis =>
      cases line with
      | silent => exact inductionHypothesis
      | header glob => rfl
      | property key value => exact congrArg ((key, value) :: ·) inductionHypothesis

theorem statesRoot_eq_declaresRoot
    {lines : List Line}
    (plain : HasPlainKeys lines) :
    statesRoot lines = declaresRoot lines := by
  have values := map_snd_filter_propertiesOf plain "root"
  rw [declaresRoot, ← values, List.getLast?_map, statesRoot, propertiesOf_preamble, Option.any_map]
  rfl

section Assigned

variable
  (applies : Glob → Bool)
  (key : String)

/-- In a section that applies, the lines up to the next header count. -/
theorem assigned_true (lines : List Line) :
    assigned applies key true lines =
      (upToHeader lines).filterMap (Line.value? key) ++ assigned applies key false lines := by
  induction lines with
  | nil => rfl
  | cons line rest inductionHypothesis =>
      cases line with
      | silent => exact inductionHypothesis
      | header glob => rfl
      | property stated value =>
          simp only [assigned, inductionHypothesis, if_true, Bool.false_eq_true, if_false,
            List.nil_append, upToHeader_property, List.filterMap_cons]
          cases Line.value? key (.property stated value) <;> rfl

/-- The values assigned are those under the key in the sections that apply. -/
theorem assigned_false
    {lines : List Line}
    (plain : HasPlainKeys lines) :
    assigned applies key false lines =
      ((((sectionsOf lines).filter fun part => applies part.glob).flatMap
        Section.properties).filter fun entry => entry.1 == plainKey key).map Prod.snd := by
  induction lines with
  | nil => rfl
  | cons line rest inductionHypothesis =>
      have further := inductionHypothesis plain.tail
      cases line with
      | silent => exact further
      | property stated value => exact further
      | header glob =>
          rw [assigned, sectionsOf, List.filter_cons]
          cases applies glob with
          | false => exact further
          | true =>
              rw [assigned_true, further, if_pos rfl, List.flatMap_cons, List.filter_append,
                List.map_append, map_snd_filter_propertiesOf plain.tail key]

end Assigned

/-! ## Taking in the lines of one file -/

theorem stripSeverity_eq (value : String) :
    stripSeverity value = String.ofList (Text.trim (value.toList.takeWhile (· ≠ ':'))) := by
  rw [stripSeverity, Text.fst_cutFirst?_getD]

/-- The file that given lines make up in a folder. -/
def fileOf (folder : Path) (lines : List Line) : File where
  path := folder.join (Path.ofText fileName)
  isRoot := statesRoot lines
  sections := sectionsOf lines

theorem folder_fileOf
    {folder : Path}
    (trim : folder.IsTrim)
    (lines : List Line) :
    (fileOf folder lines).folder = folder := by
  have parent : (folder.join (Path.ofText fileName)).parent? = some folder :=
    Path.parent?_join trim rfl
  rw [File.folder, fileOf, parent, Option.getD_some]

section OneFile

variable
  (folder : Path)
  (lines : List Line)
  (key : String)

theorem get?_applyProperty (properties : Properties) (entry : String × String) :
    ((fileOf folder lines).applyProperty properties entry).get? key =
      if entry.1 = key then answerOf (folder, entry.2) else properties.get? key := by
  unfold File.applyProperty answerOf
  split
  · exact properties.get?_erase entry.1 key
  · rw [Properties.get?_insert, stripSeverity_eq]
    rfl

/-- Of the lines taken in, the last one for a key decides its value. -/
theorem get?_foldl_applyProperty
    (entries : List (String × String))
    (properties : Properties) :
    (entries.foldl (fileOf folder lines).applyProperty properties).get? key =
      (((entries.filter fun entry => entry.1 == key).map Prod.snd).getLast?.map fun value =>
        answerOf (folder, value)).getD (properties.get? key) := by
  -- From the end: the last line either decides, or leaves what the lines before it made.
  induction entries using List.reverseRecOn with
  | nil => rfl
  | append_singleton entries last inductionHypothesis =>
      rw [List.foldl_append, List.foldl_cons, List.foldl_nil, get?_applyProperty,
        inductionHypothesis, List.filter_append, List.map_append]
      by_cases asked : last.1 = key
      · simp [asked]
      · simp [asked]

/-- What a file makes of a value: its own last assignment, or the value from before. -/
theorem get?_apply
    {target relative : Path}
    (trim : folder.IsTrim)
    (seen : target.relativeTo? folder = some relative)
    (plain : HasPlainKeys lines)
    (properties : Properties) :
    ((fileOf folder lines).apply target properties).get? (plainKey key) =
      ((assigned (appliesFrom folder target) key false lines).getLast?.map fun value =>
        answerOf (folder, value)).getD (properties.get? (plainKey key)) := by
  have applies : appliesFrom folder target =
      fun glob => glob.matchesText (withSlashes relative.text) := by
    funext glob
    rw [appliesFrom, seen, Option.any_some]
  have text : (fileOf folder lines).relativeText? target = some (withSlashes relative.text) := by
    rw [File.relativeText?, folder_fileOf trim, seen]
    rfl
  rw [assigned_false _ _ plain, applies, File.apply, text]
  exact get?_foldl_applyProperty folder lines (plainKey key) _ properties

end OneFile

/-! ## Files on top of each other -/

theorem assignments_cons
    (target : Path)
    (key : String)
    (file : Path × List Line)
    (rest : List (Path × List Line)) :
    assignments target key (file :: rest) =
      assignments target key rest ++
        (assigned (appliesFrom file.1 target) key false file.2).map (file.1, ·) := by
  rw [assignments, List.reverse_cons, List.flatMap_append, List.flatMap_singleton, assignments]

/-- Files taken in from the farthest to the nearest leave the last assignment of all. -/
theorem get?_combine
    {target : Path}
    {files : List (Path × List Line)}
    (above : ∀ file ∈ files, file.1 ∈ target.parents)
    (plain : ∀ file ∈ files, HasPlainKeys file.2)
    (key : String) :
    (Lookup.combine (files.map fun file => fileOf file.1 file.2) target).get? (plainKey key) =
      (assignments target key files).getLast?.bind answerOf := by
  induction files with
  | nil => rfl
  | cons file rest inductionHypothesis =>
      obtain ⟨-, trim, -⟩ := Path.mem_parents (above file List.mem_cons_self)
      obtain ⟨relative, seen, -⟩ :=
        Path.exists_relativeTo?_of_mem_parents (above file List.mem_cons_self)
      have further := inductionHypothesis
        (fun other present => above other (List.mem_cons_of_mem file present))
        (fun other present => plain other (List.mem_cons_of_mem file present))
      have nearest := get?_apply file.1 file.2 key trim seen (plain file List.mem_cons_self)
        (Lookup.combine (rest.map fun file => fileOf file.1 file.2) target)
      -- The nearest file is taken in last, and its assignments stand at the end.
      refine nearest.trans ?_
      rw [further, assignments_cons, List.getLast?_append, List.getLast?_map]
      cases (assigned (appliesFrom file.1 target) key false file.2).getLast? <;> rfl

theorem Stands.hasPlainKeys
    {disk : Disk}
    {folder : Path}
    {lines : List Line}
    (stands : Stands disk folder (some lines)) :
    HasPlainKeys lines := by
  cases stands with
  | present _ read => exact hasPlainKeys_of_tells read

theorem throughRoot_cons
    (file : Path × List Line)
    (rest : List (Path × List Line)) :
    throughRoot (file :: rest) =
      if declaresRoot file.2 then [file] else file :: throughRoot rest := by
  unfold throughRoot
  cases root : declaresRoot file.2 <;> simp [root]

theorem mem_of_mem_throughRoot
    {file : Path × List Line}
    {files : List (Path × List Line)}
    (counts : file ∈ throughRoot files) :
    file ∈ files := by
  rcases List.mem_append.mp counts with before | root
  · exact (List.takeWhile_sublist _).subset before
  · exact List.mem_of_find?_eq_some (Option.mem_toList.mp root)

theorem mem_filesAbove
    {contents : Path → Option (List Line)}
    {target : Path}
    {file : Path × List Line}
    (present : file ∈ filesAbove contents target) :
    file.1 ∈ target.parents ∧ contents file.1 = some file.2 := by
  obtain ⟨folder, above, found⟩ := List.mem_filterMap.mp present
  obtain ⟨lines, stated, rfl⟩ := Option.map_eq_some_iff.mp found
  exact ⟨above, stated⟩

theorem inspect_of_stands
    {disk : Disk}
    {folder : Path}
    {lines? : Option (List Line)}
    (stands : Stands disk folder lines?) :
    Lookup.inspect disk folder = .ok (lines?.map (fileOf folder)) := by
  cases stands with
  | absent missing =>
      simp only [Lookup.inspect, missing]
      rfl
  | present found read =>
      have parsed : readLines 1 _ = .ok _ := readLines_eq_ok_iff.mpr read
      simp only [Lookup.inspect, found, File.read, File.parse, parsed]
      rfl

/-- The files that count are those up to the nearest root. -/
theorem survey_of_stands
    {disk : Disk}
    {contents : Path → Option (List Line)}
    {folders : List Path}
    (stands : ∀ folder ∈ folders, Stands disk folder (contents folder)) :
    Lookup.survey (Lookup.inspect disk) folders =
      .ok ((throughRoot (folders.filterMap fun folder =>
        (contents folder).map (folder, ·))).map fun file => fileOf file.1 file.2) := by
  induction folders with
  | nil => rfl
  | cons folder rest inductionHypothesis =>
      have here := stands folder List.mem_cons_self
      have further := inductionHypothesis
        fun other present => stands other (List.mem_cons_of_mem folder present)
      rw [Lookup.survey, inspect_of_stands here, List.filterMap_cons]
      cases found : contents folder with
      | none => exact further
      | some lines =>
          -- The survey stops where the file calls itself the root, which its lines tell.
          rw [found] at here
          have root : (fileOf folder lines).isRoot = declaresRoot lines :=
            statesRoot_eq_declaresRoot here.hasPlainKeys
          simp only [Option.map_some, throughRoot_cons, root, further]
          cases declaresRoot lines <;> rfl

/-! ## The answer of a lookup -/

/--
A new lookup answers by the last assignment.  The files that count are taken from
the farthest to the nearest, the nearest root being the farthest one; in each
file the sections count that match the path as seen from the folder of the file,
and in these the lines for the key.  The folders above a path say its proper
beginnings, and from each of them the path is seen as what it says afterwards.
-/
theorem get_eq_last_assignment
    (disk : Disk)
    (workspace : Path)
    (path key : String)
    (contents : Path → Option (List Line))
    (stands : ∀ folder ∈ (workspace.join (Path.ofText path)).parents,
      Stands disk folder (contents folder)) :
    let target := workspace.join (Path.ofText path)
    target.parents.map Path.components =
        target.components.2.inits.dropLast.reverse.map (target.isAbsolute, ·) ∧
      (∀ folder ∈ target.parents, ∃ relative, target.relativeTo? folder = some relative ∧
        target.components =
          (folder.components.1, folder.components.2 ++ relative.components.2)) ∧
      ((Lookup.make workspace).get disk path key).1 =
        .ok ((assignments target key (throughRoot (filesAbove contents target))).getLast?.bind
          answerOf) := by
  intro target
  refine ⟨target.map_components_parents,
    fun folder above => Path.exists_relativeTo?_of_mem_parents above, ?_⟩
  have consulted := Lookup.properties_make disk workspace path
  rw [survey_of_stands stands] at consulted
  have answered : ((Lookup.make workspace).get disk path key).1 =
      ((Lookup.make workspace).properties disk path).1.map fun properties =>
        properties.get? (plainKey key) := rfl
  rw [answered, consulted]
  refine congrArg Except.ok (get?_combine ?_ ?_ key)
  · intro file counts
    exact (mem_filesAbove (mem_of_mem_throughRoot counts)).1
  · intro file counts
    obtain ⟨above, found⟩ := mem_filesAbove (mem_of_mem_throughRoot counts)
    have here := stands file.1 above
    rw [found] at here
    exact here.hasPlainKeys

/-- A workspace with a root file and a nearer file, which removes a value and states it again. -/
def sampleDisk : Disk where
  items := [
    (["w"], .folder),
    (["w", ".editorconfig"], .file (some "root = true\n[*.cs]\nKey = far:warning\n")),
    (["w", "src"], .folder),
    (["w", "src", ".editorconfig"],
      .file (some "[*.cs]\nkey = unset\n[A.*]\nKEY = near : silent\n"))]
  workingFolder := []

/-- The lines of the root file. -/
def sampleFar : List String :=
  ["root = true", "[*.cs]", "Key = far:warning"]

/-- The lines of the nearer file. -/
def sampleNear : List String :=
  ["[*.cs]", "key = unset", "[A.*]", "KEY = near : silent"]

/-- What lines say, if all of them can be read. -/
def said? (lines : List String) : Option (List Line) :=
  (readLines 1 (lines.map String.toList)).toOption

theorem forall₂_tells_said?
    {lines : List String}
    (readable : (said? lines).isSome = true) :
    ∃ told, said? lines = some told ∧ List.Forall₂ Tells (lines.map String.toList) told := by
  unfold said? at readable ⊢
  cases read : readLines 1 (lines.map String.toList) with
  | error fault =>
      rw [read] at readable
      cases readable
  | ok told => exact ⟨told, rfl, readLines_eq_ok_iff.mp read⟩

theorem stands_said?
    {disk : Disk}
    {folder : Path}
    {text : String}
    {lines : List String}
    (found : disk.read (folder.join (Path.ofText fileName)) = .ok text)
    (cut : Text.lines text.toList = lines.map String.toList)
    (readable : (said? lines).isSome = true) :
    Stands disk folder (said? lines) := by
  obtain ⟨told, said, tells⟩ := forall₂_tells_said? readable
  rw [said]
  exact .present found (cut ▸ tells)

/-- What the files of the sample say. -/
def sampleContents (folder : Path) : Option (List Line) :=
  if folder.pieces = ["w", "src"] then said? sampleNear
  else if folder.pieces = ["w"] then said? sampleFar
  else none

theorem get_eq_last_assignment_sample :
    (∀ folder ∈ ((Path.ofText "/w").join (Path.ofText "src/A.cs")).parents,
        Stands sampleDisk folder (sampleContents folder)) ∧
      ((Lookup.make (Path.ofText "/w")).get sampleDisk "src/A.cs" "kEy").1 =
        .ok (some ⟨"near", .editorConfig "/w/src/.editorconfig"⟩) := by
  have parents : ((Path.ofText "/w").join (Path.ofText "src/A.cs")).parents =
      [⟨true, ["w", "src"]⟩, ⟨true, ["w"]⟩, ⟨true, []⟩] := by decide +kernel
  have name : Path.ofText fileName = ⟨false, [".editorconfig"]⟩ := by decide +kernel
  have near : sampleDisk.read ((⟨true, ["w", "src"]⟩ : Path).join (Path.ofText fileName)) =
      .ok "[*.cs]\nkey = unset\n[A.*]\nKEY = near : silent\n" := by
    rw [name, Disk.read_eq_follow (by decide) (by decide) (by decide)]
    simp +decide [Disk.follow, Disk.itemAt?, Disk.textAt, sampleDisk, List.lookup_cons,
      Except.bind, Path.join]
  have far : sampleDisk.read ((⟨true, ["w"]⟩ : Path).join (Path.ofText fileName)) =
      .ok "root = true\n[*.cs]\nKey = far:warning\n" := by
    rw [name, Disk.read_eq_follow (by decide) (by decide) (by decide)]
    simp +decide [Disk.follow, Disk.itemAt?, Disk.textAt, sampleDisk, List.lookup_cons,
      Except.bind, Path.join]
  have missing : sampleDisk.read ((⟨true, []⟩ : Path).join (Path.ofText fileName)) =
      .error .missing := by
    rw [name, Disk.read_eq_follow (by decide) (by decide) (by decide)]
    simp +decide [Disk.follow, Disk.itemAt?, sampleDisk, List.lookup_cons, Except.bind, Path.join]
  have stands : ∀ folder ∈ ((Path.ofText "/w").join (Path.ofText "src/A.cs")).parents,
      Stands sampleDisk folder (sampleContents folder) := by
    intro folder above
    rw [parents, List.mem_cons, List.mem_cons, List.mem_singleton] at above
    rcases above with rfl | rfl | rfl
    · rw [sampleContents, if_pos rfl]
      exact stands_said? near (by decide +kernel) (by decide +kernel)
    · rw [sampleContents, if_neg (by decide), if_pos rfl]
      exact stands_said? far (by decide +kernel) (by decide +kernel)
    · rw [sampleContents, if_neg (by decide), if_neg (by decide)]
      exact .absent missing
  refine ⟨stands, ?_⟩
  obtain ⟨-, -, answered⟩ := get_eq_last_assignment sampleDisk (Path.ofText "/w") "src/A.cs" "kEy"
    sampleContents stands
  rw [answered]
  exact congrArg Except.ok (by decide +kernel)

end EditorConfig
end HouseStyle
