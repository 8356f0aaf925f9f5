import HouseStyle.Artifact
import HouseStyle.Proofs.Text.Lines

/-!
# Normal forms of artifact paths

The normal form of a path is what is left of it, with slashes for backslashes,
after every `./` at its start.  An artifact is found under each spelling with its
normal form, and its folders and its file name are the pieces of that form.
-/

namespace HouseStyle
namespace Artifact

/-- The path with backslashes for slashes. -/
def backSlashes (path : String) : String :=
  String.ofList (path.toList.map fun character => if character = '/' then '\\' else character)

/-- The artifact was made at a path; its folders may have been replaced since. -/
inductive MadeAt (path : String) : Artifact → Prop where
  | make (identity : Nat) (content : Content) : MadeAt path (make identity path content)
  | withFolders
      {artifact : Artifact}
      (made : MadeAt path artifact)
      (folders : List String) :
      MadeAt path (artifact.withFolders folders)

/-- The texts hold no slash and make up the path with slashes between them. -/
structure ArePieces (path : String) (parts : List String) : Prop where
  written : parts ≠ []
  absent : ∀ part ∈ parts, '/' ∉ part.toList
  whole : String.intercalate "/" parts = path

/-- A piece that names a folder or a file. -/
def IsNamed (part : String) : Prop :=
  part ∉ ["", "."]

instance : DecidablePred IsNamed :=
  fun _ => inferInstanceAs (Decidable (¬ _))

variable
  {text : List Char}
  {path : String}
  {parts : List String}

/-! ## Dots at the start -/

theorem exists_eq_append_dropDots (text : List Char) :
    ∃ count, text = (List.replicate count ['.', '/']).flatten ++ dropDots text := by
  fun_induction dropDots text with
  | case1 rest inductionHypothesis =>
      obtain ⟨count, same⟩ := inductionHypothesis
      refine ⟨count + 1, ?_⟩
      rw [List.replicate_succ, List.flatten_cons, List.append_assoc, ← same]
      rfl
  | case2 text => exact ⟨0, rfl⟩

theorem not_isPrefix_dropDots (text : List Char) : ¬ ['.', '/'] <+: dropDots text := by
  fun_induction dropDots text with
  | case1 rest inductionHypothesis => exact inductionHypothesis
  | case2 text unlike =>
      rintro ⟨rest, rfl⟩
      exact unlike rest rfl

theorem dropDots_eq_self (begins : ¬ ['.', '/'] <+: text) : dropDots text = text := by
  fun_cases dropDots text with
  | case1 rest => exact absurd (List.prefix_append ['.', '/'] rest) begins
  | case2 => rfl

/-! ## Slashes -/

theorem backslash_notMem_forwardSlashes (text : List Char) : '\\' ∉ forwardSlashes text := by
  rw [forwardSlashes, List.mem_map]
  rintro ⟨character, -, same⟩
  split at same
  · exact absurd same (by decide)
  · contradiction

theorem forwardSlashes_eq_self (absent : '\\' ∉ text) : forwardSlashes text = text := by
  have kept : ∀ character ∈ text, (if character = '\\' then '/' else character) = character := by
    intro character found
    have different : character ≠ '\\' := ne_of_mem_of_not_mem found absent
    exact if_neg different
  exact (List.map_congr_left kept).trans (List.map_id text)

theorem forwardSlashes_backSlashes (path : String) :
    forwardSlashes (backSlashes path).toList = forwardSlashes path.toList := by
  rw [forwardSlashes, forwardSlashes, backSlashes, String.toList_ofList, List.map_map]
  apply List.map_congr_left
  intro character _
  by_cases slash : character = '/'
  · simp [slash]
  · simp [slash]

/-! ## The normal form -/

theorem toList_normalize (path : String) :
    (normalize path).toList = dropDots (forwardSlashes path.toList) :=
  String.toList_ofList

theorem backslash_notMem_normalize (path : String) : '\\' ∉ (normalize path).toList := by
  intro found
  obtain ⟨count, same⟩ := exists_eq_append_dropDots (forwardSlashes path.toList)
  apply backslash_notMem_forwardSlashes path.toList
  rw [same, ← toList_normalize]
  exact List.mem_append_right _ found

theorem not_isPrefix_normalize (path : String) : ¬ ['.', '/'] <+: (normalize path).toList := by
  rw [toList_normalize]
  exact not_isPrefix_dropDots _

/-- A character other than dots and slashes stays in the normal form. -/
theorem mem_normalize
    {character : Char}
    (kept : character ∉ ['.', '/', '\\'])
    (found : character ∈ path.toList) :
    character ∈ (normalize path).toList := by
  simp only [List.mem_cons, List.not_mem_nil, or_false, not_or] at kept
  have forward : character ∈ forwardSlashes path.toList :=
    List.mem_map.mpr ⟨character, found, if_neg kept.2.2⟩
  obtain ⟨count, same⟩ := exists_eq_append_dropDots (forwardSlashes path.toList)
  rw [same, ← toList_normalize] at forward
  rcases List.mem_append.mp forward with dropped | stays
  · obtain ⟨dots, isDots, inside⟩ := List.mem_flatten.mp dropped
    rw [List.eq_of_mem_replicate isDots] at inside
    simp [kept] at inside
  · exact stays

theorem normalize_eq_self
    (absent : '\\' ∉ path.toList)
    (begins : ¬ ['.', '/'] <+: path.toList) :
    normalize path = path := by
  rw [normalize, forwardSlashes_eq_self absent, dropDots_eq_self begins, String.ofList_toList]

theorem normalize_normalize (path : String) : normalize (normalize path) = normalize path :=
  normalize_eq_self (backslash_notMem_normalize path) (not_isPrefix_normalize path)

theorem normalize_dots (path : String) : normalize ("./" ++ path) = normalize path := by
  have dots : "./".toList = ['.', '/'] := by
    decide
  rw [normalize, normalize, String.toList_append, dots, forwardSlashes, forwardSlashes,
    List.map_append]
  rfl

theorem normalize_backSlashes (path : String) : normalize (backSlashes path) = normalize path := by
  rw [normalize, normalize, forwardSlashes_backSlashes]

theorem MadeAt.path_eq
    {artifact : Artifact}
    (made : MadeAt path artifact) :
    artifact.path = normalize path := by
  induction made with
  | make identity content => rfl
  | withFolders _ folders inductionHypothesis => exact inductionHypothesis

/-! ## Pieces -/

theorem ArePieces.pieces_eq (cut : ArePieces path parts) :
    Text.pieces '/' path.toList = parts.map String.toList := by
  rw [← cut.whole, String.toList_intercalate]
  apply Text.pieces_intercalate
  · simpa using cut.written
  · intro text found
    obtain ⟨part, listed, rfl⟩ := List.mem_map.mp found
    exact cut.absent part listed

/-- A path is cut into pieces in one way. -/
theorem arePieces_iff :
    ArePieces path parts ↔ parts = (Text.pieces '/' path.toList).map String.ofList := by
  constructor
  · intro cut
    rw [cut.pieces_eq, List.map_map]
    simp
  · rintro rfl
    obtain ⟨absent, whole⟩ := Text.intercalate_pieces '/' path.toList
    refine ⟨?_, ?_, ?_⟩
    · simpa using Text.pieces_ne_nil '/' path.toList
    · intro part listed
      obtain ⟨piece, found, rfl⟩ := List.mem_map.mp listed
      rw [String.toList_ofList]
      exact absent piece found
    · apply String.toList_injective
      rw [String.toList_intercalate, List.map_map]
      simpa using whole

theorem decide_isNamed (part : String) :
    decide (IsNamed part) = (!part.toList.isEmpty && part.toList != ['.']) := by
  have dot : part.toList = ".".toList ↔ part = "." := String.toList_inj
  rw [Bool.eq_iff_iff, decide_eq_true_iff]
  simpa [IsNamed] using fun _ => not_congr dot.symm

theorem ArePieces.foldersOf_eq (cut : ArePieces path parts) :
    foldersOf path = (parts.filter IsNamed).dropLast := by
  have named : (fun part => decide (IsNamed part)) =
      (fun piece => !piece.isEmpty && piece != ['.']) ∘ String.toList :=
    funext decide_isNamed
  rw [foldersOf, namedPieces, cut.pieces_eq, List.filter_map, ← named, ← List.map_dropLast,
    List.map_map]
  simp

/-- The file name of an artifact is the last piece of its path. -/
theorem fileName_eq
    {artifact : Artifact}
    {last : String}
    (cut : ArePieces artifact.path parts)
    (ends : parts.getLast? = some last) :
    artifact.fileName = last := by
  have isLast : Text.IsLastPiece '/' artifact.path.toList last.toList := by
    refine ⟨cut.absent last (List.mem_of_getLast? ends), ?_⟩
    rw [← cut.whole, String.toList_intercalate]
    apply Text.isTail_intercalate
    rw [List.getLast?_map, ends, Option.map_some]
  rw [fileName, Text.isLastPiece_iff.mp isLast, String.ofList_toList]

/-- If the last piece names the file, folders and file name are the pieces that name something. -/
theorem ArePieces.folders_concat_fileName
    {last : String}
    (cut : ArePieces (normalize path) parts)
    (ends : parts.getLast? = some last)
    (isNamed : IsNamed last)
    (identity : Nat)
    (content : Content) :
    (make identity path content).folders ++ [(make identity path content).fileName] =
      parts.filter IsNamed := by
  have folders : (make identity path content).folders = (parts.filter IsNamed).dropLast := by
    rw [make, cut.foldersOf_eq]
  have fileName : (make identity path content).fileName = last := fileName_eq cut ends
  obtain ⟨front, rfl⟩ := List.getLast?_eq_some_iff.mp ends
  rw [folders, fileName]
  simp [isNamed]

end Artifact

namespace Group

/-- A path is looked up by its normal form, and the first member with that path is found. -/
theorem find?_eq_some_iff
    {group : Group}
    {path : String}
    {found : Artifact} :
    group.find? path = some found ↔
      found.path = Artifact.normalize path ∧
        ∃ before after, group.artifacts = before ++ found :: after ∧
          ∀ earlier ∈ before, earlier.path ≠ Artifact.normalize path := by
  rw [find?, List.find?_eq_some_iff_append]
  simp

/-- A path finds a member if one stands at its normal form. -/
theorem exists_find?_eq_some
    {group : Group}
    {path : String}
    {member : Artifact}
    (listed : member ∈ group.artifacts)
    (atForm : member.path = Artifact.normalize path) :
    ∃ found, group.find? path = some found := by
  rw [← Option.isSome_iff_exists, find?, List.find?_isSome]
  exact ⟨member, listed, beq_iff_eq.mpr atForm⟩

end Group

namespace Artifact

/--
What is left of a path, with slashes for backslashes, after every `./` at its start is its normal
form; it is its own normal form.  In a group with a member that was made at the path, the path,
the path after `./` and the path with backslashes all find the first member at the normal form.
The folders and the file name of an artifact made at the path are the pieces of the normal form
that name something, if the last piece is one of them.
-/
theorem normal_form_tells_lookup_and_folders (path : String) :
    (normalize (normalize path) = normalize path ∧
      '\\' ∉ (normalize path).toList ∧ ¬ ['.', '/'] <+: (normalize path).toList ∧
      ∃ count, forwardSlashes path.toList =
        (List.replicate count ['.', '/']).flatten ++ (normalize path).toList) ∧
    (∀ (group : Group) (member : Artifact), member ∈ group.artifacts → MadeAt path member →
      ∃ found before after,
        group.artifacts = before ++ found :: after ∧ found.path = normalize path ∧
        (∀ earlier ∈ before, earlier.path ≠ normalize path) ∧
        ∀ spelling ∈ [path, "./" ++ path, backSlashes path],
          group.find? spelling = some found) ∧
    ∃ parts : List String,
      (∀ others, ArePieces (normalize path) others ↔ others = parts) ∧
      ∀ last identity content, parts.getLast? = some last → IsNamed last →
        (make identity path content).folders ++ [(make identity path content).fileName] =
          parts.filter IsNamed := by
  refine ⟨⟨normalize_normalize path, backslash_notMem_normalize path,
    not_isPrefix_normalize path, ?_⟩, ?_, _, fun others => arePieces_iff, ?_⟩
  · rw [toList_normalize]
    exact exists_eq_append_dropDots _
  · intro group member listed made
    obtain ⟨found, finds⟩ := Group.exists_find?_eq_some listed made.path_eq
    obtain ⟨atForm, before, after, split, others⟩ := Group.find?_eq_some_iff.mp finds
    refine ⟨found, before, after, split, atForm, others, ?_⟩
    simp [← finds, Group.find?, normalize_dots, normalize_backSlashes]
  · intro last identity content ends isNamed
    exact (arePieces_iff.mpr rfl).folders_concat_fileName ends isNamed identity content

/-- A group in which two artifacts were made at spellings with one normal form. -/
def spelledGroup : Group where
  name := "w"
  artifacts :=
    [make 0 "B.cs" .unavailable, (make 1 "src/./A.cs" .unavailable).withFolders ["obj"],
     make 2 ".\\src/./A.cs" (.inMemory "class A { }")]

theorem normal_form_tells_lookup_and_folders_sample :
    (∀ spelling ∈ [".\\src/./A.cs", "./" ++ ".\\src/./A.cs", backSlashes ".\\src/./A.cs"],
        spelledGroup.find? spelling = spelledGroup.artifacts[1]?) ∧
      (make 2 ".\\src/./A.cs" (.inMemory "class A { }")).folders ++
          [(make 2 ".\\src/./A.cs" (.inMemory "class A { }")).fileName] =
        ["src", "A.cs"] := by
  obtain ⟨-, finds, parts, cut, names⟩ := normal_form_tells_lookup_and_folders ".\\src/./A.cs"
  have isMember : make 2 ".\\src/./A.cs" (.inMemory "class A { }") ∈ spelledGroup.artifacts :=
    List.mem_cons_of_mem _ (List.mem_cons_of_mem _ List.mem_cons_self)
  obtain ⟨found, -, -, -, -, -, finds⟩ := finds spelledGroup _ isMember (.make 2 _)
  have second : spelledGroup.find? ".\\src/./A.cs" = spelledGroup.artifacts[1]? := by
    decide +kernel
  have known : ["src", ".", "A.cs"] = parts :=
    (cut _).mp ⟨by decide, by decide, by decide +kernel⟩
  constructor
  · rwa [← second, finds _ List.mem_cons_self]
  · rw [names "A.cs" 2 _ (known ▸ rfl) (by decide), ← known]
    decide

end Artifact
end HouseStyle
