import HouseStyle.Proofs.Candidate.Order
import HouseStyle.Proofs.Glob.Stems

/-!
# What the usual rules leave out

The usual rules come from patterns with one star, so they go by the endings
and the beginning of file names, and by one folder with build output.  Letter
case never matters, and nothing before the last slash does, except through the
folders of the artifact.
-/

namespace HouseStyle
namespace Rules

open Glob

/-! ## Rules from stems -/

/-- The pattern of a stem, ready to match without regard to letter case. -/
def globOf (stem : Stem) : Glob where
  pattern := String.ofList stem.pattern
  tokens := stem.tokens
  ignoreCase := true

/-- The pattern of a plain stem is always accepted. -/
theorem readPattern_stem
    {stem : Stem}
    (plain : stem.IsPlain) :
    readPattern (String.ofList stem.pattern) = .ok (globOf stem) := by
  rw [readPattern, Stem.compile_pattern plain]
  rfl

theorem mapM_readPattern_stems
    {stems : List Stem}
    (plain : ∀ stem ∈ stems, stem.IsPlain) :
    (stems.map fun stem => String.ofList stem.pattern).mapM readPattern =
      .ok (stems.map globOf) := by
  induction stems with
  | nil => rfl
  | cons stem rest inductionHypothesis =>
      have first := readPattern_stem (plain stem List.mem_cons_self)
      have others :=
        inductionHypothesis fun other listed => plain other (List.mem_cons_of_mem _ listed)
      rw [List.map_cons, List.mapM_cons, first, others]
      rfl

/-- The star is the deepest part of such a pattern, so none is nested too deeply. -/
theorem isTooDeep_globOf (stem : Stem) : (globOf stem).isTooDeep = false := by
  simp [isTooDeep, globOf, Stem.deepest_tokens, depthLimit]

/-- Rules from the patterns of plain stems are always accepted, in the order of the stems. -/
theorem make_stems
    {stems : List Stem}
    (plain : ∀ stem ∈ stems, stem.IsPlain)
    (folders : List String) :
    make (stems.map fun stem => String.ofList stem.pattern) folders =
      .ok ⟨stems.map globOf, folders⟩ := by
  have shallow : (stems.map globOf).any isTooDeep = false := by
    simp [isTooDeep_globOf]
  rw [make, mapM_readPattern_stems plain]
  change (if (stems.map globOf).any isTooDeep = true then _ else _) = _
  rw [shallow]
  rfl

/-- Rules from stems go by the stems, for names without a slash. -/
theorem isGeneratedName_stems_iff
    {stems : List Stem}
    {folders : List String}
    (plain : ∀ stem ∈ stems, stem.IsPlain)
    (name : String) :
    (Rules.mk (stems.map globOf) folders).isGeneratedName name = true ↔
      '/' ∉ name.toList ∧ ∃ stem ∈ stems, stem.Fits name.toList := by
  simp only [isGeneratedName, List.any_map, List.any_eq_true, Function.comp_apply]
  constructor
  · rintro ⟨stem, listed, found⟩
    obtain ⟨noSlash, fits⟩ := (Stem.matchesText_iff (plain stem listed) _ _).mp found
    exact ⟨noSlash, stem, listed, fits⟩
  · rintro ⟨noSlash, stem, listed, fits⟩
    exact ⟨stem, listed, (Stem.matchesText_iff (plain stem listed) _ _).mpr ⟨noSlash, fits⟩⟩

/-! ## The usual rules -/

/-- The stems of the usual patterns. -/
def usualStems : List Stem :=
  [.ending ".g.cs".toList,
   .ending ".g.i.cs".toList,
   .ending ".designer.cs".toList,
   .ending ".generated.cs".toList,
   .ending ".AssemblyInfo.cs".toList,
   .beginning "TemporaryGeneratedFile_".toList]

/-- The usual patterns are those of stems, so what they match is known. -/
theorem usualPatterns_eq :
    usualPatterns = usualStems.map fun stem => String.ofList stem.pattern := by
  decide

theorem isPlain_usualStems : ∀ stem ∈ usualStems, stem.IsPlain := by
  decide +kernel

/-- The usual rules can be made, so they are not what stands in for rules that cannot. -/
theorem usual_eq : usual = ⟨usualStems.map globOf, usualFolders⟩ := by
  rw [usual, usualPatterns_eq, make_stems isPlain_usualStems]

/-! ## What they mean -/

/-- The endings of the names of generated files, in small letters. -/
def generatedEndings : List String :=
  [".g.cs", ".g.i.cs", ".designer.cs", ".generated.cs", ".assemblyinfo.cs"]

/-- The beginning of the names of generated files, in small letters. -/
def generatedBeginning : String :=
  "temporarygeneratedfile_"

/-- The text is the name of a generated file, whatever the case of its letters. -/
def NamesGenerated (name : List Char) : Prop :=
  '/' ∉ name ∧
    ((∃ ending ∈ generatedEndings, ending.toList <:+ Text.lower name) ∨
      generatedBeginning.toList <+: Text.lower name)

/-- The folders are a single one, called `obj` or `bin` up to letter case. -/
def AreBuildOutput (folders : List String) : Prop :=
  ∃ name ∈ ["obj", "bin"], folders.map (Text.lower ·.toList) = [name.toList]

instance (name : List Char) : Decidable (NamesGenerated name) :=
  inferInstanceAs (Decidable (_ ∧ _))

instance (folders : List String) : Decidable (AreBuildOutput folders) :=
  inferInstanceAs (Decidable (∃ name ∈ _, _))

/-- The usual stems ask for one of the endings or for the beginning of generated names, in
letters of any case. -/
theorem exists_usualStems_fits_iff {name : List Char} :
    (∃ stem ∈ usualStems, stem.Fits name) ↔
      (∃ ending ∈ generatedEndings, ending.toList <:+ Text.lower name) ∨
        generatedBeginning.toList <+: Text.lower name := by
  simp only [usualStems, generatedEndings, List.exists_mem_cons_iff, List.not_mem_nil,
    false_and, exists_false, or_false, Stem.Fits, or_assoc]
  -- what is left differs in the small letters of the fixed texts only
  exact Iff.rfl

/-- A name is generated by the usual rules exactly if it has one of the usual marks. -/
theorem isGeneratedName_usual_iff {name : String} :
    usual.isGeneratedName name = true ↔ NamesGenerated name.toList := by
  rw [usual_eq, isGeneratedName_stems_iff isPlain_usualStems, exists_usualStems_fits_iff,
    NamesGenerated]

theorem liesInBuildOutput_usual_iff {artifact : Artifact} :
    Candidate.LiesInBuildOutput usual artifact ↔ AreBuildOutput artifact.folders := by
  have small : ∀ name ∈ ["obj", "bin"], Text.lower name.toList = name.toList := by
    decide
  simp only [Candidate.LiesInBuildOutput, AreBuildOutput, usual_eq, usualFolders,
    List.map_eq_singleton_iff]
  constructor
  · rintro ⟨folder, only, name, listed, spelled⟩
    exact ⟨name, listed, folder, only, by rw [← spelled, small name listed]⟩
  · rintro ⟨name, listed, folder, only, spelled⟩
    exact ⟨folder, only, name, listed, by rw [spelled, small name listed]⟩

/-- The usual rules look at the last piece of a path and at the folders of an artifact. -/
theorem excludes_usual_iff
    {artifact : Artifact}
    {name : List Char}
    (last : Text.IsLastPiece '/' artifact.path.toList name) :
    usual.excludes artifact = true ↔ NamesGenerated name ∨ AreBuildOutput artifact.folders := by
  rw [excludes, Bool.or_eq_true, isGeneratedName_usual_iff, Candidate.isBuildOutput_iff,
    liesInBuildOutput_usual_iff, Artifact.fileName, String.toList_ofList,
    Text.isLastPiece_iff.mp last]

/-! ## Letter case -/

/-- The case of letters does not decide whether a name is generated. -/
theorem namesGenerated_congr
    {left right : List Char}
    (same : Text.lower left = Text.lower right) :
    NamesGenerated left ↔ NamesGenerated right := by
  have slashes : '/' ∈ left ↔ '/' ∈ right := by
    rw [← Text.mem_lower_iff (by decide), same, Text.mem_lower_iff (by decide)]
  rw [NamesGenerated, NamesGenerated, slashes, same]

/-- Two artifacts agree up to the case of the letters in their path and their folders. -/
def AgreeUpToCase (left right : Artifact) : Prop :=
  Text.lower left.path.toList = Text.lower right.path.toList ∧
    left.folders.map (Text.lower ·.toList) = right.folders.map (Text.lower ·.toList)

theorem lower_fileName_eq
    {left right : Artifact}
    (same : Text.lower left.path.toList = Text.lower right.path.toList) :
    Text.lower left.fileName.toList = Text.lower right.fileName.toList := by
  have lowered (path : List Char) :
      Text.lower ((Text.afterLast? '/' path).getD path) =
        (Text.afterLast? '/' (Text.lower path)).getD (Text.lower path) := by
    rw [Text.afterLast?_lower (by decide)]
    cases Text.afterLast? '/' path <;> simp
  rw [Artifact.fileName, Artifact.fileName, String.toList_ofList, String.toList_ofList,
    lowered, lowered, same]

/-- Artifacts that agree up to the case of letters are excluded alike. -/
theorem excludes_usual_congr
    {left right : Artifact}
    (agree : AgreeUpToCase left right) :
    usual.excludes left = usual.excludes right := by
  rw [Bool.eq_iff_iff, excludes_usual_iff (Text.isLastPiece_iff.mpr rfl),
    excludes_usual_iff (Text.isLastPiece_iff.mpr rfl), AreBuildOutput, AreBuildOutput, agree.2]
  have names := lower_fileName_eq agree.1
  rw [Artifact.fileName, Artifact.fileName, String.toList_ofList, String.toList_ofList] at names
  rw [namesGenerated_congr names]

/--
The usual rules go by the name after the last slash and by a single folder, and
by nothing else; the case of letters in the path and the folders never matters.
-/
theorem usual_excludes_by_name_or_single_folder :
    (∀ name : String, usual.isGeneratedName name = true ↔ NamesGenerated name.toList) ∧
      (∀ (artifact : Artifact) (name : List Char),
        Text.IsLastPiece '/' artifact.path.toList name →
          (usual.excludes artifact = true ↔
            NamesGenerated name ∨ AreBuildOutput artifact.folders)) ∧
      (∀ left right : String, Text.lower left.toList = Text.lower right.toList →
        usual.isGeneratedName left = usual.isGeneratedName right) ∧
      ∀ left right : Artifact, AgreeUpToCase left right →
        usual.excludes left = usual.excludes right := by
  refine ⟨fun name => isGeneratedName_usual_iff, fun artifact name => excludes_usual_iff, ?_,
    fun left right => excludes_usual_congr⟩
  intro left right same
  rw [Bool.eq_iff_iff, isGeneratedName_usual_iff, isGeneratedName_usual_iff]
  exact namesGenerated_congr same

/-- A generated file at `x.g.cs/Form.DESIGNER.cs`, and an authored one at `x.g.cs/Form.g.cs.txt`. -/
theorem usual_excludes_by_name_or_single_folder_sample :
    usual.excludes (Artifact.make 0 "x.g.cs/Form.DESIGNER.cs" .unavailable) = true ∧
      usual.excludes (Artifact.make 1 "x.g.cs/Form.g.cs.txt" .unavailable) = false := by
  obtain ⟨-, byName, -⟩ := usual_excludes_by_name_or_single_folder
  constructor
  · apply (byName _ "Form.DESIGNER.cs".toList _).mpr
    · left
      decide +kernel
    · rw [Text.isLastPiece_iff]
      decide +kernel
  · rw [Bool.eq_false_iff, Ne, byName _ "Form.g.cs.txt".toList]
    · decide +kernel
    · rw [Text.isLastPiece_iff]
      decide +kernel

end Rules
end HouseStyle
