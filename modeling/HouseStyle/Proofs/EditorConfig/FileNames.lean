import HouseStyle.EditorConfig.File
import HouseStyle.Proofs.Glob.Meaning
import HouseStyle.Proofs.Glob.NamePatterns
import HouseStyle.Proofs.Text.Bytes

/-!
# Sections for file names

A section whose pattern holds no slash is meant for file names.  It applies to
a path exactly if the pattern alone matches some tail of the path, from the
start of a folder or of the file name on.  So folders have no say as long as
the pattern alone matches nothing with a slash, and that is so unless it holds
a class with a slash in it or an escaped comma or brace before a double star.
-/

namespace HouseStyle
namespace Glob

/-! ## Patterns that match no slash -/

mutual

/-- The token spells no slash. -/
def Token.isConfined (ignoreCase : Bool) : Token → Bool
  | .literal character => character != '/'
  | .anyByte => true
  | .anyRun => true
  | .leadingFolders => false
  | .trailingFolders => false
  | .innerFolders => false
  | .oneOf members => !members.holds ignoreCase slash
  | .alternatives branches => areConfined ignoreCase branches

/-- The tokens of a pattern spell no slash. -/
def isConfined (ignoreCase : Bool) : List Token → Bool
  | [] => true
  | token :: rest => token.isConfined ignoreCase && isConfined ignoreCase rest

/-- Several patterns spell no slash. -/
def areConfined (ignoreCase : Bool) : List (List Token) → Bool
  | [] => true
  | branch :: rest => isConfined ignoreCase branch && areConfined ignoreCase rest

end

variable {ignoreCase : Bool}

theorem isConfined_iff {tokens : List Token} :
    isConfined ignoreCase tokens = true ↔
      ∀ token ∈ tokens, token.isConfined ignoreCase = true := by
  induction tokens with
  | nil => simp [isConfined]
  | cons token rest inductionHypothesis => simp [isConfined, inductionHypothesis]

theorem areConfined_of_allOf
    {branches : List (List Token)}
    (all : AllOf (·.isConfined ignoreCase = true) branches) :
    areConfined ignoreCase branches = true := by
  induction branches with
  | nil => rfl
  | cons branch rest inductionHypothesis =>
      rw [allOf_cons_iff] at all
      rw [areConfined, isConfined_iff.mpr all.1, inductionHypothesis all.2]
      rfl

theorem eq_slash_of_sameByte
    {byte : UInt8}
    (same : sameByte ignoreCase byte slash = true) :
    byte = slash := by
  cases ignoreCase with
  | false => exact beq_iff_eq.mp same
  | true =>
      have lowered : lowerByte byte = slash := beq_iff_eq.mp same
      rw [lowerByte] at lowered
      split at lowered
      · rename_i letter
        simp only [Bool.and_eq_true, decide_eq_true_eq, UInt8.le_iff_toNat_le,
          UInt8.toNat_ofNat] at letter
        have sum := congrArg UInt8.toNat lowered
        rw [UInt8.toNat_add] at sum
        change (byte.toNat + 32) % 256 = 47 at sum
        omega
      · exact lowered

theorem slash_notMem_of_literal
    {character : Char}
    {bytes : List UInt8}
    (noSlash : character ≠ '/')
    (spells : (Token.literal character).Spells ignoreCase bytes) :
    slash ∉ bytes := by
  have encoded : slash ∉ String.utf8EncodeChar character := by
    have alone : slash ∉ Text.bytes [character] := by
      simpa [Text.slash_mem_bytes_iff, eq_comm] using noSlash
    simpa [Text.bytes_cons] using alone
  rw [Token.Spells] at spells
  generalize String.utf8EncodeChar character = wanted at encoded spells
  induction spells with
  | nil => exact List.not_mem_nil
  | cons same rest inductionHypothesis =>
      rw [List.mem_cons, not_or] at encoded ⊢
      refine ⟨?_, inductionHypothesis encoded.2⟩
      intro found
      exact encoded.1 (eq_slash_of_sameByte (found ▸ same)).symm

mutual

theorem Token.slash_notMem_of_spells
    {token : Token}
    {bytes : List UInt8}
    (confined : token.isConfined ignoreCase = true)
    (spells : token.Spells ignoreCase bytes) :
    slash ∉ bytes := by
  cases token with
  | literal character =>
      exact slash_notMem_of_literal (by simpa [Token.isConfined] using confined) spells
  | anyByte =>
      obtain ⟨byte, rfl, other⟩ := spells
      simpa [eq_comm] using other
  | anyRun => exact spells
  | leadingFolders => cases confined
  | trailingFolders => cases confined
  | innerFolders => cases confined
  | oneOf members =>
      obtain ⟨byte, rfl, held⟩ := spells
      rw [Token.isConfined] at confined
      intro found
      rw [← List.mem_singleton.mp found] at held
      rw [held] at confined
      cases confined
  | alternatives branches =>
      rcases spells with ⟨_, rfl⟩ | chosen
      · exact List.not_mem_nil
      · exact slash_notMem_of_spellsAny confined chosen

theorem slash_notMem_of_spellsAll
    {tokens : List Token}
    {bytes : List UInt8}
    (confined : isConfined ignoreCase tokens = true)
    (spells : SpellsAll ignoreCase tokens bytes) :
    slash ∉ bytes := by
  cases tokens with
  | nil =>
      rw [SpellsAll] at spells
      exact spells ▸ List.not_mem_nil
  | cons token rest =>
      obtain ⟨first, others, rfl, begins, continues⟩ := spells
      rw [isConfined, Bool.and_eq_true] at confined
      rw [List.mem_append, not_or]
      exact ⟨Token.slash_notMem_of_spells confined.1 begins,
        slash_notMem_of_spellsAll confined.2 continues⟩

theorem slash_notMem_of_spellsAny
    {branches : List (List Token)}
    {bytes : List UInt8}
    (confined : areConfined ignoreCase branches = true)
    (spells : SpellsAny ignoreCase branches bytes) :
    slash ∉ bytes := by
  cases branches with
  | nil => cases spells
  | cons branch rest =>
      rw [areConfined, Bool.and_eq_true] at confined
      rcases spells with ⟨_, chosen⟩ | later
      · exact slash_notMem_of_spellsAll confined.1 chosen
      · exact slash_notMem_of_spellsAny confined.2 later

end

/-! ## What a pattern after leading folders matches -/

/-- A pattern after leading folders matches a path if the pattern alone matches a tail of it. -/
theorem matchesText_leadingFolders_iff
    {glob alone : Glob}
    (tokens : glob.tokens = .leadingFolders :: alone.tokens)
    (sameCase : glob.ignoreCase = alone.ignoreCase)
    (written : alone.tokens ≠ [])
    (other : alone.tokens ≠ [.leadingFolders])
    (path : String) :
    glob.matchesText path = true ↔
      ∃ tail, Text.IsTail '/' path.toList tail ∧ alone.matchesText (String.ofList tail) = true := by
  have notBare : glob.tokens ≠ [.leadingFolders] := by
    simpa [tokens] using written
  simp only [matchesText_iff_spellsAll notBare, matchesText_iff_spellsAll other,
    String.toList_ofList, tokens, sameCase, SpellsAll, Token.Spells]
  exact Text.exists_isTail_iff

end Glob

namespace EditorConfig

open Glob

/-! ## Sections and their patterns alone -/

/-- The pattern of a section goes by the file name: it matches a path as the pattern alone matches
the last component. -/
def GoesByFileName (glob alone : Glob) : Prop :=
  ∀ (path : String) (name : List Char), Text.IsLastPiece '/' path.toList name →
    glob.matchesText path = alone.matchesText (String.ofList name)

/-- Whenever the pattern matches a text, it matches the last component of that text as well. -/
def KeepsToFileName (alone : Glob) : Prop :=
  ∀ (text : String) (name : List Char), Text.IsLastPiece '/' text.toList name →
    alone.matchesText text = true → alone.matchesText (String.ofList name) = true

variable
  {pattern : List Char}
  {glob alone : Glob}

theorem readPattern_eq_ok_iff_of_noSlash
    (written : pattern ≠ [])
    (noSlash : '/' ∉ pattern) :
    readPattern pattern = .ok glob ↔
      Glob.compile false (String.ofList ('*' :: '*' :: '/' :: pattern)) = .ok glob := by
  have nonempty : ¬ pattern.isEmpty = true := fun empty => written (List.isEmpty_iff.mp empty)
  have anchors : anchored pattern = '*' :: '*' :: '/' :: pattern := by
    simp [anchored, noSlash]
  rw [readPattern, if_neg nonempty, anchors]
  dsimp only
  cases Glob.compile false (String.ofList ('*' :: '*' :: '/' :: pattern)) <;> simp

theorem readTokens_anchored_doubleStar :
    readTokens ['*', '*', '/', '*', '*'] = .ok [.leadingFolders] := by
  rfl

theorem readTokens_doubleStar : readTokens ['*', '*'] = .ok [.leadingFolders] := by
  rfl

theorem admits_ne_leadingFolders (text : List Char) : Admits (· ≠ .leadingFolders) text where
  anyByte := nofun
  anyRun := nofun
  literal := nofun
  oneOf := nofun
  trailingFolders := nofun
  alternatives := nofun

/-- The tokens of a section are those of its pattern alone after one for leading folders, or there
is no other token. -/
theorem tokens_of_section
    (written : pattern ≠ [])
    (noSlash : '/' ∉ pattern)
    (read : readPattern pattern = .ok glob)
    (compiled : Glob.compile false (String.ofList pattern) = .ok alone) :
    glob.tokens = [.leadingFolders] ∧ alone.tokens = [.leadingFolders] ∨
      glob.tokens = .leadingFolders :: alone.tokens ∧ alone.tokens ≠ [] ∧
        alone.tokens ≠ [.leadingFolders] := by
  rw [readPattern_eq_ok_iff_of_noSlash written noSlash, compile_eq_ok_iff,
    String.toList_ofList] at read
  rw [compile_eq_ok_iff, String.toList_ofList] at compiled
  obtain ⟨tokens, readAll, rfl⟩ := read
  obtain ⟨own, readOwn, rfl⟩ := compiled
  by_cases double : pattern = ['*', '*']
  · subst double
    left
    rw [readTokens_anchored_doubleStar] at readAll
    rw [readTokens_doubleStar] at readOwn
    cases readAll
    cases readOwn
    exact ⟨rfl, rfl⟩
  · right
    rw [readTokens_anchored written double noSlash, readOwn] at readAll
    cases readAll
    obtain ⟨nonempty, others⟩ :=
      readTokens_allOf (admits_ne_leadingFolders pattern) written double noSlash readOwn
    refine ⟨rfl, nonempty, ?_⟩
    intro bare
    change own = [.leadingFolders] at bare
    exact others .leadingFolders (bare ▸ List.mem_singleton_self _) rfl

/-- A section and its pattern alone, from the tokens of the pattern. -/
theorem compiled_of_readTokens
    {tokens : List Token}
    (written : pattern ≠ [])
    (notAlone : pattern ≠ ['*', '*'])
    (noSlash : '/' ∉ pattern)
    (read : readTokens pattern = .ok tokens) :
    readPattern pattern =
        .ok ⟨String.ofList ('*' :: '*' :: '/' :: pattern), .leadingFolders :: tokens, false⟩ ∧
      Glob.compile false (String.ofList pattern) = .ok ⟨String.ofList pattern, tokens, false⟩ := by
  rw [readPattern_eq_ok_iff_of_noSlash written noSlash, compile_eq_ok_iff, compile_eq_ok_iff,
    String.toList_ofList, String.toList_ofList, readTokens_anchored written notAlone noSlash, read]
  exact ⟨⟨_, rfl, rfl⟩, ⟨_, rfl, rfl⟩⟩

theorem exists_readPattern_iff
    (written : pattern ≠ [])
    (noSlash : '/' ∉ pattern) :
    (∃ glob, readPattern pattern = .ok glob) ↔
      ∃ alone, Glob.compile false (String.ofList pattern) = .ok alone := by
  simp only [readPattern_eq_ok_iff_of_noSlash written noSlash, compile_eq_ok_iff,
    String.toList_ofList]
  by_cases double : pattern = ['*', '*']
  · subst double
    simp [readTokens_anchored_doubleStar, readTokens_doubleStar]
  · rw [readTokens_anchored written double noSlash]
    cases readTokens pattern <;> simp [Except.map]

/-- A section applies where its pattern alone matches a tail of the path. -/
theorem matchesText_section_iff
    (written : pattern ≠ [])
    (noSlash : '/' ∉ pattern)
    (read : readPattern pattern = .ok glob)
    (compiled : Glob.compile false (String.ofList pattern) = .ok alone)
    (path : String) :
    glob.matchesText path = true ↔
      ∃ tail, Text.IsTail '/' path.toList tail ∧ alone.matchesText (String.ofList tail) = true := by
  have sameCase : glob.ignoreCase = alone.ignoreCase := by
    rw [readPattern_eq_ok_iff_of_noSlash written noSlash] at read
    obtain ⟨_, _, rfl⟩ := compile_eq_ok_iff.mp read
    obtain ⟨_, _, rfl⟩ := compile_eq_ok_iff.mp compiled
    rfl
  rcases tokens_of_section written noSlash read compiled with
    ⟨bare, bareAlone⟩ | ⟨tokens, nonempty, other⟩
  · refine iff_of_true (matchesText_of_leadingFolders bare path) ?_
    exact ⟨path.toList, Text.isTail_self '/' _, matchesText_of_leadingFolders bareAlone _⟩
  · exact matchesText_leadingFolders_iff tokens sameCase nonempty other path

theorem goesByFileName_iff
    (tails : ∀ path : String, glob.matchesText path = true ↔
      ∃ tail, Text.IsTail '/' path.toList tail ∧ alone.matchesText (String.ofList tail) = true) :
    GoesByFileName glob alone ↔ KeepsToFileName alone := by
  constructor
  · intro goes text name last matched
    rw [← goes text name last, tails]
    refine ⟨text.toList, Text.isTail_self '/' _, ?_⟩
    rwa [String.ofList_toList]
  · intro keeps path name last
    rw [Bool.eq_iff_iff, tails]
    constructor
    · rintro ⟨tail, isTail, matched⟩
      apply keeps (String.ofList tail) name _ matched
      rw [String.toList_ofList]
      exact isTail.isLastPiece last
    · intro matched
      exact ⟨name, last.2, matched⟩

theorem keepsToFileName_of_isConfined
    (confined : isConfined alone.ignoreCase alone.tokens = true) :
    KeepsToFileName alone := by
  have other : alone.tokens ≠ [.leadingFolders] := by
    intro bare
    rw [bare] at confined
    cases confined
  intro text name last matched
  have noSlash : '/' ∉ text.toList := by
    rw [matchesText_iff_spellsAll other] at matched
    rw [← Text.slash_mem_bytes_iff]
    exact slash_notMem_of_spellsAll confined matched
  have whole : name = text.toList := by
    rw [← Text.isLastPiece_iff.mp last, Text.afterLast?_eq_none_iff.mpr noSlash, Option.getD_none]
  rwa [whole, String.ofList_toList]

theorem admits_isConfined
    {ignoreCase : Bool}
    {text : List Char}
    (noBracket : '[' ∉ text)
    (noEscape : '\\' ∉ text) :
    Admits (·.isConfined ignoreCase = true) text where
  anyByte := rfl
  anyRun := rfl
  literal := fun _ other => bne_iff_ne.mpr other
  oneOf := fun bracket => absurd bracket noBracket
  trailingFolders := fun escape => absurd escape noEscape
  alternatives := fun _ => areConfined_of_allOf

theorem keepsToFileName_of_noBracket
    (written : pattern ≠ [])
    (noSlash : '/' ∉ pattern)
    (noBracket : '[' ∉ pattern)
    (noEscape : '\\' ∉ pattern)
    (compiled : Glob.compile false (String.ofList pattern) = .ok alone) :
    KeepsToFileName alone := by
  obtain ⟨tokens, read, rfl⟩ := compile_eq_ok_iff.mp compiled
  rw [String.toList_ofList] at read
  by_cases double : pattern = ['*', '*']
  · subst double
    rw [readTokens_doubleStar] at read
    cases read
    exact fun text name last matched => matchesText_of_leadingFolders rfl _
  · obtain ⟨-, all⟩ :=
      readTokens_allOf (admits_isConfined noBracket noEscape) written double noSlash read
    exact keepsToFileName_of_isConfined (isConfined_iff.mpr all)

/--
A section whose pattern holds no slash is accepted if the pattern alone is, and
applies to a path if the pattern alone matches a tail of the path.  It goes by
the file name exactly if the pattern alone matches, with any text, the last
component of that text.  Patterns without classes and escapes do, and so do
patterns none of whose tokens spells a slash.
-/
theorem section_goes_by_file_name_unless_slash_is_spelled
    (pattern : List Char)
    (written : pattern ≠ [])
    (noSlash : '/' ∉ pattern) :
    ((∃ glob, readPattern pattern = .ok glob) ↔
      ∃ alone, Glob.compile false (String.ofList pattern) = .ok alone) ∧
    ∀ glob alone, readPattern pattern = .ok glob →
      Glob.compile false (String.ofList pattern) = .ok alone →
      (∀ path : String, glob.matchesText path = true ↔
        ∃ tail, Text.IsTail '/' path.toList tail ∧
          alone.matchesText (String.ofList tail) = true) ∧
      (GoesByFileName glob alone ↔ KeepsToFileName alone) ∧
      (isConfined false alone.tokens = true → GoesByFileName glob alone) ∧
      ('[' ∉ pattern → '\\' ∉ pattern → GoesByFileName glob alone) := by
  refine ⟨exists_readPattern_iff written noSlash, ?_⟩
  intro glob alone read compiled
  have tails := matchesText_section_iff written noSlash read compiled
  have keeps := goesByFileName_iff tails
  have exactCase : alone.ignoreCase = false := by
    obtain ⟨_, _, rfl⟩ := compile_eq_ok_iff.mp compiled
    rfl
  refine ⟨tails, keeps, ?_, ?_⟩
  · intro confined
    rw [← exactCase] at confined
    exact keeps.mpr (keepsToFileName_of_isConfined confined)
  · intro noBracket noEscape
    exact keeps.mpr (keepsToFileName_of_noBracket written noSlash noBracket noEscape compiled)

/-- The tokens of `*.[ch]s`. -/
def sampleTokens : List Token :=
  [.anyRun, .literal '.', .oneOf ⟨false, [('c', 'c'), ('h', 'h')]⟩, .literal 's']

/-- The section `[*.[ch]s]` applies to `src/A.cs`, as its pattern alone matches `A.cs`. -/
theorem section_goes_by_file_name_unless_slash_is_spelled_sample :
    ∃ glob alone, readPattern "*.[ch]s".toList = .ok glob ∧
      Glob.compile false (String.ofList "*.[ch]s".toList) = .ok alone ∧
      GoesByFileName glob alone ∧ glob.matchesText "src/A.cs" = true := by
  obtain ⟨read, compiled⟩ := compiled_of_readTokens (by decide) (by decide) (by decide)
    (show readTokens "*.[ch]s".toList = .ok sampleTokens by rfl)
  obtain ⟨-, told⟩ := section_goes_by_file_name_unless_slash_is_spelled "*.[ch]s".toList
    (by decide) (by decide)
  obtain ⟨-, -, confined, -⟩ := told _ _ read compiled
  exact ⟨_, _, read, compiled, confined (by decide +kernel), by decide +kernel⟩

/-- The tokens of `x[!a]y`. -/
def negatedTokens : List Token :=
  [.literal 'x', .oneOf ⟨true, [('a', 'a')]⟩, .literal 'y']

/-- A class that is negated holds the slash, so a section can apply across folders. -/
theorem negated_class_matches_across_folders :
    ∃ glob alone, readPattern "x[!a]y".toList = .ok glob ∧
      Glob.compile false (String.ofList "x[!a]y".toList) = .ok alone ∧
      Text.IsLastPiece '/' "x/y".toList "y".toList ∧
      glob.matchesText "x/y" = true ∧ alone.matchesText "y" = false := by
  obtain ⟨read, compiled⟩ := compiled_of_readTokens (by decide) (by decide) (by decide)
    (show readTokens "x[!a]y".toList = .ok negatedTokens by rfl)
  refine ⟨_, _, read, compiled, Text.isLastPiece_iff.mpr (by decide), ?_, ?_⟩
  · decide +kernel
  · decide +kernel

end EditorConfig
end HouseStyle
