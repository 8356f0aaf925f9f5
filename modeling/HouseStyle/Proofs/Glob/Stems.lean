import HouseStyle.Glob.Nesting
import HouseStyle.Proofs.Glob.Meaning
import HouseStyle.Proofs.Glob.Signs
import HouseStyle.Proofs.Text.Bytes

/-!
# Endings and beginnings

The simplest patterns are a star before a fixed ending and a fixed beginning
before a star.  Such a pattern is always accepted.  When letter case is
ignored, it matches the texts without a slash that end, or begin, with the
fixed text in small letters.
-/

namespace HouseStyle
namespace Glob

/-! ## Reading plain characters -/

/-- A run of plain characters adds one token for each. -/
theorem readFrom_plain_append
    {text : List Char}
    (plain : ∀ character ∈ text, character ∉ specialCharacters)
    (draft : Draft)
    (previous : Option Char)
    (rest : List Char) :
    ∃ latest, readFrom draft previous (text ++ rest) =
      readFrom { draft with current := (text.map Token.literal).reverse ++ draft.current }
        latest rest := by
  induction text generalizing draft previous with
  | nil => exact ⟨previous, rfl⟩
  | cons character others inductionHypothesis =>
      obtain ⟨latest, same⟩ :=
        inductionHypothesis (fun other listed => plain other (List.mem_cons_of_mem _ listed))
          (draft.push (.literal character)) (some character)
      refine ⟨latest, ?_⟩
      rw [List.cons_append, readFrom_plain (plain character List.mem_cons_self), same]
      simp [Draft.push]

/-! ## Spelling fixed text -/

/-- Byte by byte up to case is the same as once all letters are made small. -/
theorem forall₂_sameByte_iff {wanted bytes : List UInt8} :
    List.Forall₂ (fun want byte => sameByte true want byte = true) wanted bytes ↔
      bytes.map lowerByte = wanted.map lowerByte := by
  simp only [sameByte, if_true, beq_iff_eq]
  rw [eq_comm, ← List.forall₂_eq_eq_eq, List.forall₂_map_left_iff, List.forall₂_map_right_iff]

/-- Literal characters spell their own bytes, in letters of any case. -/
theorem spellsAll_literals_iff {text : List Char} {bytes : List UInt8} :
    SpellsAll true (text.map Token.literal) bytes ↔
      bytes.map lowerByte = Text.bytes (Text.lower text) := by
  induction text generalizing bytes with
  | nil => simp [SpellsAll, Text.lower]
  | cons character rest inductionHypothesis =>
      change _ ↔ _ = Text.bytes (character.toLower :: Text.lower rest)
      simp only [List.map_cons, SpellsAll, Token.Spells, inductionHypothesis,
        forall₂_sameByte_iff, Text.map_lowerByte_utf8EncodeChar, Text.bytes_cons,
        List.map_eq_append_iff]

/-- What two patterns in a row spell can be split between them. -/
theorem spellsAll_append_iff
    {ignoreCase : Bool}
    {tokens more : List Token}
    {bytes : List UInt8} :
    SpellsAll ignoreCase (tokens ++ more) bytes ↔
      ∃ first others, bytes = first ++ others ∧ SpellsAll ignoreCase tokens first ∧
        SpellsAll ignoreCase more others := by
  induction tokens generalizing bytes with
  | nil => simp [SpellsAll]
  | cons token rest inductionHypothesis =>
      simp only [List.cons_append, SpellsAll, inductionHypothesis]
      constructor
      · rintro ⟨first, _, rfl, spells, second, others, rfl, spellsRest, spellsMore⟩
        exact ⟨first ++ second, others, (List.append_assoc ..).symm,
          ⟨first, second, rfl, spells, spellsRest⟩, spellsMore⟩
      · rintro ⟨_, others, rfl, ⟨first, second, rfl, spells, spellsRest⟩, spellsMore⟩
        exact ⟨first, second ++ others, List.append_assoc .., spells,
          second, others, rfl, spellsRest, spellsMore⟩

/-- Fixed text without a slash spells nothing with a slash in it. -/
theorem slash_notMem_of_map_lowerByte
    {text : List Char}
    {bytes : List UInt8}
    (noSlash : '/' ∉ text)
    (same : bytes.map lowerByte = Text.bytes (Text.lower text)) :
    slash ∉ bytes := by
  intro found
  have lowered : lowerByte slash ∈ bytes.map lowerByte := List.mem_map_of_mem found
  rw [same, show lowerByte slash = slash by decide, Text.slash_mem_bytes_iff,
    Text.mem_lower_iff (by decide)] at lowered
  exact noSlash lowered

/-! ## Patterns with one star -/

/-- A pattern with one star, before a fixed ending or after a fixed beginning. -/
inductive Stem where
  | ending (text : List Char)
  | beginning (text : List Char)
deriving DecidableEq, Repr

namespace Stem

/-- The fixed part. -/
def text : Stem → List Char
  | ending text => text
  | beginning text => text

/-- The pattern as it is written. -/
def pattern : Stem → List Char
  | ending text => '*' :: text
  | beginning text => text ++ ['*']

/-- The tokens of the pattern. -/
def tokens : Stem → List Token
  | ending text => .anyRun :: text.map .literal
  | beginning text => text.map .literal ++ [.anyRun]

/-- The fixed part consists of ASCII characters that stand for themselves and separate no
folders. -/
def IsPlain (stem : Stem) : Prop :=
  ∀ character ∈ stem.text,
    Text.IsAscii character ∧ character ∉ specialCharacters ∧ character ≠ '/'

instance (stem : Stem) : Decidable stem.IsPlain :=
  List.decidableBAll _ stem.text

/-- A text ends, or begins, with the fixed part up to letter case. -/
def Fits : Stem → List Char → Prop
  | ending text, name => Text.lower text <:+ Text.lower name
  | beginning text, name => Text.lower text <+: Text.lower name

variable {stem : Stem}

theorem IsPlain.slash_notMem (plain : stem.IsPlain) : '/' ∉ stem.text :=
  fun listed => (plain _ listed).2.2 rfl

theorem IsPlain.isAscii_lower (plain : stem.IsPlain) :
    ∀ character ∈ Text.lower stem.text, Text.IsAscii character := by
  intro character listed
  obtain ⟨original, known, rfl⟩ := List.mem_map.mp listed
  have ascii := (Text.isAscii_toLower_and_byteOf _ (plain original known).1).1
  rwa [Char.ofNat_toNat] at ascii

/-- The pattern of a plain stem is read as one star and the characters of the stem. -/
theorem readTokens_pattern (plain : stem.IsPlain) :
    readTokens stem.pattern = .ok stem.tokens := by
  have signs : ∀ character ∈ stem.text, character ∉ specialCharacters :=
    fun character listed => (plain character listed).2.1
  cases stem with
  | ending text =>
      obtain ⟨latest, same⟩ :=
        readFrom_plain_append signs (Draft.empty.push .anyRun) (some '*') []
      have single : text.head? ≠ some '*' := by
        intro starts
        exact absurd (signs '*' (List.mem_of_mem_head? starts)) (by decide)
      rw [List.append_nil] at same
      change readFrom _ _ text = _ at same
      rw [readTokens, pattern, readFrom_star single, same]
      simp [readFrom_nil, Draft.push, Draft.finish, Draft.empty, Draft.isInsideGroup, tokens,
        Stem.text, Bind.bind, Except.bind]
  | beginning text =>
      obtain ⟨latest, same⟩ := readFrom_plain_append signs Draft.empty none ['*']
      change readFrom _ _ (text ++ ['*']) = _ at same
      rw [readTokens, pattern, same, readFrom_star (by simp)]
      simp [readFrom_nil, Draft.push, Draft.finish, Draft.empty, Draft.isInsideGroup, tokens,
        Stem.text, Bind.bind, Except.bind]

/-- The pattern of a plain stem is compiled to the tokens of the stem. -/
theorem compile_pattern (plain : stem.IsPlain) (ignoreCase : Bool) :
    compile ignoreCase (String.ofList stem.pattern) =
      .ok ⟨String.ofList stem.pattern, stem.tokens, ignoreCase⟩ := by
  rw [compile_eq_ok_iff, String.toList_ofList]
  exact ⟨stem.tokens, readTokens_pattern plain, rfl⟩

theorem deepest_literals_append (text : List Char) (more : List Token) :
    deepest (text.map Token.literal ++ more) = deepest more := by
  induction text with
  | nil => rfl
  | cons character rest inductionHypothesis =>
      simp only [List.map_cons, List.cons_append, deepest, Token.depth, inductionHypothesis]
      omega

/-- A star is the deepest token of a stem. -/
theorem deepest_tokens (stem : Stem) : deepest stem.tokens = 2 := by
  cases stem with
  | ending text =>
      have flat := deepest_literals_append text []
      rw [List.append_nil] at flat
      rw [tokens, deepest, flat]
      rfl
  | beginning text =>
      rw [tokens, deepest_literals_append]
      rfl

/-- A star before a text spells anything without a slash and then the text. -/
theorem spellsAll_ending_iff {text : List Char} {bytes : List UInt8} :
    SpellsAll true (ending text).tokens bytes ↔
      ∃ first others, bytes = first ++ others ∧ slash ∉ first ∧
        others.map lowerByte = Text.bytes (Text.lower text) := by
  simp only [tokens, SpellsAll, Token.Spells, spellsAll_literals_iff]

/-- A star after a text spells the text and then anything without a slash. -/
theorem spellsAll_beginning_iff {text : List Char} {bytes : List UInt8} :
    SpellsAll true (beginning text).tokens bytes ↔
      ∃ first others, bytes = first ++ others ∧
        first.map lowerByte = Text.bytes (Text.lower text) ∧ slash ∉ others := by
  simp [tokens, spellsAll_append_iff, spellsAll_literals_iff, SpellsAll, Token.Spells]

/-- The pattern of a stem spells the names without a slash that fit the stem. -/
theorem spellsAll_tokens_iff
    (plain : stem.IsPlain)
    {name : List Char} :
    SpellsAll true stem.tokens (Text.bytes name) ↔ '/' ∉ name ∧ stem.Fits name := by
  have noSlash := plain.slash_notMem
  have ascii := plain.isAscii_lower
  rw [← Text.slash_mem_bytes_iff]
  cases stem with
  | ending text =>
      change ∀ character ∈ Text.lower text, _ at ascii
      rw [spellsAll_ending_iff, Fits, ← Text.bytes_isSuffix_iff ascii,
        ← Text.map_lowerByte_bytes name]
      constructor
      · rintro ⟨first, others, same, free, spells⟩
        rw [same, List.mem_append, not_or, List.map_append, spells]
        exact ⟨⟨free, slash_notMem_of_map_lowerByte noSlash spells⟩, List.suffix_append _ _⟩
      · rintro ⟨free, front, same⟩
        obtain ⟨first, others, split, -, spells⟩ := List.map_eq_append_iff.mp same.symm
        rw [split, List.mem_append, not_or] at free
        exact ⟨first, others, split, free.1, spells⟩
  | beginning text =>
      change ∀ character ∈ Text.lower text, _ at ascii
      rw [spellsAll_beginning_iff, Fits, ← Text.bytes_isPrefix_iff ascii,
        ← Text.map_lowerByte_bytes name]
      constructor
      · rintro ⟨first, others, same, spells, free⟩
        rw [same, List.mem_append, not_or, List.map_append, spells]
        exact ⟨⟨slash_notMem_of_map_lowerByte noSlash spells, free⟩, List.prefix_append _ _⟩
      · rintro ⟨free, back, same⟩
        obtain ⟨first, others, split, spells, -⟩ := List.map_eq_append_iff.mp same.symm
        rw [split, List.mem_append, not_or] at free
        exact ⟨first, others, split, spells, free.2⟩

theorem tokens_ne_leadingFolders (stem : Stem) : stem.tokens ≠ [.leadingFolders] := by
  cases stem with
  | ending text => simp [tokens]
  | beginning text => simp [tokens, List.append_eq_singleton_iff]

/-- A pattern with one star matches texts without a slash by their ending or beginning. -/
theorem matchesText_iff
    (plain : stem.IsPlain)
    (pattern : String)
    (name : String) :
    (Glob.mk pattern stem.tokens true).matchesText name = true ↔
      '/' ∉ name.toList ∧ stem.Fits name.toList := by
  rw [matchesText_iff_spellsAll (tokens_ne_leadingFolders stem), spellsAll_tokens_iff plain]

end Stem
end Glob
end HouseStyle
