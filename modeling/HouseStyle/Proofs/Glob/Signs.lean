import HouseStyle.Glob.Reading

/-!
# Signs of patterns

A pattern without a slash is read sign by sign.  Which sign comes first
depends on the text alone, and each sign changes the draft in one way, so what
every sign keeps is kept by reading.
-/

namespace HouseStyle
namespace Glob

/-! ## Signs -/

/-- What is read of a pattern at once. -/
inductive Sign where
  /-- A token, written so that the given character comes last. -/
  | token (token : Token) (last : Char)
  | doubleStar
  | opens
  | closes
  | comma

/-- The last character of a sign. -/
def Sign.last : Sign → Char
  | token _ last => last
  | doubleStar => '*'
  | opens => '\x7b'
  | closes => '\x7d'
  | comma => ','

/-- A sign can be read in a text without a slash. -/
inductive Sign.OccursIn (text : List Char) : Sign → Prop
  | anyByte : OccursIn text (.token .anyByte '?')
  | anyRun : OccursIn text (.token .anyRun '*')
  | oneOf (members : CharacterClass) (bracket : '[' ∈ text) :
      OccursIn text (.token (.oneOf members) ']')
  | literal
      (character : Char)
      (noSlash : character ≠ '/')
      (escaped : character = ',' ∨ character = '\x7b' → '\\' ∈ text) :
      OccursIn text (.token (.literal character) character)
  | doubleStar : OccursIn text .doubleStar
  | opens : OccursIn text .opens
  | closes : OccursIn text .closes
  | comma : OccursIn text .comma

namespace Draft

/-- Takes in a double star, given the characters before and after it. -/
def doubleStar (draft : Draft) (previous next : Option Char) : Draft :=
  if draft.current.isEmpty then
    if next.isNone then draft.push .leadingFolders else draft.pushRuns
  else if atFolderBorder draft previous && next.all (endsBranch draft) then
    draft.spanFolders .trailingFolders
  else
    draft.pushRuns

/-- Takes in a sign, given the characters before and after it. -/
def take (draft : Draft) (previous next : Option Char) : Sign → Except Fault Draft
  | .token token _ => .ok (draft.push token)
  | .doubleStar => .ok (draft.doubleStar previous next)
  | .opens => .ok draft.openGroup
  | .closes => draft.closeGroup
  | .comma => .ok draft.comma

end Draft

/-! ## The first sign of a text -/

/-- Reading a text takes in a sign and goes on with the rest. -/
structure Yields (text : List Char) (sign : Sign) (rest : List Char) : Prop where
  occursIn : sign.OccursIn text
  isSuffix : rest <:+ text
  shorter : rest.length < text.length
  doubled : sign = .doubleStar → text = '*' :: '*' :: rest
  readFrom_eq : ∀ draft previous,
    readFrom draft previous text =
      draft.take previous rest.head? sign >>= fun further => readFrom further (some sign.last) rest

/-- The characters that do not always stand for themselves outside of classes. -/
def specialCharacters : List Char :=
  ['?', '*', '[', '\x7b', '\x7d', ',', '\\']

theorem readFrom_nil (draft : Draft) (previous : Option Char) :
    readFrom draft previous [] = .ok draft :=
  rfl

theorem readFrom_plain
    {character : Char}
    (plain : character ∉ specialCharacters)
    (draft : Draft)
    (previous : Option Char)
    (rest : List Char) :
    readFrom draft previous (character :: rest) =
      readFrom (draft.push (.literal character)) (some character) rest := by
  simp only [specialCharacters, List.mem_cons, not_or] at plain
  rw [readFrom] <;> grind

theorem readFrom_star
    {rest : List Char}
    (single : rest.head? ≠ some '*')
    (draft : Draft)
    (previous : Option Char) :
    readFrom draft previous ('*' :: rest) =
      readFrom (draft.push .anyRun) (some '*') rest := by
  rw [readFrom]
  intro more same
  simp [same] at single

theorem readFrom_doubleStar
    {rest : List Char}
    (noSlash : rest.head? ≠ some '/')
    (draft : Draft)
    (previous : Option Char) :
    readFrom draft previous ('*' :: '*' :: rest) =
      readFrom (draft.doubleStar previous rest.head?) (some '*') rest := by
  cases rest with
  | nil =>
      rw [readFrom, readFrom, readFrom, Draft.doubleStar]
      simp only [List.head?_nil, Option.isNone_none, if_true, Option.all_none, Bool.and_true]
      split
      · rfl
      · split <;> rfl
  | cons next more =>
      have other : next ≠ '/' := by simpa using noSlash
      rw [readFrom, Draft.doubleStar]
      · simp only [List.head?_cons, Option.isNone_some, Option.all_some, Bool.false_eq_true,
          if_false, Bool.and_eq_true]
        grind
      · exact other

/-- Reading a class ends in a fault or adds the class, whatever the draft. -/
theorem readClass_cases (members : ClassDraft) (text : List Char) :
    (∃ fault, ∀ draft, readClass draft members text = .error fault) ∨
      ∃ finished rest, rest <:+ text ∧ ∀ draft,
        readClass draft members text =
          readFrom (draft.push (.oneOf finished)) (some ']') rest := by
  induction text generalizing members with
  | nil => exact Or.inl ⟨.unclosedClass, fun draft => by rw [readClass]⟩
  | cons character rest inductionHypothesis =>
      -- either the class ends here, or a member is added, or that is a fault
      have goesOn {added : Except Fault ClassDraft}
          (same : ∀ draft, readClass draft members (character :: rest) =
            added >>= fun further => readClass draft further rest) :
          (∃ fault, ∀ draft, readClass draft members (character :: rest) = .error fault) ∨
            ∃ finished more, more <:+ character :: rest ∧ ∀ draft,
              readClass draft members (character :: rest) =
                readFrom (draft.push (.oneOf finished)) (some ']') more := by
        cases added with
        | error fault => exact Or.inl ⟨fault, same⟩
        | ok further =>
            rcases inductionHypothesis further with
              ⟨fault, refused⟩ | ⟨finished, more, within, read⟩
            · exact Or.inl ⟨fault, fun draft => (same draft).trans (refused draft)⟩
            · exact Or.inr ⟨finished, more, within.trans (List.suffix_cons _ _),
                fun draft => (same draft).trans (read draft)⟩
      by_cases bracket : character = ']'
      · subst bracket
        by_cases isFirst : members.isFirst = true
        · apply goesOn
          intro draft
          rw [readClass, if_pos isFirst]
        · refine Or.inr ⟨members.finish, rest, List.suffix_cons _ _, fun draft => ?_⟩
          rw [readClass, if_neg isFirst]
      · by_cases hyphen : character = '-'
        · subst hyphen
          apply goesOn
          intro draft
          rw [readClass]
        · apply goesOn
          intro draft
          rw [readClass]
          · exact bracket
          · exact hyphen

theorem exists_readClass (rest : List Char) :
    ∃ members more, more <:+ rest ∧ ∀ draft previous,
      readFrom draft previous ('[' :: rest) = readClass draft members more := by
  by_cases bang : rest.head? = some '!'
  · obtain ⟨more, rfl⟩ := List.head?_eq_some_iff.mp bang
    exact ⟨_, more, List.suffix_cons _ _, fun draft previous => rfl⟩
  · by_cases caret : rest.head? = some '^'
    · obtain ⟨more, rfl⟩ := List.head?_eq_some_iff.mp caret
      exact ⟨_, more, List.suffix_cons _ _, fun draft previous => rfl⟩
    · refine ⟨.empty false, rest, List.suffix_rfl, fun draft previous => ?_⟩
      rw [readFrom]
      · intro more same
        exact bang (same ▸ rfl)
      · intro more same
        exact caret (same ▸ rfl)

theorem length_lt_length_cons_cons (first second : Char) (rest : List Char) :
    rest.length < (first :: second :: rest).length := by
  rw [List.length_cons, List.length_cons]
  omega

/-- A sign of one character comes first. -/
theorem Yields.of_cons
    {character : Char}
    {rest : List Char}
    {sign : Sign}
    (occursIn : sign.OccursIn (character :: rest))
    (single : sign ≠ .doubleStar)
    (readFrom_eq : ∀ draft previous,
      readFrom draft previous (character :: rest) =
        draft.take previous rest.head? sign >>=
          fun further => readFrom further (some sign.last) rest) :
    Yields (character :: rest) sign rest where
  occursIn := occursIn
  isSuffix := List.suffix_cons _ _
  shorter := Nat.lt_succ_self _
  doubled := fun same => absurd same single
  readFrom_eq := readFrom_eq

/-- A written text without a slash is refused, or some sign comes first. -/
theorem exists_yields
    {text : List Char}
    (written : text ≠ [])
    (noSlash : '/' ∉ text) :
    (∃ fault, ∀ draft previous, readFrom draft previous text = .error fault) ∨
      ∃ sign rest, Yields text sign rest := by
  obtain ⟨character, rest, rfl⟩ := List.exists_cons_of_ne_nil written
  rw [List.mem_cons, not_or] at noSlash
  by_cases special : character ∈ specialCharacters
  · simp only [specialCharacters, List.mem_cons, List.not_mem_nil, or_false] at special
    rcases special with rfl | rfl | rfl | rfl | rfl | rfl | rfl
    · refine Or.inr ⟨_, rest, Yields.of_cons .anyByte nofun fun draft previous => ?_⟩
      rfl
    · by_cases double : rest.head? = some '*'
      · obtain ⟨more, rfl⟩ := List.head?_eq_some_iff.mp double
        refine Or.inr ⟨.doubleStar, more, .doubleStar,
          (List.suffix_cons _ _).trans (List.suffix_cons _ _), length_lt_length_cons_cons _ _ more,
          fun _ => rfl, fun draft previous => ?_⟩
        apply readFrom_doubleStar
        intro starts
        exact noSlash.2 (List.mem_cons_of_mem _ (List.mem_of_mem_head? starts))
      · refine Or.inr ⟨_, rest, Yields.of_cons .anyRun nofun fun draft previous => ?_⟩
        exact readFrom_star double draft previous
    · obtain ⟨members, more, within, begins⟩ := exists_readClass rest
      rcases readClass_cases members more with ⟨fault, refused⟩ | ⟨finished, last, ends, read⟩
      · exact Or.inl ⟨fault, fun draft previous => (begins draft previous).trans (refused draft)⟩
      · refine Or.inr ⟨.token (.oneOf finished) ']', last, .oneOf finished List.mem_cons_self,
          (ends.trans within).trans (List.suffix_cons _ _),
          Nat.lt_succ_of_le (ends.trans within).length_le, nofun, fun draft previous => ?_⟩
        exact (begins draft previous).trans (read draft)
    · refine Or.inr ⟨_, rest, Yields.of_cons .opens nofun fun draft previous => ?_⟩
      rfl
    · refine Or.inr ⟨_, rest, Yields.of_cons .closes nofun fun draft previous => ?_⟩
      rfl
    · refine Or.inr ⟨_, rest, Yields.of_cons .comma nofun fun draft previous => ?_⟩
      rfl
    · cases rest with
      | nil => exact Or.inl ⟨.danglingEscape, fun draft previous => rfl⟩
      | cons escaped more =>
          have occurs : escaped ≠ '/' := fun same => noSlash.2 (same ▸ List.mem_cons_self)
          refine Or.inr ⟨_, more, .literal escaped occurs fun _ => List.mem_cons_self,
            (List.suffix_cons _ _).trans (List.suffix_cons _ _),
            length_lt_length_cons_cons _ _ more, nofun, fun draft previous => ?_⟩
          rfl
  · refine Or.inr ⟨.token (.literal character) character, rest,
      Yields.of_cons (.literal character (Ne.symm noSlash.1) ?_) nofun
        fun draft previous => readFrom_plain special draft previous rest⟩
    intro separator
    simp only [specialCharacters, List.mem_cons, not_or] at special
    rcases separator with comma | brace
    · exact absurd comma special.2.2.2.2.2.1
    · exact absurd brace special.2.2.2.1

theorem Yields.slash_notMem
    {text rest : List Char}
    {sign : Sign}
    (yields : Yields text sign rest)
    (noSlash : '/' ∉ text) :
    '/' ∉ rest :=
  fun listed => noSlash (yields.isSuffix.subset listed)

/-- Induction along the signs of a text; texts with a slash and refused ones are left aside. -/
theorem induction_on_signs
    {motive : List Char → Prop}
    (slash : ∀ text, '/' ∈ text → motive text)
    (nil : motive [])
    (refused : ∀ text fault,
      (∀ draft previous, readFrom draft previous text = .error fault) → motive text)
    (sign : ∀ text sign rest, Yields text sign rest → motive rest → motive text)
    (text : List Char) :
    motive text := by
  induction size : text.length using Nat.strongRecOn generalizing text with
  | ind length inductionHypothesis =>
      by_cases noSlash : '/' ∈ text
      · exact slash text noSlash
      · by_cases written : text = []
        · exact written ▸ nil
        · rcases exists_yields written noSlash with ⟨fault, refuses⟩ | ⟨first, rest, yields⟩
          · exact refused text fault refuses
          · have shorter : rest.length < length := size ▸ yields.shorter
            exact sign text first rest yields (inductionHypothesis rest.length shorter rest rfl)

end Glob
end HouseStyle
