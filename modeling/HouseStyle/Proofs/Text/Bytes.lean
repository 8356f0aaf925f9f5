import HouseStyle.Glob.Matching
import HouseStyle.Proofs.Text.Cutting
import Mathlib.Data.List.Induction

/-!
# Texts as bytes

A character below 128 is one byte, and every byte of any other character is 128
or more.  So a byte below 128 in a text is a character of the text.  Bytes come
in the order of the characters that they stand for.
-/

namespace HouseStyle
namespace Text

/-! ## Bytes of characters -/

/-- A character is a single byte. -/
def IsAscii (character : Char) : Prop :=
  character.toNat < 128

/-- The byte of a character that is a single byte. -/
def byteOf (character : Char) : UInt8 :=
  UInt8.ofNat character.toNat

instance (character : Char) : Decidable (IsAscii character) :=
  inferInstanceAs (Decidable (character.toNat < 128))

/-- A character of ASCII is a single byte. -/
theorem utf8EncodeChar_of_isAscii
    {character : Char}
    (ascii : IsAscii character) :
    String.utf8EncodeChar character = [byteOf character] := by
  have small : character.val.toNat ≤ 127 := Nat.le_of_lt_succ ascii
  simp only [String.utf8EncodeChar, if_pos small]
  rfl

/-- No byte of any other character can be taken for one of ASCII. -/
theorem le_of_mem_utf8EncodeChar
    {character : Char}
    {byte : UInt8}
    (other : ¬ IsAscii character)
    (found : byte ∈ String.utf8EncodeChar character) :
    128 ≤ byte.toNat := by
  have large : ¬ character.val.toNat ≤ 127 := fun small => other (Nat.lt_succ_of_le small)
  simp only [String.utf8EncodeChar, if_neg large] at found
  split_ifs at found <;>
    simp only [List.mem_cons, List.not_mem_nil, or_false] at found <;>
    rcases found with rfl | rfl | rfl | rfl <;>
    simp only [UInt8.toNat_ofNat'] <;>
    omega

theorem byteOf_toNat
    {character : Char}
    (ascii : IsAscii character) :
    (byteOf character).toNat = character.toNat := by
  have small : character.toNat < 128 := ascii
  rw [byteOf, UInt8.toNat_ofNat']
  omega

/-- The byte of a character of ASCII tells the character. -/
theorem byteOf_injective
    {left right : Char}
    (leftAscii : IsAscii left)
    (rightAscii : IsAscii right)
    (same : byteOf left = byteOf right) :
    left = right := by
  apply Char.toNat_inj.mp
  rw [← byteOf_toNat leftAscii, ← byteOf_toNat rightAscii, same]

/-! ## Bytes of texts -/

@[simp] theorem bytes_nil : bytes [] = [] :=
  rfl

theorem bytes_cons (character : Char) (rest : List Char) :
    bytes (character :: rest) = String.utf8EncodeChar character ++ bytes rest :=
  List.flatMap_cons

theorem bytes_append (text more : List Char) : bytes (text ++ more) = bytes text ++ bytes more :=
  List.flatMap_append

theorem bytes_eq_nil_iff {text : List Char} : bytes text = [] ↔ text = [] := by
  cases text with
  | nil => simp
  | cons character rest => simp [bytes_cons, String.utf8EncodeChar_ne_nil]

/-- A byte below 128 in a text is a character of the text. -/
theorem exists_split_of_bytes_eq
    {wanted : Char}
    {text : List Char}
    {before after : List UInt8}
    (ascii : IsAscii wanted)
    (split : bytes text = before ++ byteOf wanted :: after) :
    ∃ front back, text = front ++ wanted :: back ∧ bytes front = before ∧ bytes back = after := by
  induction text generalizing before with
  | nil => simp at split
  | cons character rest inductionHypothesis =>
      by_cases single : IsAscii character
      · rw [bytes_cons, utf8EncodeChar_of_isAscii single, List.singleton_append] at split
        cases before with
        | nil =>
            obtain ⟨same, remaining⟩ := List.cons.inj split
            obtain rfl := byteOf_injective single ascii same
            exact ⟨[], rest, rfl, rfl, remaining⟩
        | cons first others =>
            obtain ⟨rfl, remaining⟩ := List.cons.inj split
            obtain ⟨front, back, rfl, rfl, rfl⟩ := inductionHypothesis remaining
            refine ⟨character :: front, back, rfl, ?_, rfl⟩
            rw [bytes_cons, utf8EncodeChar_of_isAscii single, List.singleton_append]
      · -- The byte is none of the character's own bytes, so these all stand before it.
        rw [bytes_cons, List.append_eq_append_iff] at split
        obtain ⟨others, rfl, remaining⟩ : ∃ others,
            before = String.utf8EncodeChar character ++ others ∧
              bytes rest = others ++ byteOf wanted :: after := by
          rcases split with ⟨others, atStart, remaining⟩ | ⟨others, inside, remaining⟩
          · exact ⟨others, atStart, remaining⟩
          · cases others with
            | nil => exact ⟨[], by simpa using inside.symm, by simpa using remaining.symm⟩
            | cons first more =>
                obtain ⟨rfl, _⟩ := List.cons.inj remaining
                have large := le_of_mem_utf8EncodeChar single
                  (inside ▸ List.mem_append_right before List.mem_cons_self)
                rw [byteOf_toNat ascii] at large
                exact absurd ascii (Nat.not_lt.mpr large)
        obtain ⟨front, back, rfl, rfl, rfl⟩ := inductionHypothesis remaining
        exact ⟨character :: front, back, rfl, bytes_cons character front, rfl⟩

/-- A character of ASCII can be sought among the bytes of a text. -/
theorem byteOf_mem_bytes_iff
    {wanted : Char}
    {text : List Char}
    (ascii : IsAscii wanted) :
    byteOf wanted ∈ bytes text ↔ wanted ∈ text := by
  constructor
  · intro found
    obtain ⟨before, after, split⟩ := List.append_of_mem found
    obtain ⟨front, back, rfl, _, _⟩ := exists_split_of_bytes_eq ascii split
    simp
  · intro found
    refine List.mem_flatMap.mpr ⟨wanted, found, ?_⟩
    rw [utf8EncodeChar_of_isAscii ascii]
    exact List.mem_singleton_self _

theorem slash_mem_bytes_iff {text : List Char} : Glob.slash ∈ bytes text ↔ '/' ∈ text :=
  byteOf_mem_bytes_iff (show IsAscii '/' by decide)

/-- Tails of a text that begin after a slash, or at its start, are told by their bytes. -/
theorem exists_isTail_iff
    {text : List Char}
    {wanted : List UInt8 → Prop} :
    (∃ first others, bytes text = first ++ others ∧
        (first = [] ∨ first.getLast? = some Glob.slash) ∧ wanted others) ↔
      ∃ tail, IsTail '/' text tail ∧ wanted (bytes tail) := by
  constructor
  · rintro ⟨first, others, split, rfl | ends, found⟩
    · rw [List.nil_append] at split
      exact ⟨text, isTail_self '/' text, split ▸ found⟩
    · obtain ⟨before, rfl⟩ := List.getLast?_eq_some_iff.mp ends
      rw [List.append_assoc, List.singleton_append] at split
      obtain ⟨front, tail, rfl, -, rfl⟩ :=
        exists_split_of_bytes_eq (show IsAscii '/' by decide) split
      refine ⟨tail, ⟨front ++ ['/'], ?_, Or.inr List.getLast?_concat⟩, found⟩
      rw [List.append_assoc, List.singleton_append]
  · rintro ⟨tail, ⟨front, rfl, rfl | ends⟩, found⟩
    · exact ⟨[], bytes tail, rfl, Or.inl rfl, found⟩
    · obtain ⟨before, rfl⟩ := List.getLast?_eq_some_iff.mp ends
      refine ⟨bytes before ++ [Glob.slash], bytes tail, ?_, Or.inr List.getLast?_concat, found⟩
      rw [bytes_append, bytes_append]
      rfl

/-- An ending in ASCII can be compared by bytes, since no character is cut apart. -/
theorem bytes_isSuffix_iff
    {ending text : List Char}
    (ascii : ∀ character ∈ ending, IsAscii character) :
    bytes ending <:+ bytes text ↔ ending <:+ text := by
  constructor
  · induction ending using List.reverseRecOn generalizing text with
    | nil => simp
    | append_singleton fewer character inductionHypothesis =>
        rintro ⟨before, split⟩
        have single : IsAscii character := ascii character (by simp)
        rw [bytes_append, bytes_cons, utf8EncodeChar_of_isAscii single, ← List.append_assoc]
          at split
        obtain ⟨front, back, rfl, atStart, atEnd⟩ := exists_split_of_bytes_eq single split.symm
        obtain rfl := bytes_eq_nil_iff.mp atEnd
        have further := inductionHypothesis (fun other found => ascii other (by simp [found]))
          ⟨before, atStart.symm⟩
        obtain ⟨earlier, rfl⟩ := further
        exact ⟨earlier, by simp⟩
  · rintro ⟨before, rfl⟩
    exact ⟨bytes before, (bytes_append before ending).symm⟩

/-- A beginning in ASCII can be compared by bytes, since no character is cut apart. -/
theorem bytes_isPrefix_iff
    {start text : List Char}
    (ascii : ∀ character ∈ start, IsAscii character) :
    bytes start <+: bytes text ↔ start <+: text := by
  constructor
  · induction start generalizing text with
    | nil => simp
    | cons character rest inductionHypothesis =>
        rintro ⟨after, split⟩
        obtain ⟨single, others⟩ := List.forall_mem_cons.mp ascii
        rw [bytes_cons, utf8EncodeChar_of_isAscii single, List.append_assoc,
          ← List.nil_append ([byteOf character] ++ _)] at split
        obtain ⟨front, back, rfl, atStart, atEnd⟩ := exists_split_of_bytes_eq single split.symm
        obtain rfl := bytes_eq_nil_iff.mp atStart
        obtain ⟨more, rfl⟩ := inductionHypothesis others ⟨after, atEnd.symm⟩
        exact ⟨more, rfl⟩
  · rintro ⟨after, rfl⟩
    exact ⟨bytes after, (bytes_append start after).symm⟩

/-! ## Letter case -/

/-- Only letters of ASCII have a small letter here. -/
theorem toLower_eq_self
    {character : Char}
    (other : ¬ IsAscii character) :
    character.toLower = character := by
  have large : 128 ≤ character.val.toNat := Nat.not_lt.mp other
  have noLetter : ¬ (character.val ≥ 'A'.val ∧ character.val ≤ 'Z'.val) := by
    rintro ⟨_, small⟩
    have small : character.val.toNat ≤ 90 := small
    omega
  delta Char.toLower
  exact dif_neg noLetter

theorem isAscii_toLower_and_byteOf :
    ∀ code < 128, IsAscii (Char.ofNat code).toLower ∧
      Glob.lowerByte (byteOf (Char.ofNat code)) = byteOf (Char.ofNat code).toLower := by
  decide +kernel

/-- Making the bytes of a character small makes the character small. -/
theorem map_lowerByte_utf8EncodeChar (character : Char) :
    (String.utf8EncodeChar character).map Glob.lowerByte =
      String.utf8EncodeChar character.toLower := by
  by_cases ascii : IsAscii character
  · have small := isAscii_toLower_and_byteOf character.toNat ascii
    rw [Char.ofNat_toNat] at small
    rw [utf8EncodeChar_of_isAscii ascii, utf8EncodeChar_of_isAscii small.1, List.map_singleton,
      small.2]
  · rw [toLower_eq_self ascii]
    refine (List.map_congr_left fun byte found => ?_).trans (List.map_id _)
    have large := le_of_mem_utf8EncodeChar ascii found
    have noLetter : ¬ byte ≤ 90 := by
      rw [UInt8.le_iff_toNat_le]
      exact fun small => absurd (Nat.le_trans large small) (by decide)
    simp [Glob.lowerByte, noLetter]

/-- Bytes are written small as characters are. -/
theorem map_lowerByte_bytes (text : List Char) :
    (bytes text).map Glob.lowerByte = bytes (lower text) := by
  induction text with
  | nil => rfl
  | cons character rest inductionHypothesis =>
      rw [bytes_cons, List.map_append, map_lowerByte_utf8EncodeChar, inductionHypothesis, lower,
        lower, List.map_cons, bytes_cons]

/-! ## Order -/

/-- The first difference between two texts decides, and characters are ordered as their bytes. -/
theorem utf8EncodeChar_append_lt
    {left right : Char}
    (less : left < right)
    (leftRest rightRest : List UInt8) :
    String.utf8EncodeChar left ++ leftRest < String.utf8EncodeChar right ++ rightRest := by
  have less : left.val.toNat < right.val.toNat := less
  have bound : right.val.toNat < 0x110000 := by
    rcases right.valid with low | ⟨_, high⟩
    · omega
    · exact high
  simp only [String.utf8EncodeChar]
  split_ifs <;>
    simp only [List.cons_append, List.nil_append, List.cons_lt_cons_iff, UInt8.lt_iff_toNat_lt,
      ← UInt8.toNat_inj, UInt8.toNat_ofNat'] <;>
    simp (disch := omega) only [Nat.mod_eq_of_lt] <;>
    omega

theorem bytes_lt
    {left right : List Char}
    (less : left < right) :
    bytes left < bytes right := by
  induction left generalizing right with
  | nil =>
      cases right with
      | nil => cases less
      | cons character rest =>
          obtain ⟨byte, others, split⟩ :=
            List.exists_cons_of_ne_nil (mt bytes_eq_nil_iff.mp (List.cons_ne_nil character rest))
          rw [split, bytes_nil]
          exact List.nil_lt_cons byte others
  | cons character rest inductionHypothesis =>
      cases right with
      | nil => cases less
      | cons other more =>
          rw [bytes_cons, bytes_cons]
          rcases List.cons_lt_cons_iff.mp less with smaller | ⟨rfl, further⟩
          · exact utf8EncodeChar_append_lt smaller _ _
          · exact List.append_left_lt (inductionHypothesis further)

/-- Bytes come in the order of the characters that they stand for. -/
theorem bytes_lt_iff {left right : List Char} : bytes left < bytes right ↔ left < right := by
  constructor
  · intro less
    by_contra notLess
    rcases List.le_iff_lt_or_eq.mp (List.not_lt.mp notLess) with greater | rfl
    · exact List.lt_asymm less (bytes_lt greater)
    · exact List.lt_irrefl _ less
  · exact bytes_lt

end Text
end HouseStyle
