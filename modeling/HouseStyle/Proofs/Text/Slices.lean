import HouseStyle.Text.Slice

/-!
# What stands between two offsets

A slice exists exactly if its two offsets come in order and neither falls inside
a character or past the end.  What occurs in a slice is what occurs in the text
between the two offsets.
-/

namespace HouseStyle
namespace Text

/-! ## Sizes -/

@[simp] theorem byteLength_nil : byteLength [] = 0 :=
  rfl

@[simp] theorem byteLength_cons (character : Char) (rest : List Char) :
    byteLength (character :: rest) = character.utf8Size + byteLength rest :=
  rfl

@[simp] theorem byteLength_append (text more : List Char) :
    byteLength (text ++ more) = byteLength text + byteLength more := by
  induction text with
  | nil => simp
  | cons character rest inductionHypothesis => simp [inductionHypothesis, Nat.add_assoc]

theorem byteLength_eq_zero_iff {text : List Char} : byteLength text = 0 ↔ text = [] := by
  cases text with
  | nil => simp
  | cons character rest =>
      have written := character.utf8Size_pos
      simp only [byteLength_cons, reduceCtorEq, iff_false]
      omega

theorem utf8ByteSize_eq_byteLength (text : List Char) :
    (String.ofList text).utf8ByteSize = byteLength text := by
  induction text with
  | nil => rfl
  | cons character rest inductionHypothesis =>
      rw [String.ofList_cons, String.utf8ByteSize_append, String.utf8ByteSize_singleton,
        inductionHypothesis, byteLength_cons]

/-- Of two beginnings of a text, the one with fewer bytes begins the other. -/
theorem isPrefix_of_byteLength_le
    {text first second : List Char}
    (firstBegins : first <+: text)
    (secondBegins : second <+: text)
    (smaller : byteLength first ≤ byteLength second) :
    first <+: second := by
  rcases List.prefix_or_prefix_of_prefix firstBegins secondBegins with begins | ⟨more, rfl⟩
  · exact begins
  · rw [byteLength_append] at smaller
    have empty : more = [] := byteLength_eq_zero_iff.mp (by omega)
    simp [empty]

/-! ## Slices -/

/-- A part of a text begins at one offset and ends at another. -/
def LiesBetween
    (text : List Char)
    (start stop : Nat)
    (part : List Char) : Prop :=
  ∃ before after, text = before ++ part ++ after ∧
    byteLength before = start ∧ byteLength (before ++ part) = stop

/-- Bytes can be dropped only up to the end of a character. -/
theorem dropBytes?_eq_some_iff
    {count : Nat}
    {text after : List Char} :
    dropBytes? count text = some after ↔
      ∃ before, text = before ++ after ∧ byteLength before = count := by
  constructor
  · intro dropped
    fun_induction dropBytes? count text with
    | case1 => exact ⟨[], Option.some.inj dropped, rfl⟩
    | case2 => cases dropped
    | case3 character rest => exact ⟨[], Option.some.inj dropped, rfl⟩
    | case4 count character rest written fits inductionHypothesis =>
        obtain ⟨before, rfl, size⟩ := inductionHypothesis dropped
        exact ⟨character :: before, rfl, by rw [byteLength_cons]; omega⟩
    | case5 => cases dropped
  · rintro ⟨before, rfl, rfl⟩
    induction before with
    | nil => cases after <;> rfl
    | cons character rest inductionHypothesis =>
        have written := character.utf8Size_pos
        rw [List.cons_append, byteLength_cons, dropBytes?, if_neg (by omega),
          if_pos (Nat.le_add_right ..), Nat.add_sub_cancel_left, inductionHypothesis]

/-- Bytes can be taken only up to the end of a character. -/
theorem takeBytes?_eq_some_iff
    {count : Nat}
    {text before : List Char} :
    takeBytes? count text = some before ↔
      ∃ after, text = before ++ after ∧ byteLength before = count := by
  constructor
  · intro taken
    fun_induction takeBytes? count text generalizing before with
    | case1 =>
        obtain rfl := Option.some.inj taken
        exact ⟨[], rfl, rfl⟩
    | case2 => cases taken
    | case3 character rest =>
        obtain rfl := Option.some.inj taken
        exact ⟨character :: rest, rfl, rfl⟩
    | case4 count character rest written fits inductionHypothesis =>
        obtain ⟨kept, further, rfl⟩ := Option.map_eq_some_iff.mp taken
        obtain ⟨after, rfl, size⟩ := inductionHypothesis further
        exact ⟨after, rfl, by rw [byteLength_cons]; omega⟩
    | case5 => cases taken
  · rintro ⟨after, rfl, rfl⟩
    induction before with
    | nil => cases after <;> rfl
    | cons character rest inductionHypothesis =>
        have written := character.utf8Size_pos
        rw [List.cons_append, byteLength_cons, takeBytes?, if_neg (by omega),
          if_pos (Nat.le_add_right ..), Nat.add_sub_cancel_left, inductionHypothesis,
          Option.map_some]

/-- A slice is the part between two offsets that both lie between characters. -/
theorem slice?_eq_some_iff
    {text part : List Char}
    {start stop : Nat} :
    slice? text start stop = some part ↔ LiesBetween text start stop part := by
  rw [slice?]
  constructor
  · intro sliced
    split at sliced
    · rename_i ordered
      obtain ⟨rest, dropped, taken⟩ := Option.bind_eq_some_iff.mp sliced
      obtain ⟨before, rfl, rfl⟩ := dropBytes?_eq_some_iff.mp dropped
      obtain ⟨after, rfl, size⟩ := takeBytes?_eq_some_iff.mp taken
      refine ⟨before, after, (List.append_assoc ..).symm, rfl, ?_⟩
      rw [byteLength_append]
      omega
    · cases sliced
  · rintro ⟨before, after, rfl, rfl, rfl⟩
    rw [byteLength_append, if_pos (Nat.le_add_right ..), Nat.add_sub_cancel_left]
    have dropped : dropBytes? (byteLength before) (before ++ part ++ after) = some (part ++ after) :=
      dropBytes?_eq_some_iff.mpr ⟨before, List.append_assoc .., rfl⟩
    have taken : takeBytes? (byteLength part) (part ++ after) = some part :=
      takeBytes?_eq_some_iff.mpr ⟨after, rfl, rfl⟩
    exact Option.bind_eq_some_iff.mpr ⟨part ++ after, dropped, taken⟩

/-! ## Offsets between characters -/

/-- An offset lies between characters exactly if it is the size of a text that the source begins
with. -/
theorem isValid_iff_exists_byteLength
    {source : String}
    {offset : Nat} :
    String.Pos.Raw.IsValid source ⟨offset⟩ ↔
      ∃ before, before <+: source.toList ∧ byteLength before = offset := by
  rw [String.Pos.Raw.isValid_iff_exists_append]
  constructor
  · rintro ⟨before, after, rfl, same⟩
    refine ⟨before.toList, ⟨after.toList, String.toList_append.symm⟩, ?_⟩
    rw [← utf8ByteSize_eq_byteLength, String.ofList_toList]
    exact (congrArg String.Pos.Raw.byteIdx same).symm
  · rintro ⟨before, ⟨after, split⟩, rfl⟩
    refine ⟨String.ofList before, String.ofList after, ?_, ?_⟩
    · rw [← String.ofList_append, split, String.ofList_toList]
    · rw [String.Pos.Raw.ext_iff, String.byteIdx_rawEndPos, utf8ByteSize_eq_byteLength]

/-- Something lies between two offsets exactly if they come in order and both lie between
characters. -/
theorem exists_liesBetween_iff
    {source : String}
    {start stop : Nat} :
    (∃ part, LiesBetween source.toList start stop part) ↔
      start ≤ stop ∧ String.Pos.Raw.IsValid source ⟨start⟩ ∧
        String.Pos.Raw.IsValid source ⟨stop⟩ := by
  simp only [isValid_iff_exists_byteLength]
  constructor
  · rintro ⟨part, before, after, split, rfl, rfl⟩
    rw [split]
    refine ⟨by simp, ⟨before, ?_, rfl⟩, before ++ part, List.prefix_append _ _, rfl⟩
    rw [List.append_assoc]
    exact List.prefix_append _ _
  · rintro ⟨ordered, ⟨before, firstBegins, rfl⟩, ⟨upTo, secondBegins, rfl⟩⟩
    obtain ⟨part, rfl⟩ := isPrefix_of_byteLength_le firstBegins secondBegins ordered
    obtain ⟨after, split⟩ := secondBegins
    exact ⟨part, before, after, split.symm, rfl, rfl⟩

/-- What occurs in a part of a text occurs in the text between the offsets of the part. -/
theorem LiesBetween.isInfix_iff
    {text part wanted : List Char}
    {start stop : Nat}
    (lies : LiesBetween text start stop part) :
    wanted <:+: part ↔
      ∃ before after, text = before ++ wanted ++ after ∧
        start ≤ byteLength before ∧ byteLength (before ++ wanted) ≤ stop := by
  obtain ⟨front, back, rfl, rfl, rfl⟩ := lies
  constructor
  · rintro ⟨first, last, rfl⟩
    refine ⟨front ++ first, last ++ back, by simp, by simp, ?_⟩
    simp only [byteLength_append]
    omega
  · rintro ⟨before, after, split, early, late⟩
    have frontBegins : front <+: before ++ wanted ++ after := by
      rw [← split, List.append_assoc]
      exact List.prefix_append _ _
    have beforeBegins : before <+: before ++ wanted ++ after := by
      rw [List.append_assoc]
      exact List.prefix_append _ _
    obtain ⟨first, rfl⟩ := isPrefix_of_byteLength_le frontBegins beforeBegins early
    simp only [List.append_assoc, List.append_cancel_left_eq] at split
    have wantedBegins : first ++ wanted <+: part ++ back := by
      rw [split, ← List.append_assoc]
      exact List.prefix_append _ _
    obtain ⟨last, rfl⟩ := isPrefix_of_byteLength_le wantedBegins (List.prefix_append _ _)
      (by simp only [byteLength_append] at late ⊢; omega)
    exact ⟨first, last, rfl⟩

end Text
end HouseStyle
