import HouseStyle.Glob.Matching
import Mathlib.Data.List.Forall2

/-!
# What glob patterns match

Every token stands for a set of byte sequences, and a pattern for what its
tokens spell one after the other.  Marks are named by what is left of the text
after them: a token moves a mark past exactly the sequences that it spells.
-/

namespace HouseStyle
namespace Glob

/-! ## Meaning -/

mutual

/-- A token stands for a sequence of bytes. -/
def Token.Spells (ignoreCase : Bool) : Token → List UInt8 → Prop
  | .literal character, bytes =>
      List.Forall₂ (fun wanted byte => sameByte ignoreCase wanted byte = true)
        (String.utf8EncodeChar character) bytes
  | .anyByte, bytes => ∃ byte, bytes = [byte] ∧ byte ≠ slash
  | .anyRun, bytes => slash ∉ bytes
  | .leadingFolders, bytes => bytes = [] ∨ bytes.getLast? = some slash
  | .trailingFolders, bytes => bytes.head? = some slash
  | .innerFolders, bytes => bytes.head? = some slash ∧ bytes.getLast? = some slash
  | .oneOf members, bytes => ∃ byte, bytes = [byte] ∧ members.holds ignoreCase byte = true
  | .alternatives branches, bytes =>
      allVacuous branches = true ∧ bytes = [] ∨ SpellsAny ignoreCase branches bytes

/-- The tokens of a pattern spell a sequence of bytes, one after the other. -/
def SpellsAll (ignoreCase : Bool) : List Token → List UInt8 → Prop
  | [], bytes => bytes = []
  | token :: rest, bytes =>
      ∃ first others, bytes = first ++ others ∧ token.Spells ignoreCase first ∧
        SpellsAll ignoreCase rest others

/-- One of several patterns that is not vacuous spells a sequence of bytes. -/
def SpellsAny (ignoreCase : Bool) : List (List Token) → List UInt8 → Prop
  | [], _ => False
  | branch :: rest, bytes =>
      isVacuous branch = false ∧ SpellsAll ignoreCase branch bytes ∨
        SpellsAny ignoreCase rest bytes

end

/-! ## Marks -/

namespace Marked

/-- There is a mark on the place before which all but the given bytes stand. -/
def MarksBefore : Marked → List UInt8 → Prop
  | last mark, rest => mark = true ∧ rest = []
  | next mark byte more, rest => mark = true ∧ rest = byte :: more.bytes ∨ more.MarksBefore rest

/-- What is left after a mark is an end of the text. -/
theorem MarksBefore.isSuffix
    {text : Marked}
    {rest : List UInt8}
    (marks : text.MarksBefore rest) :
    rest <:+ text.bytes := by
  induction text with
  | last mark => exact marks.2 ▸ List.suffix_rfl
  | next mark byte more inductionHypothesis =>
      rcases marks with ⟨_, rfl⟩ | further
      · exact List.suffix_rfl
      · exact (inductionHypothesis further).trans (List.suffix_cons _ _)

/-- The mark at the end is the one after which nothing is left. -/
theorem endMark_iff {text : Marked} : text.endMark = true ↔ text.MarksBefore [] := by
  induction text with
  | last mark => simp [endMark, MarksBefore]
  | next mark byte more inductionHypothesis => simp [endMark, MarksBefore, inductionHypothesis]

@[simp] theorem bytes_plain (bytes : List UInt8) : (plain bytes).bytes = bytes := by
  induction bytes with
  | nil => rfl
  | cons byte rest inductionHypothesis => rw [plain, Marked.bytes, inductionHypothesis]

theorem not_marksBefore_plain (bytes rest : List UInt8) : ¬ (plain bytes).MarksBefore rest := by
  induction bytes with
  | nil => simp [plain, MarksBefore]
  | cons byte more inductionHypothesis => simpa [plain, MarksBefore] using inductionHypothesis

/-- A text that is still to be matched is marked before its first byte only. -/
theorem marksBefore_ofBytes_iff {bytes rest : List UInt8} :
    (ofBytes bytes).MarksBefore rest ↔ rest = bytes := by
  cases bytes with
  | nil => simp [ofBytes, MarksBefore]
  | cons byte more => simp [ofBytes, MarksBefore, not_marksBefore_plain]

@[simp] theorem bytes_clear (text : Marked) : text.clear.bytes = text.bytes := by
  induction text with
  | last mark => rfl
  | next mark byte more inductionHypothesis =>
      rw [clear, Marked.bytes, inductionHypothesis, Marked.bytes]

/-- A cleared text has no marks left, so nothing matches any more. -/
theorem not_marksBefore_clear (text : Marked) (rest : List UInt8) :
    ¬ text.clear.MarksBefore rest := by
  induction text with
  | last mark => simp [clear, MarksBefore]
  | next mark byte more inductionHypothesis => simpa [clear, MarksBefore] using inductionHypothesis

@[simp] theorem bytes_stepFrom (arrives : Bool) (accepts : UInt8 → Bool) (text : Marked) :
    (text.stepFrom arrives accepts).bytes = text.bytes := by
  induction text generalizing arrives with
  | last mark => rfl
  | next mark byte more inductionHypothesis => simp [stepFrom, Marked.bytes, inductionHypothesis]

/-- A step moves marks over a text and leaves the text as it is. -/
@[simp] theorem bytes_step (accepts : UInt8 → Bool) (text : Marked) :
    (text.step accepts).bytes = text.bytes :=
  bytes_stepFrom false accepts text

/-- The mark that arrives from the left is put on the first place; all other marks have moved
over one accepted byte. -/
theorem marksBefore_stepFrom_iff
    {arrives : Bool}
    {accepts : UInt8 → Bool}
    {text : Marked}
    {rest : List UInt8} :
    (text.stepFrom arrives accepts).MarksBefore rest ↔
      arrives = true ∧ rest = text.bytes ∨
        ∃ byte, accepts byte = true ∧ text.MarksBefore (byte :: rest) := by
  induction text generalizing arrives with
  | last mark => simp [stepFrom, MarksBefore, Marked.bytes]
  | next mark byte more inductionHypothesis =>
      simp only [stepFrom, MarksBefore, bytes_stepFrom, inductionHypothesis, Marked.bytes,
        Bool.and_eq_true, List.cons.injEq]
      grind

/-- A step moves every mark over one accepted byte. -/
theorem marksBefore_step_iff
    {accepts : UInt8 → Bool}
    {text : Marked}
    {rest : List UInt8} :
    (text.step accepts).MarksBefore rest ↔
      ∃ byte, accepts byte = true ∧ text.MarksBefore (byte :: rest) := by
  rw [step, marksBefore_stepFrom_iff]
  simp

@[simp] theorem bytes_spreadFrom (arrives : Bool) (accepts : UInt8 → Bool) (text : Marked) :
    (text.spreadFrom arrives accepts).bytes = text.bytes := by
  induction text generalizing arrives with
  | last mark => rfl
  | next mark byte more inductionHypothesis => simp [spreadFrom, Marked.bytes, inductionHypothesis]

/-- Marks spread over a text and leave the text as it is. -/
@[simp] theorem bytes_spread (accepts : UInt8 → Bool) (text : Marked) :
    (text.spread accepts).bytes = text.bytes :=
  bytes_spreadFrom false accepts text

/-- The mark that arrives from the left spreads over accepted bytes just as the marks of the
text do. -/
theorem marksBefore_spreadFrom_iff
    {arrives : Bool}
    {accepts : UInt8 → Bool}
    {text : Marked}
    {rest : List UInt8} :
    (text.spreadFrom arrives accepts).MarksBefore rest ↔
      ∃ run, (∀ byte ∈ run, accepts byte = true) ∧
        (arrives = true ∧ run ++ rest = text.bytes ∨ text.MarksBefore (run ++ rest)) := by
  induction text generalizing arrives with
  | last mark =>
      simp only [spreadFrom, MarksBefore, Marked.bytes, Bool.or_eq_true, List.append_eq_nil_iff]
      constructor
      · rintro ⟨marked, rfl⟩
        exact ⟨[], by simp, by simpa [or_comm] using marked⟩
      · rintro ⟨run, _, ⟨arrived, rfl, rfl⟩ | ⟨marked, rfl, rfl⟩⟩
        · exact ⟨Or.inr arrived, rfl⟩
        · exact ⟨Or.inl marked, rfl⟩
  | next mark byte more inductionHypothesis =>
      simp only [spreadFrom, MarksBefore, bytes_spreadFrom, inductionHypothesis, Marked.bytes,
        Bool.and_eq_true, Bool.or_eq_true]
      constructor
      · rintro (⟨marked, rfl⟩ | ⟨run, accepted, ⟨⟨marked, first⟩, split⟩ | further⟩)
        · exact ⟨[], by simp, by rw [List.nil_append]; tauto⟩
        · refine ⟨byte :: run, List.forall_mem_cons.mpr ⟨first, accepted⟩, ?_⟩
          rcases marked with marked | arrived
          · exact Or.inr (Or.inl ⟨marked, by simp [split]⟩)
          · exact Or.inl ⟨arrived, by simp [split]⟩
        · exact ⟨run, accepted, Or.inr (Or.inr further)⟩
      · rintro ⟨run, accepted, told⟩
        have told : (mark = true ∨ arrives = true) ∧ run ++ rest = byte :: more.bytes ∨
            more.MarksBefore (run ++ rest) := by tauto
        rcases told with ⟨marked, split⟩ | further
        · cases run with
          | nil => exact Or.inl ⟨marked, split⟩
          | cons first others =>
              obtain ⟨rfl, remaining⟩ := List.cons.inj split
              rw [List.forall_mem_cons] at accepted
              exact Or.inr ⟨others, accepted.2, Or.inl ⟨⟨marked, accepted.1⟩, remaining⟩⟩
        · exact Or.inr ⟨run, accepted, Or.inr further⟩

/-- A mark spreads over every run of accepted bytes, the empty one included. -/
theorem marksBefore_spread_iff
    {accepts : UInt8 → Bool}
    {text : Marked}
    {rest : List UInt8} :
    (text.spread accepts).MarksBefore rest ↔
      ∃ run, (∀ byte ∈ run, accepts byte = true) ∧ text.MarksBefore (run ++ rest) := by
  rw [spread, marksBefore_spreadFrom_iff]
  simp

@[simp] theorem bytes_afterSlashFrom (follows : Bool) (text : Marked) :
    (text.afterSlashFrom follows).bytes = text.bytes := by
  induction text generalizing follows with
  | last mark => rfl
  | next mark byte more inductionHypothesis =>
      simp [afterSlashFrom, Marked.bytes, inductionHypothesis]

@[simp] theorem bytes_afterSlash (text : Marked) : text.afterSlash.bytes = text.bytes :=
  bytes_afterSlashFrom false text

/-- Whether a slash comes before the first place is told by the flag, and for all other places
by the text. -/
theorem marksBefore_afterSlashFrom_iff
    {follows : Bool}
    {text : Marked}
    {rest : List UInt8} :
    (text.afterSlashFrom follows).MarksBefore rest ↔
      text.MarksBefore rest ∧
        (follows = true ∧ rest = text.bytes ∨ slash :: rest <:+ text.bytes) := by
  induction text generalizing follows with
  | last mark => simp [afterSlashFrom, MarksBefore, Marked.bytes]; tauto
  | next mark byte more inductionHypothesis =>
      have longer : ¬ slash :: byte :: more.bytes <:+ more.bytes := by
        intro isSuffix
        have shorter := isSuffix.length_le
        simp only [List.length_cons] at shorter
        omega
      have further : more.MarksBefore rest → rest ≠ byte :: more.bytes := by
        rintro marks rfl
        have shorter := marks.isSuffix.length_le
        simp only [List.length_cons] at shorter
        omega
      simp only [afterSlashFrom, MarksBefore, bytes_afterSlashFrom, inductionHypothesis,
        Marked.bytes, Bool.and_eq_true, List.suffix_cons_iff, List.cons.injEq, isSlash, beq_iff_eq]
      grind

/-- Of the marks those are kept that have a slash right before them. -/
theorem marksBefore_afterSlash_iff
    {text : Marked}
    {rest : List UInt8} :
    text.afterSlash.MarksBefore rest ↔
      text.MarksBefore rest ∧ slash :: rest <:+ text.bytes := by
  rw [afterSlash, marksBefore_afterSlashFrom_iff]
  simp

@[simp] theorem bytes_union {left right : Marked} (same : left.bytes = right.bytes) :
    (left.union right).bytes = left.bytes := by
  induction left generalizing right with
  | last mark => cases right <;> rfl
  | next mark byte more inductionHypothesis =>
      cases right with
      | last other => rfl
      | next other next rest =>
          rw [union, Marked.bytes, inductionHypothesis (List.cons.inj same).2, Marked.bytes]

/-- The union of two markings of one text marks what one of them marks. -/
theorem marksBefore_union_iff
    {left right : Marked}
    {rest : List UInt8}
    (same : left.bytes = right.bytes) :
    (left.union right).MarksBefore rest ↔ left.MarksBefore rest ∨ right.MarksBefore rest := by
  induction left generalizing right with
  | last mark =>
      cases right with
      | last other => simp [union, MarksBefore, or_and_right]
      | next other next more => cases same
  | next mark byte more inductionHypothesis =>
      cases right with
      | last other => cases same
      | next other next others =>
          obtain ⟨rfl, sameRest⟩ := List.cons.inj same
          simp only [union, MarksBefore, bytes_union sameRest, inductionHypothesis sameRest,
            Bool.or_eq_true, sameRest]
          tauto

end Marked

/-! ## Moves -/

@[simp] theorem bytes_moveOver (ignoreCase : Bool) (wanted : List UInt8) (text : Marked) :
    (moveOver ignoreCase wanted text).bytes = text.bytes := by
  induction wanted generalizing text with
  | nil => rfl
  | cons byte rest inductionHypothesis =>
      rw [moveOver, inductionHypothesis, Marked.bytes_step]

/-- A literal moves a mark past the runs that equal its bytes, up to case if it is ignored. -/
theorem marksBefore_moveOver_iff
    {ignoreCase : Bool}
    {wanted rest : List UInt8}
    {text : Marked} :
    (moveOver ignoreCase wanted text).MarksBefore rest ↔
      ∃ run, List.Forall₂ (fun byte found => sameByte ignoreCase byte found = true) wanted run ∧
        text.MarksBefore (run ++ rest) := by
  induction wanted generalizing text with
  | nil => simp [moveOver]
  | cons byte more inductionHypothesis =>
      simp only [moveOver, inductionHypothesis, Marked.marksBefore_step_iff]
      constructor
      · rintro ⟨run, spelled, found, same, marks⟩
        exact ⟨found :: run, .cons same spelled, marks⟩
      · rintro ⟨run, ⟨⟩ | ⟨same, spelled⟩, marks⟩
        exact ⟨_, spelled, _, same, marks⟩

mutual

/-- Tokens move marks over a text and leave the text as it is, so that the markings of several
branches can be united. -/
@[simp] theorem Token.bytes_move (ignoreCase : Bool) (token : Token) (text : Marked) :
    (token.move ignoreCase text).bytes = text.bytes := by
  match token with
  | .literal character => rw [Token.move, bytes_moveOver]
  | .anyByte | .anyRun | .trailingFolders | .innerFolders | .oneOf _ => simp [Token.move]
  | .leadingFolders => rw [Token.move, Marked.bytes_union (by simp)]
  | .alternatives branches =>
      rw [Token.move]
      split_ifs
      · rfl
      · exact bytes_moveAny ignoreCase branches text

@[simp] theorem bytes_moveAll (ignoreCase : Bool) (tokens : List Token) (text : Marked) :
    (moveAll ignoreCase tokens text).bytes = text.bytes := by
  match tokens with
  | [] => rw [moveAll]
  | token :: rest =>
      rw [moveAll, bytes_moveAll ignoreCase rest, Token.bytes_move ignoreCase token]

@[simp] theorem bytes_moveAny
    (ignoreCase : Bool)
    (branches : List (List Token))
    (text : Marked) :
    (moveAny ignoreCase branches text).bytes = text.bytes := by
  match branches with
  | [] => rw [moveAny, Marked.bytes_clear]
  | branch :: rest =>
      have first : (if isVacuous branch then text.clear
          else moveAll ignoreCase branch text).bytes = text.bytes := by
        split_ifs
        · exact Marked.bytes_clear text
        · exact bytes_moveAll ignoreCase branch text
      rw [moveAny, Marked.bytes_union (first.trans (bytes_moveAny ignoreCase rest text).symm),
        first]

end

/-- A slash stands right before what a run leads up to exactly if the run ends in one. -/
theorem slash_cons_isSuffix_iff
    {run rest bytes : List UInt8}
    (nonempty : run ≠ [])
    (isSuffix : run ++ rest <:+ bytes) :
    slash :: rest <:+ bytes ↔ run.getLast? = some slash := by
  obtain ⟨front, byte, rfl⟩ := (List.eq_nil_or_concat run).resolve_left nonempty
  rw [List.concat_eq_append, List.append_assoc, List.singleton_append] at isSuffix
  have here : byte :: rest <:+ bytes := (List.suffix_append _ _).trans isSuffix
  rw [List.concat_eq_append, List.getLast?_concat, Option.some.injEq]
  constructor
  · intro follows
    have same := (List.suffix_of_suffix_length_le here follows (Nat.le_refl _)).eq_of_length rfl
    exact (List.cons.inj same).1
  · rintro rfl
    exact here

/-- What crosses folders leaves a mark anywhere from where it was onwards. -/
theorem marksBefore_spread_anything_iff
    {text : Marked}
    {rest : List UInt8} :
    (text.spread anything).MarksBefore rest ↔ ∃ run, text.MarksBefore (run ++ rest) := by
  simp [Marked.marksBefore_spread_iff, anything]

theorem marksBefore_step_isSlash_iff
    {text : Marked}
    {rest : List UInt8} :
    (text.step isSlash).MarksBefore rest ↔ text.MarksBefore (slash :: rest) := by
  simp [Marked.marksBefore_step_iff, isSlash]

/-- Vacuous branches spell nothing, not even the empty sequence. -/
theorem not_spellsAny_of_allVacuous
    {ignoreCase : Bool}
    {branches : List (List Token)}
    {bytes : List UInt8}
    (vacuous : allVacuous branches = true) :
    ¬ SpellsAny ignoreCase branches bytes := by
  induction branches with
  | nil => exact id
  | cons branch rest inductionHypothesis =>
      rw [allVacuous, Bool.and_eq_true] at vacuous
      rintro (⟨written, _⟩ | further)
      · rw [vacuous.1] at written
        cases written
      · exact inductionHypothesis vacuous.2 further

mutual

/-- A token moves a mark past exactly the sequences that it stands for. -/
theorem Token.marksBefore_move_iff
    {ignoreCase : Bool}
    {text : Marked}
    {rest : List UInt8}
    (token : Token) :
    (token.move ignoreCase text).MarksBefore rest ↔
      ∃ run, token.Spells ignoreCase run ∧ text.MarksBefore (run ++ rest) := by
  match token with
  | .literal character =>
      rw [Token.move, marksBefore_moveOver_iff]
      rfl
  | .anyByte =>
      rw [Token.move, Marked.marksBefore_step_iff]
      constructor
      · rintro ⟨byte, accepted, marks⟩
        exact ⟨[byte], ⟨byte, rfl, by simpa [isPlain] using accepted⟩, marks⟩
      · rintro ⟨run, ⟨byte, rfl, different⟩, marks⟩
        exact ⟨byte, by simpa [isPlain] using different, marks⟩
  | .anyRun =>
      rw [Token.move, Marked.marksBefore_spread_iff]
      refine exists_congr fun run => and_congr_left fun _ => ?_
      simp only [isPlain, bne_iff_ne, Token.Spells]
      exact ⟨fun plain found => plain slash found rfl, fun absent byte found same =>
        absent (same ▸ found)⟩
  | .leadingFolders =>
      rw [Token.move, Marked.marksBefore_union_iff (by simp), Marked.marksBefore_afterSlash_iff,
        marksBefore_spread_anything_iff, Marked.bytes_spread]
      constructor
      · rintro (marks | ⟨⟨run, marks⟩, follows⟩)
        · exact ⟨[], Or.inl rfl, marks⟩
        · by_cases empty : run = []
          · exact ⟨run, Or.inl empty, marks⟩
          · exact ⟨run, Or.inr ((slash_cons_isSuffix_iff empty marks.isSuffix).mp follows), marks⟩
      · rintro ⟨run, rfl | ends, marks⟩
        · exact Or.inl marks
        · have nonempty : run ≠ [] := by
            rintro rfl
            cases ends
          exact Or.inr ⟨⟨run, marks⟩,
            (slash_cons_isSuffix_iff nonempty marks.isSuffix).mpr ends⟩
  | .trailingFolders =>
      rw [Token.move, marksBefore_spread_anything_iff]
      simp only [marksBefore_step_isSlash_iff, Token.Spells, List.head?_eq_some_iff]
      constructor
      · rintro ⟨run, marks⟩
        exact ⟨slash :: run, ⟨run, rfl⟩, marks⟩
      · rintro ⟨_, ⟨run, rfl⟩, marks⟩
        exact ⟨run, marks⟩
  | .innerFolders =>
      rw [Token.move, Marked.marksBefore_afterSlash_iff, marksBefore_spread_anything_iff,
        Marked.bytes_spread, Marked.bytes_step]
      simp only [marksBefore_step_isSlash_iff, Token.Spells, List.head?_eq_some_iff]
      constructor
      · rintro ⟨⟨run, marks⟩, follows⟩
        exact ⟨slash :: run, ⟨⟨run, rfl⟩,
          (slash_cons_isSuffix_iff (List.cons_ne_nil _ _) marks.isSuffix).mp follows⟩, marks⟩
      · rintro ⟨_, ⟨⟨run, rfl⟩, ends⟩, marks⟩
        exact ⟨⟨run, marks⟩,
          (slash_cons_isSuffix_iff (List.cons_ne_nil _ _) marks.isSuffix).mpr ends⟩
  | .oneOf members =>
      rw [Token.move, Marked.marksBefore_step_iff]
      constructor
      · rintro ⟨byte, accepted, marks⟩
        exact ⟨[byte], ⟨byte, rfl, accepted⟩, marks⟩
      · rintro ⟨run, ⟨byte, rfl, accepted⟩, marks⟩
        exact ⟨byte, accepted, marks⟩
  | .alternatives branches =>
      rw [Token.move]
      by_cases vacuous : allVacuous branches = true
      · rw [if_pos vacuous]
        constructor
        · intro marks
          exact ⟨[], Or.inl ⟨vacuous, rfl⟩, marks⟩
        · rintro ⟨run, ⟨_, rfl⟩ | spelled, marks⟩
          · exact marks
          · exact absurd spelled (not_spellsAny_of_allVacuous vacuous)
      · rw [if_neg vacuous, marksBefore_moveAny_iff branches]
        simp [Token.Spells, vacuous]

/-- A sequence of tokens moves a mark past exactly what the tokens spell in a row. -/
theorem marksBefore_moveAll_iff
    {ignoreCase : Bool}
    {text : Marked}
    {rest : List UInt8}
    (tokens : List Token) :
    (moveAll ignoreCase tokens text).MarksBefore rest ↔
      ∃ run, SpellsAll ignoreCase tokens run ∧ text.MarksBefore (run ++ rest) := by
  match tokens with
  | [] => simp [moveAll, SpellsAll]
  | token :: more =>
      rw [moveAll, marksBefore_moveAll_iff more]
      constructor
      · rintro ⟨others, spelled, marks⟩
        obtain ⟨first, begins, marks⟩ := (Token.marksBefore_move_iff token).mp marks
        exact ⟨first ++ others, ⟨first, others, rfl, begins, spelled⟩, by simpa using marks⟩
      · rintro ⟨_, ⟨first, others, rfl, begins, spelled⟩, marks⟩
        exact ⟨others, spelled,
          (Token.marksBefore_move_iff token).mpr ⟨first, begins, by simpa using marks⟩⟩

/-- Alternatives move a mark past exactly what one of the branches spells that is not vacuous. -/
theorem marksBefore_moveAny_iff
    {ignoreCase : Bool}
    {text : Marked}
    {rest : List UInt8}
    (branches : List (List Token)) :
    (moveAny ignoreCase branches text).MarksBefore rest ↔
      ∃ run, SpellsAny ignoreCase branches run ∧ text.MarksBefore (run ++ rest) := by
  match branches with
  | [] => simp [moveAny, SpellsAny, Marked.not_marksBefore_clear]
  | branch :: more =>
      cases vacuous : isVacuous branch with
      | true =>
          rw [moveAny, if_pos vacuous, Marked.marksBefore_union_iff (by simp),
            marksBefore_moveAny_iff more]
          simp [SpellsAny, vacuous, Marked.not_marksBefore_clear]
      | false =>
          rw [moveAny, if_neg (by simp [vacuous]), Marked.marksBefore_union_iff (by simp),
            marksBefore_moveAny_iff more, marksBefore_moveAll_iff branch]
          simp only [SpellsAny, vacuous, true_and, or_and_right, exists_or]

end

/-- A glob matches exactly what its tokens spell; folders alone match everything. -/
theorem matchesBytes_iff
    {glob : Glob}
    {bytes : List UInt8} :
    glob.matchesBytes bytes = true ↔
      glob.tokens = [.leadingFolders] ∨ SpellsAll glob.ignoreCase glob.tokens bytes := by
  rw [matchesBytes]
  split
  · simp [*]
  · rename_i notFolders
    rw [or_iff_right notFolders, Marked.endMark_iff, marksBefore_moveAll_iff]
    simp [Marked.marksBefore_ofBytes_iff]

/-- A text is matched by its bytes, so what stands for one byte need not match one character. -/
theorem matchesText_iff_spellsAll
    {glob : Glob}
    (other : glob.tokens ≠ [.leadingFolders])
    (text : String) :
    glob.matchesText text = true ↔
      SpellsAll glob.ignoreCase glob.tokens (Text.bytes text.toList) := by
  rw [matchesText, matchesBytes_iff, or_iff_right other]

/-- A pattern of leading folders alone matches every text, also one that ends in no slash. -/
theorem matchesText_of_leadingFolders
    {glob : Glob}
    (bare : glob.tokens = [.leadingFolders])
    (text : String) :
    glob.matchesText text = true := by
  rw [matchesText, matchesBytes_iff]
  exact Or.inl bare

/-- A compiled glob keeps the pattern that it was read from. -/
theorem compile_eq_ok_iff
    {ignoreCase : Bool}
    {pattern : String}
    {glob : Glob} :
    compile ignoreCase pattern = .ok glob ↔
      ∃ tokens, readTokens pattern.toList = .ok tokens ∧ glob = ⟨pattern, tokens, ignoreCase⟩ := by
  rw [compile]
  cases readTokens pattern.toList with
  | error fault => simp [Bind.bind, Except.bind]
  | ok tokens => simp [Bind.bind, Except.bind, Pure.pure, Except.pure, eq_comm]

end Glob
end HouseStyle
