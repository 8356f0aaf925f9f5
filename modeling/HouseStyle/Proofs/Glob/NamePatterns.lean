import HouseStyle.Proofs.Glob.Signs

/-!
# Patterns without a slash

Two facts about patterns without a slash follow by induction over their signs.
Read after `**/`, such a pattern gives its own tokens after one token for
leading folders, which waits at the bottom of the outermost branch and is never
looked at; the one exception is `**`.  And the tokens of such a pattern are all
of the kinds that its signs can add.
-/

namespace HouseStyle
namespace Glob
namespace Draft

/-! ## A token at the bottom -/

/-- Puts a token for leading folders at the bottom of the outermost of several branches. -/
def underOuter :
    List (List Token × List (List Token)) → List (List Token × List (List Token))
  | [] => []
  | [(current, finished)] => [(current ++ [.leadingFolders], finished)]
  | branch :: next :: rest => branch :: underOuter (next :: rest)

/-- Puts a token for leading folders at the bottom of the outermost branch. -/
def under (draft : Draft) : Draft where
  current := if draft.isInsideGroup then draft.current else draft.current ++ [.leadingFolders]
  finished := draft.finished
  outer := underOuter draft.outer

/-- Something has been read: the outermost branch is not empty, or a group is open. -/
def IsBegun (draft : Draft) : Prop :=
  draft.isInsideGroup = false → draft.current ≠ []

variable
  {draft further : Draft}
  {previous next : Option Char}
  {sign : Sign}

theorem underOuter_eq_nil_iff {outer : List (List Token × List (List Token))} :
    underOuter outer = [] ↔ outer = [] := by
  fun_cases underOuter outer <;> simp

@[simp] theorem isInsideGroup_under (draft : Draft) :
    draft.under.isInsideGroup = draft.isInsideGroup := by
  rw [Bool.eq_iff_iff]
  simp [isInsideGroup, under, underOuter_eq_nil_iff]

/-- Inside a group the token at the bottom is not in the branch that is being read. -/
theorem current_under (inside : draft.isInsideGroup = true) :
    draft.under.current = draft.current := by
  rw [under, if_pos inside]

/-- Once something has been read, the token at the bottom does not change whether a branch is
empty. -/
theorem isEmpty_current_under (begun : draft.IsBegun) :
    draft.under.current.isEmpty = draft.current.isEmpty := by
  cases inside : draft.isInsideGroup with
  | true => rw [current_under inside]
  | false => simp [under, inside, List.isEmpty_eq_false_iff.mpr (begun inside)]

/-- A token is pushed on top, and so does not meet the one at the bottom. -/
theorem under_push (draft : Draft) (token : Token) :
    (draft.push token).under = draft.under.push token := by
  obtain ⟨current, finished, outer⟩ := draft
  cases outer <;> rfl

theorem under_pushRuns (draft : Draft) : draft.pushRuns.under = draft.under.pushRuns := by
  rw [pushRuns, under_push, under_push, pushRuns]

theorem under_openGroup (draft : Draft) : draft.openGroup.under = draft.under.openGroup := by
  obtain ⟨current, finished, outer⟩ := draft
  cases outer <;> rfl

theorem under_comma (draft : Draft) : draft.comma.under = draft.under.comma := by
  obtain ⟨current, finished, outer⟩ := draft
  rcases outer with _ | ⟨branch, _ | ⟨next, rest⟩⟩ <;> rfl

/-- A group is closed, or fails to be, in the same way above the token at the bottom. -/
theorem closeGroup_under (draft : Draft) :
    draft.under.closeGroup = draft.closeGroup.map under := by
  obtain ⟨current, finished, outer⟩ := draft
  rcases outer with _ | ⟨branch, _ | ⟨next, rest⟩⟩ <;> rfl

theorem under_spanFolders (inside : draft.isInsideGroup = true) (token : Token) :
    (draft.spanFolders token).under = draft.under.spanFolders token := by
  obtain ⟨current, finished, outer⟩ := draft
  cases outer with
  | nil => cases inside
  | cons branch rest =>
      cases current with
      | nil => rfl
      | cons latest before => cases latest <;> rfl

/-- In the end the token at the bottom comes first. -/
theorem finish_under (draft : Draft) :
    draft.under.finish = draft.finish.map (.leadingFolders :: ·) := by
  rw [finish, finish, isInsideGroup_under]
  cases inside : draft.isInsideGroup <;> simp [under, inside, Except.map]

/-- Without a slash only a group can put a pattern at the border of a folder. -/
theorem isInsideGroup_of_atFolderBorder
    (noSlash : previous ≠ some '/')
    (border : atFolderBorder draft previous = true) :
    draft.isInsideGroup = true := by
  simp_all [atFolderBorder]

theorem endsBranch_under (draft : Draft) : endsBranch draft.under = endsBranch draft := by
  funext character
  rw [endsBranch, endsBranch, isInsideGroup_under]

theorem atFolderBorder_under (draft : Draft) (previous : Option Char) :
    atFolderBorder draft.under previous = atFolderBorder draft previous := by
  rw [atFolderBorder, atFolderBorder, isInsideGroup_under]

/-- A double star is read in the same way above the token at the bottom. -/
theorem under_doubleStar
    (begun : draft.IsBegun)
    (noSlash : previous ≠ some '/') :
    (draft.doubleStar previous next).under = draft.under.doubleStar previous next := by
  rw [doubleStar, doubleStar, isEmpty_current_under begun, atFolderBorder_under, endsBranch_under]
  by_cases isEmpty : draft.current.isEmpty = true
  · rw [if_pos isEmpty, if_pos isEmpty, apply_ite under, under_push, under_pushRuns]
  · rw [if_neg isEmpty, if_neg isEmpty]
    by_cases spans : (atFolderBorder draft previous && next.all (endsBranch draft)) = true
    · have border := (Bool.and_eq_true_iff.mp spans).1
      rw [if_pos spans, if_pos spans,
        under_spanFolders (isInsideGroup_of_atFolderBorder noSlash border)]
    · rw [if_neg spans, if_neg spans, under_pushRuns]

/-- A sign is taken in the same way above the token at the bottom. -/
theorem take_under
    (begun : draft.IsBegun)
    (noSlash : previous ≠ some '/') :
    draft.under.take previous next sign = (draft.take previous next sign).map under := by
  cases sign with
  | token token last => exact congrArg Except.ok (under_push draft token).symm
  | doubleStar => exact congrArg Except.ok (under_doubleStar begun noSlash).symm
  | opens => exact congrArg Except.ok (under_openGroup draft).symm
  | closes => exact closeGroup_under draft
  | comma => exact congrArg Except.ok (under_comma draft).symm

/-- A first sign is taken in the same way above the token at the bottom, as if after a slash,
unless it is a double star and all there is. -/
theorem take_under_empty (notAlone : sign = .doubleStar → next ≠ none) :
    empty.under.take (some '/') next sign = (empty.take previous next sign).map under := by
  cases sign with
  | token token last => rfl
  | doubleStar =>
      cases next with
      | none => exact absurd rfl (notAlone rfl)
      | some character => rfl
  | opens => rfl
  | closes => rfl
  | comma => rfl

theorem isBegun_push (draft : Draft) (token : Token) : (draft.push token).IsBegun :=
  fun _ => List.cons_ne_nil _ _

theorem isBegun_spanFolders
    {token : Token}
    (begun : draft.IsBegun) :
    (draft.spanFolders token).IsBegun := by
  rw [spanFolders]
  split
  · exact begun
  · exact begun
  · exact fun _ => List.cons_ne_nil _ _
  · exact begun

theorem isBegun_doubleStar (draft : Draft) (previous next : Option Char) :
    (draft.doubleStar previous next).IsBegun := by
  rw [doubleStar]
  split
  · split
    · exact isBegun_push _ _
    · exact isBegun_push _ _
  · rename_i nonempty
    split
    · exact isBegun_spanFolders fun _ empty => nonempty (List.isEmpty_iff.mpr empty)
    · exact isBegun_push _ _

theorem isBegun_closeGroup (closes : draft.closeGroup = .ok further) : further.IsBegun := by
  rw [closeGroup] at closes
  split at closes
  · cases closes
  · cases closes
    exact fun _ => List.cons_ne_nil _ _

theorem isBegun_comma (draft : Draft) : draft.comma.IsBegun := by
  rw [comma]
  split
  · rename_i inside
    intro outside
    exact absurd (inside.symm.trans outside) (by decide)
  · exact isBegun_push _ _

/-- After any sign, something has been read. -/
theorem isBegun_take (taken : draft.take previous next sign = .ok further) : further.IsBegun := by
  cases sign with
  | token token last =>
      cases taken
      exact isBegun_push draft token
  | doubleStar =>
      cases taken
      exact isBegun_doubleStar draft previous next
  | opens =>
      cases taken
      exact fun outside => nomatch outside
  | closes => exact isBegun_closeGroup taken
  | comma =>
      cases taken
      exact isBegun_comma draft

end Draft

/-- No sign of a text without slashes ends in one. -/
theorem Sign.OccursIn.last_ne_slash
    {text : List Char}
    {sign : Sign}
    (occurs : sign.OccursIn text) :
    some sign.last ≠ some '/' := by
  cases occurs with
  | literal character noSlash escaped => exact fun same => noSlash (Option.some.inj same)
  | _ => simp [Sign.last]

/-- One step of the induction: if the first sign and all that follows are read in the same way
above the token at the bottom, then so is the text. -/
theorem Yields.readFrom_under
    {text rest : List Char}
    {sign : Sign}
    {draft : Draft}
    {previous above : Option Char}
    (yields : Yields text sign rest)
    (taken : draft.under.take above rest.head? sign =
      (draft.take previous rest.head? sign).map Draft.under)
    (later : ∀ further : Draft, further.IsBegun →
      readFrom further.under (some sign.last) rest =
        (readFrom further (some sign.last) rest).map Draft.under) :
    readFrom draft.under above text = (readFrom draft previous text).map Draft.under := by
  rw [yields.readFrom_eq, yields.readFrom_eq, taken]
  cases result : draft.take previous rest.head? sign with
  | error fault => rfl
  | ok further => exact later further (Draft.isBegun_take result)

/-- Reading leaves the token at the bottom alone. -/
theorem readFrom_under
    {draft : Draft}
    {previous : Option Char}
    {text : List Char}
    (begun : draft.IsBegun)
    (plain : previous ≠ some '/')
    (noSlash : '/' ∉ text) :
    readFrom draft.under previous text = (readFrom draft previous text).map Draft.under := by
  induction text using induction_on_signs generalizing draft previous with
  | slash text found => exact absurd found noSlash
  | nil =>
      rw [readFrom_nil, readFrom_nil]
      rfl
  | refused text fault refuses =>
      rw [refuses, refuses]
      rfl
  | sign text sign rest yields inductionHypothesis =>
      apply yields.readFrom_under (Draft.take_under begun plain)
      intro further begun
      exact inductionHypothesis begun yields.occursIn.last_ne_slash (yields.slash_notMem noSlash)

/-- Read after `**/`, a pattern gives its tokens after one for leading folders. -/
theorem readTokens_anchored
    {pattern : List Char}
    (written : pattern ≠ [])
    (notAlone : pattern ≠ ['*', '*'])
    (noSlash : '/' ∉ pattern) :
    readTokens ('*' :: '*' :: '/' :: pattern) =
      (readTokens pattern).map (.leadingFolders :: ·) := by
  have start : readFrom .empty none ('*' :: '*' :: '/' :: pattern) =
      readFrom Draft.empty.under (some '/') pattern :=
    rfl
  have same : readFrom Draft.empty.under (some '/') pattern =
      (readFrom .empty none pattern).map Draft.under := by
    rcases exists_yields written noSlash with ⟨fault, refuses⟩ | ⟨sign, rest, yields⟩
    · rw [refuses, refuses]
      rfl
    · apply yields.readFrom_under
      · apply Draft.take_under_empty
        intro double ended
        rw [List.head?_eq_none_iff] at ended
        exact notAlone (ended ▸ yields.doubled double)
      · intro further begun
        exact readFrom_under begun yields.occursIn.last_ne_slash (yields.slash_notMem noSlash)
  rw [readTokens, readTokens, start, same]
  cases readFrom .empty none pattern with
  | error fault => rfl
  | ok draft => exact draft.finish_under

/-! ## Kinds of tokens -/

/-- All tokens of several branches are of a kind. -/
def AllOf (kind : Token → Prop) (branches : List (List Token)) : Prop :=
  ∀ branch ∈ branches, ∀ token ∈ branch, kind token

theorem allOf_cons_iff
    {kind : Token → Prop}
    {branch : List Token}
    {rest : List (List Token)} :
    AllOf kind (branch :: rest) ↔ (∀ token ∈ branch, kind token) ∧ AllOf kind rest :=
  List.forall_mem_cons

theorem allOf_append_iff
    {kind : Token → Prop}
    {left right : List (List Token)} :
    AllOf kind (left ++ right) ↔ AllOf kind left ∧ AllOf kind right :=
  List.forall_mem_append

theorem allOf_reverse_iff
    {kind : Token → Prop}
    {branches : List (List Token)} :
    AllOf kind branches.reverse ↔ AllOf kind branches := by
  simp only [AllOf, List.mem_reverse]

/-- Whatever the signs of a text can add is of a kind: classes count if the text holds a bracket,
and trailing folders if it holds a backslash, which can hide that a branch has begun. -/
structure Admits (kind : Token → Prop) (text : List Char) : Prop where
  anyByte : kind .anyByte
  anyRun : kind .anyRun
  literal : ∀ character, character ≠ '/' → kind (.literal character)
  oneOf : '[' ∈ text → ∀ members, kind (.oneOf members)
  trailingFolders : '\\' ∈ text → kind .trailingFolders
  alternatives : ∀ branches, AllOf kind branches → kind (.alternatives branches)

/-- What the signs of a text can add, those of its ends can add at most. -/
theorem Admits.of_isSuffix
    {kind : Token → Prop}
    {text rest : List Char}
    (admits : Admits kind text)
    (within : rest <:+ text) :
    Admits kind rest where
  anyByte := admits.anyByte
  anyRun := admits.anyRun
  literal := admits.literal
  oneOf := fun bracket => admits.oneOf (within.subset bracket)
  trailingFolders := fun escape => admits.trailingFolders (within.subset escape)
  alternatives := admits.alternatives

namespace Draft

/-- All branches of a draft. -/
def branches (draft : Draft) : List (List Token) :=
  draft.current :: (draft.finished ++ draft.outer.flatMap fun around => around.1 :: around.2)

/-- A draft is made of tokens of a kind, and so is what a double star puts in the place of the
latest token. -/
structure IsMadeOf (kind : Token → Prop) (draft : Draft) (previous : Option Char) : Prop where
  branches : AllOf kind draft.branches
  border : atFolderBorder draft previous = true →
    draft.current = [] ∨ kind .trailingFolders

variable
  {kind : Token → Prop}
  {text : List Char}
  {token : Token}
  {draft further : Draft}
  {previous next : Option Char}
  {sign : Sign}

theorem allOf_push
    (made : AllOf kind draft.branches)
    (isKind : kind token) :
    AllOf kind (draft.push token).branches := by
  rw [branches, allOf_cons_iff] at made ⊢
  exact ⟨List.forall_mem_cons.mpr ⟨isKind, made.1⟩, made.2⟩

theorem allOf_pushRuns
    (made : AllOf kind draft.branches)
    (isKind : kind .anyRun) :
    AllOf kind draft.pushRuns.branches :=
  allOf_push (allOf_push made isKind) isKind

theorem allOf_spanFolders
    (made : AllOf kind draft.branches)
    (isKind : kind token) :
    AllOf kind (draft.spanFolders token).branches := by
  rw [spanFolders]
  split
  · exact made
  · exact made
  · rename_i latest before _ _ current
    rw [branches, allOf_cons_iff, current, List.forall_mem_cons] at made
    rw [branches, allOf_cons_iff, List.forall_mem_cons]
    exact ⟨⟨isKind, made.1.2⟩, made.2⟩
  · exact made

theorem allOf_openGroup (made : AllOf kind draft.branches) :
    AllOf kind draft.openGroup.branches := by
  simpa [branches, openGroup, allOf_cons_iff, allOf_append_iff, and_left_comm] using made

theorem allOf_comma
    (made : AllOf kind draft.branches)
    (isKind : kind (.literal ',')) :
    AllOf kind draft.comma.branches := by
  rw [comma]
  split
  · simpa [branches, allOf_cons_iff] using made
  · exact allOf_push made isKind

/-- Closing a group turns its branches into one token, which is of the kind if they are. -/
theorem allOf_closeGroup
    (alternatives : ∀ branches, AllOf kind branches → kind (.alternatives branches))
    (made : AllOf kind draft.branches)
    (closes : draft.closeGroup = .ok further) :
    AllOf kind further.branches := by
  rw [closeGroup] at closes
  split at closes
  · cases closes
  · rename_i current finished outer opened
    cases closes
    rw [branches, opened, allOf_cons_iff, List.flatMap_cons, allOf_append_iff,
      List.cons_append, allOf_cons_iff] at made
    obtain ⟨ofCurrent, ofFinished, ofOuter, ofRest⟩ := made
    have group : kind (.alternatives (draft.current.reverse :: draft.finished).reverse) := by
      apply alternatives
      rw [allOf_reverse_iff, allOf_cons_iff]
      exact ⟨fun token listed => ofCurrent token (List.mem_reverse.mp listed), ofFinished⟩
    rw [branches, allOf_cons_iff]
    exact ⟨List.forall_mem_cons.mpr ⟨group, ofOuter⟩, ofRest⟩

/-- A double star adds tokens of the kind, unless it begins a branch at the end of the text. -/
theorem allOf_doubleStar
    (admits : Admits kind text)
    (made : draft.IsMadeOf kind previous)
    (goesOn : draft.current = [] → next ≠ none) :
    AllOf kind (draft.doubleStar previous next).branches := by
  have runs := allOf_pushRuns made.branches admits.anyRun
  rw [doubleStar]
  split
  · rename_i isEmpty
    rw [if_neg]
    · exact runs
    · rw [Option.isNone_iff_eq_none]
      exact goesOn (List.isEmpty_iff.mp isEmpty)
  · rename_i nonempty
    split
    · rename_i spans
      rcases made.border (Bool.and_eq_true_iff.mp spans).1 with empty | isKind
      · exact absurd (List.isEmpty_iff.mpr empty) nonempty
      · exact allOf_spanFolders made.branches isKind
    · exact runs

/-- Every sign adds tokens of the kind. -/
theorem allOf_take
    (admits : Admits kind text)
    (occurs : sign.OccursIn text)
    (made : draft.IsMadeOf kind previous)
    (goesOn : sign = .doubleStar → draft.current = [] → next ≠ none)
    (taken : draft.take previous next sign = .ok further) :
    AllOf kind further.branches := by
  cases occurs with
  | anyByte =>
      cases taken
      exact allOf_push made.branches admits.anyByte
  | anyRun =>
      cases taken
      exact allOf_push made.branches admits.anyRun
  | oneOf members bracket =>
      cases taken
      exact allOf_push made.branches (admits.oneOf bracket members)
  | literal character noSlash escaped =>
      cases taken
      exact allOf_push made.branches (admits.literal character noSlash)
  | doubleStar =>
      cases taken
      exact allOf_doubleStar admits made (goesOn rfl)
  | opens =>
      cases taken
      exact allOf_openGroup made.branches
  | closes => exact allOf_closeGroup admits.alternatives made.branches taken
  | comma =>
      cases taken
      exact allOf_comma made.branches (admits.literal ',' (by decide))

/-- Inside a group a comma begins a new branch. -/
theorem current_comma (inside : draft.comma.isInsideGroup = true) : draft.comma.current = [] := by
  rw [comma] at inside ⊢
  split
  · rfl
  · rename_i outside
    rw [if_neg outside] at inside
    exact absurd inside outside

/-- Only after an opening brace, a comma or an escaped one of these is there a border. -/
theorem border_take
    (admits : Admits kind text)
    (occurs : sign.OccursIn text)
    (taken : draft.take previous next sign = .ok further)
    (border : atFolderBorder further (some sign.last) = true) :
    further.current = [] ∨ kind .trailingFolders := by
  cases occurs with
  | opens =>
      cases taken
      exact Or.inl rfl
  | comma =>
      cases taken
      left
      have inside : draft.comma.isInsideGroup = true :=
        isInsideGroup_of_atFolderBorder (by decide) border
      exact current_comma inside
  | literal character noSlash escaped =>
      right
      apply admits.trailingFolders
      apply escaped
      simp_all [atFolderBorder, Sign.last]
  | _ => simp [atFolderBorder, Sign.last] at border

/-- A double star neither opens nor closes a group. -/
theorem isInsideGroup_doubleStar (draft : Draft) (previous next : Option Char) :
    (draft.doubleStar previous next).isInsideGroup = draft.isInsideGroup := by
  rw [doubleStar, spanFolders]
  repeat' split
  all_goals rfl

end Draft

/-- Reading ends inside a group, or has added only tokens of a kind that admits the text. -/
theorem readFrom_allOf
    {kind : Token → Prop}
    {text : List Char}
    {draft result : Draft}
    {previous : Option Char}
    (admits : Admits kind text)
    (noSlash : '/' ∉ text)
    (made : draft.IsMadeOf kind previous)
    (begun : draft.IsBegun ∨ text ≠ [] ∧ text ≠ ['*', '*'])
    (read : readFrom draft previous text = .ok result) :
    result.isInsideGroup = true ∨ result.current ≠ [] ∧ AllOf kind result.branches := by
  induction text using induction_on_signs generalizing draft previous with
  | slash text found => exact absurd found noSlash
  | nil =>
      rw [readFrom_nil] at read
      cases read
      have isBegun : result.IsBegun := begun.resolve_right fun apart => apart.1 rfl
      cases inside : result.isInsideGroup with
      | true => exact Or.inl rfl
      | false => exact Or.inr ⟨isBegun inside, made.branches⟩
  | refused text fault refuses =>
      rw [refuses] at read
      cases read
  | sign text sign rest yields inductionHypothesis =>
      rw [yields.readFrom_eq] at read
      cases taken : draft.take previous rest.head? sign with
      | error fault =>
          rw [taken] at read
          cases read
      | ok further =>
          rw [taken] at read
          have isBegun := Draft.isBegun_take taken
          -- a double star at the very end of an empty branch: then that is a branch of a group
          by_cases dangles : sign = .doubleStar ∧ draft.current = [] ∧ rest.head? = none
          · obtain ⟨rfl, empty, ended⟩ := dangles
            rw [List.head?_eq_none_iff] at ended
            subst ended
            have isBegunBefore : draft.IsBegun :=
              begun.resolve_right fun apart => apart.2 (yields.doubled rfl)
            have inside : draft.isInsideGroup = true :=
              Bool.of_not_eq_false fun outside => isBegunBefore outside empty
            change readFrom further (some '*') [] = .ok result at read
            rw [readFrom_nil] at read
            cases taken
            cases read
            exact Or.inl ((draft.isInsideGroup_doubleStar _ _).trans inside)
          · have goesOn : sign = .doubleStar → draft.current = [] → rest.head? ≠ none :=
              fun double empty ended => dangles ⟨double, empty, ended⟩
            have madeAfter : further.IsMadeOf kind (some sign.last) :=
              ⟨Draft.allOf_take admits yields.occursIn made goesOn taken,
                Draft.border_take admits yields.occursIn taken⟩
            exact inductionHypothesis (admits.of_isSuffix yields.isSuffix)
              (yields.slash_notMem noSlash) madeAfter (Or.inl isBegun) read

/-- The tokens of a pattern without a slash are of any kind that admits the pattern. -/
theorem readTokens_allOf
    {kind : Token → Prop}
    {pattern : List Char}
    {tokens : List Token}
    (admits : Admits kind pattern)
    (written : pattern ≠ [])
    (notAlone : pattern ≠ ['*', '*'])
    (noSlash : '/' ∉ pattern)
    (read : readTokens pattern = .ok tokens) :
    tokens ≠ [] ∧ ∀ token ∈ tokens, kind token := by
  have made : Draft.empty.IsMadeOf kind none := by
    refine ⟨?_, nofun⟩
    simp [AllOf, Draft.branches, Draft.empty]
  rw [readTokens] at read
  cases result : readFrom .empty none pattern with
  | error fault =>
      rw [result] at read
      cases read
  | ok draft =>
      rw [result] at read
      change draft.finish = .ok tokens at read
      rw [Draft.finish] at read
      split at read
      · cases read
      · rename_i outside
        cases read
        rcases readFrom_allOf admits noSlash made (Or.inr ⟨written, notAlone⟩) result with
          inside | ⟨nonempty, all⟩
        · exact absurd inside outside
        · rw [Draft.branches, allOf_cons_iff] at all
          simpa using ⟨nonempty, all.1⟩

end Glob
end HouseStyle
