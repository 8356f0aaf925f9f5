import HouseStyle.Path
import Mathlib.Data.List.Infix

/-!
# The folders above a path

The parents of a path are beginnings of it that end in a piece that says
something.  Going up, each says less than the one before, so no two of them say
the same.  Seen from any of its parents, a path says what it says after the
parent.
-/

namespace HouseStyle
namespace Path

/-! ## Pieces that say something -/

theorem telling_append (atStart : Bool) (left right : List String) :
    telling atStart (left ++ right) =
      telling atStart left ++ telling (atStart && left.isEmpty) right := by
  induction left generalizing atStart with
  | nil => simp [telling]
  | cons piece rest inductionHypothesis =>
      rw [List.cons_append, telling, telling, inductionHypothesis]
      split <;> simp

theorem length_telling_le_of_isPrefix
    (atStart : Bool)
    {beginning pieces : List String}
    (begins : beginning <+: pieces) :
    (telling atStart beginning).length ≤ (telling atStart pieces).length := by
  obtain ⟨rest, rfl⟩ := begins
  rw [telling_append, List.length_append]
  omega

theorem telling_dropWhile_isSilent (pieces : List String) :
    telling false (pieces.dropWhile (isSilent false)) = telling false pieces := by
  induction pieces with
  | nil => rfl
  | cons piece rest inductionHypothesis =>
      cases silent : isSilent false piece with
      | true => rw [List.dropWhile_cons_of_pos silent, inductionHypothesis, telling, if_pos silent]
      | false => rw [List.dropWhile_cons_of_neg (by simp [silent])]

/-- The start of a path makes no difference before a piece that always says something. -/
theorem telling_eq_of_head
    {pieces : List String}
    (tells : ∀ first ∈ pieces.head?, isSilent false first = false)
    (atStart : Bool) :
    telling atStart pieces = telling false pieces := by
  cases pieces with
  | nil => rfl
  | cons first rest =>
      have always := tells first rfl
      have here : isSilent atStart first = false := by
        simp_all [isSilent]
      rw [telling, telling, here, always]

/-- Pieces end in one that says something, unless there are none. -/
def EndsTelling (atStart : Bool) (pieces : List String) : Prop :=
  ∀ front last, pieces = front ++ [last] → isSilent (atStart && front.isEmpty) last = false

theorem endsTelling_append_singleton
    {atStart : Bool}
    {front : List String}
    {last : String}
    (tells : isSilent (atStart && front.isEmpty) last = false) :
    EndsTelling atStart (front ++ [last]) := by
  intro otherFront otherLast same
  obtain ⟨rfl, rfl⟩ := List.append_singleton_inj.mp same
  exact tells

theorem endsTelling_nil (atStart : Bool) :
    EndsTelling atStart [] := by
  intro front last same
  simp at same

theorem endsTelling_cons
    {atStart : Bool}
    {piece next : String}
    {rest : List String} :
    EndsTelling atStart (piece :: next :: rest) ↔ EndsTelling false (next :: rest) := by
  constructor
  · intro ends front last same
    have tells := ends (piece :: front) last (congrArg (piece :: ·) same)
    simpa using tells
  · intro ends front last same
    cases front with
    | nil => simp at same
    | cons first others =>
        obtain ⟨rfl, further⟩ := List.cons.inj same
        simpa using ends others last further

theorem telling_ne_nil_of_endsTelling
    {atStart : Bool}
    {piece : String}
    {rest : List String}
    (ends : EndsTelling atStart (piece :: rest)) :
    telling atStart (piece :: rest) ≠ [] := by
  obtain ⟨front, last, same⟩ :=
    (List.eq_nil_or_concat' (piece :: rest)).resolve_left (List.cons_ne_nil piece rest)
  have tells := ends front last same
  rw [same, telling_append]
  simp [telling, tells]

/-! ## Trimming -/

theorem trimEnd_of_endsTelling
    {atStart : Bool}
    {pieces : List String}
    (ends : EndsTelling atStart pieces) :
    trimEnd atStart pieces = pieces := by
  induction pieces generalizing atStart with
  | nil => rfl
  | cons piece rest inductionHypothesis =>
      cases rest with
      | nil =>
          have tells := ends [] piece rfl
          simp_all [trimEnd]
      | cons next others =>
          rw [trimEnd, inductionHypothesis (endsTelling_cons.mp ends)]

theorem trimEnd_isPrefix (atStart : Bool) (pieces : List String) :
    trimEnd atStart pieces <+: pieces := by
  induction pieces generalizing atStart with
  | nil => exact List.prefix_refl []
  | cons piece rest inductionHypothesis =>
      have shorter := inductionHypothesis false
      rw [trimEnd]
      split
      · split
        · exact List.nil_prefix
        · exact ⟨rest, rfl⟩
      · rename_i next kept trimmed
        rw [trimmed] at shorter
        exact (List.prefix_cons_inj piece).mpr shorter

theorem telling_trimEnd (atStart : Bool) (pieces : List String) :
    telling atStart (trimEnd atStart pieces) = telling atStart pieces := by
  induction pieces generalizing atStart with
  | nil => rfl
  | cons piece rest inductionHypothesis =>
      have same := inductionHypothesis false
      rw [trimEnd]
      split
      · rename_i trimmed
        rw [trimmed] at same
        split <;> simp_all [telling]
      · rename_i next kept trimmed
        rw [trimmed] at same
        rw [telling, same, telling]

theorem endsTelling_trimEnd (atStart : Bool) (pieces : List String) :
    EndsTelling atStart (trimEnd atStart pieces) := by
  induction pieces generalizing atStart with
  | nil => exact endsTelling_nil atStart
  | cons piece rest inductionHypothesis =>
      have ends := inductionHypothesis false
      rw [trimEnd]
      split
      · split
        · exact endsTelling_nil atStart
        · rename_i tells
          have single : EndsTelling atStart ([] ++ [piece]) :=
            endsTelling_append_singleton (by simpa using tells)
          exact single
      · rename_i next kept trimmed
        rw [trimmed] at ends
        exact endsTelling_cons.mpr ends

/-- The path has no silent piece at its end. -/
def IsTrim (path : Path) : Prop :=
  EndsTelling (!path.isAbsolute) path.pieces

theorem IsTrim.trimmed_eq
    {path : Path}
    (trim : path.IsTrim) :
    path.trimmed = path := by
  rw [trimmed, trimEnd_of_endsTelling trim]

/-! ## Parents -/

/-- A parent is a beginning of the path that ends in a piece that says something. -/
theorem mem_parentsOf
    {isAbsolute : Bool}
    {latest : List String}
    {folder : Path}
    (above : folder ∈ parentsOf isAbsolute latest) :
    folder.isAbsolute = isAbsolute ∧ folder.IsTrim ∧ folder.pieces <+: latest.reverse := by
  induction latest with
  | nil =>
      obtain rfl := List.mem_singleton.mp above
      exact ⟨rfl, endsTelling_nil _, List.prefix_refl []⟩
  | cons piece rest inductionHypothesis =>
      have further : folder ∈ parentsOf isAbsolute rest →
          folder.isAbsolute = isAbsolute ∧ folder.IsTrim ∧
            folder.pieces <+: (piece :: rest).reverse := by
        intro above
        obtain ⟨sameRoot, trim, begins⟩ := inductionHypothesis above
        rw [List.reverse_cons]
        exact ⟨sameRoot, trim, begins.trans (List.prefix_append _ _)⟩
      rw [parentsOf] at above
      split at above
      · exact further above
      · rename_i tells
        rcases List.mem_cons.mp above with rfl | above
        · refine ⟨rfl, ?_, List.prefix_refl _⟩
          rw [IsTrim, List.reverse_cons]
          apply endsTelling_append_singleton
          simpa using tells
        · exact further above

theorem mem_parents
    {path folder : Path}
    (above : folder ∈ path.parents) :
    folder.isAbsolute = path.isAbsolute ∧ folder.IsTrim ∧ folder.pieces <+: path.pieces := by
  rw [parents] at above
  split at above
  · cases above
  · rename_i last latest reversed
    obtain ⟨sameRoot, trim, begins⟩ := mem_parentsOf above
    have whole : path.trimmed.pieces = latest.reverse ++ [last] := by
      rw [← List.reverse_reverse path.trimmed.pieces, reversed, List.reverse_cons]
    refine ⟨sameRoot, trim, begins.trans ?_⟩
    refine List.IsPrefix.trans ?_ (trimEnd_isPrefix (!path.isAbsolute) path.pieces)
    exact ⟨[last], whole.symm⟩

theorem telling_reverse_cons
    {isAbsolute : Bool}
    {piece : String}
    {earlier : List String}
    (tells : isSilent (!isAbsolute && earlier.isEmpty) piece = false) :
    telling (!isAbsolute) (piece :: earlier).reverse =
      telling (!isAbsolute) earlier.reverse ++ [piece] := by
  rw [List.reverse_cons, telling_append, List.isEmpty_reverse]
  simp [telling, tells]

theorem map_components_parentsOf (isAbsolute : Bool) (latest : List String) :
    (parentsOf isAbsolute latest).map components =
      (telling (!isAbsolute) latest.reverse).inits.reverse.map (isAbsolute, ·) := by
  induction latest with
  | nil => rfl
  | cons piece rest inductionHypothesis =>
      rw [parentsOf]
      cases tells : isSilent (!isAbsolute && rest.isEmpty) piece with
      | true =>
          rw [if_pos rfl, inductionHypothesis, List.reverse_cons, telling_append,
            List.isEmpty_reverse]
          simp [telling, tells]
      | false =>
          rw [if_neg Bool.false_ne_true, List.map_cons, inductionHypothesis, components,
            telling_reverse_cons tells, List.inits_append]
          simp

/-- The parents of a path say its proper beginnings, the longest first. -/
theorem map_components_parents (path : Path) :
    path.parents.map components =
      path.components.2.inits.dropLast.reverse.map (path.isAbsolute, ·) := by
  have whole := telling_trimEnd (!path.isAbsolute) path.pieces
  have ends := endsTelling_trimEnd (!path.isAbsolute) path.pieces
  rw [parents]
  split
  · rename_i empty
    have nothing : trimEnd (!path.isAbsolute) path.pieces = [] :=
      List.reverse_eq_nil_iff.mp empty
    rw [components, ← whole, nothing]
    rfl
  · rename_i last latest reversed
    have shape : trimEnd (!path.isAbsolute) path.pieces = (last :: latest).reverse := by
      rw [← reversed, List.reverse_reverse]
      rfl
    rw [shape, List.reverse_cons] at ends
    have tells := ends latest.reverse last rfl
    rw [List.isEmpty_reverse] at tells
    rw [map_components_parentsOf, components, ← whole, shape, telling_reverse_cons tells,
      List.inits_append]
    simp

/-- Going up, each parent says less than the one before. -/
theorem pairwise_parentsOf (isAbsolute : Bool) (latest : List String) :
    (parentsOf isAbsolute latest).Pairwise fun near far =>
      far.components.2.length < near.components.2.length := by
  induction latest with
  | nil => exact List.pairwise_singleton _ _
  | cons piece rest inductionHypothesis =>
      rw [parentsOf]
      split
      · exact inductionHypothesis
      · rename_i tells
        refine List.Pairwise.cons ?_ inductionHypothesis
        intro far above
        obtain ⟨sameRoot, -, begins⟩ := mem_parentsOf above
        have bound := length_telling_le_of_isPrefix (!isAbsolute) begins
        have own := telling_reverse_cons (Bool.not_eq_true _ ▸ tells)
        simp only [components, sameRoot, own, List.length_append, List.length_singleton]
        omega

theorem pairwise_parents (path : Path) :
    path.parents.Pairwise fun near far =>
      far.components.2.length < near.components.2.length := by
  rw [parents]
  split
  · exact List.Pairwise.nil
  · exact pairwise_parentsOf _ _

/-- No two parents of a path say the same. -/
theorem nodup_map_key_parents (path : Path) :
    (path.parents.map key).Nodup := by
  refine List.Pairwise.map key ?_ path.pairwise_parents
  intro near far less same
  have sameLength : near.components.2.length = far.components.2.length := congrArg Prod.fst same
  omega

/-! ## The path from a folder on -/

theorem afterComponents_telling
    {atStart : Bool}
    {pieces : List String}
    (ends : EndsTelling atStart pieces)
    (rest : List String) :
    afterComponents atStart (telling atStart pieces) (pieces ++ rest) = some rest := by
  induction pieces generalizing atStart with
  | nil => rw [telling, afterComponents, List.nil_append]
  | cons piece others inductionHypothesis =>
      cases others with
      | nil =>
          have tells : isSilent atStart piece = false := by
            simpa using ends [] piece rfl
          simp [telling, tells, afterComponents]
      | cons next more =>
          have further := inductionHypothesis (endsTelling_cons.mp ends)
          obtain ⟨wanted, follow, shape⟩ :=
            List.exists_cons_of_ne_nil (telling_ne_nil_of_endsTelling (endsTelling_cons.mp ends))
          rw [shape] at further
          rw [telling, shape, List.cons_append]
          cases silent : isSilent atStart piece with
          | true => rw [if_pos rfl, afterComponents, if_pos silent, further]
          | false =>
              rw [if_neg Bool.false_ne_true, afterComponents, silent, if_neg Bool.false_ne_true,
                if_pos rfl, further]

/-- What is left after a folder says the same once silent pieces are taken off its ends. -/
theorem telling_trimmed_rest (rest : List String) :
    telling true (trimEnd false (rest.dropWhile (isSilent false))) = telling false rest := by
  have tells : ∀ first ∈ (trimEnd false (rest.dropWhile (isSilent false))).head?,
      isSilent false first = false := by
    intro first isHead
    obtain ⟨others, shape⟩ := List.head?_eq_some_iff.mp isHead
    obtain ⟨dropped, whole⟩ := trimEnd_isPrefix false (rest.dropWhile (isSilent false))
    rw [shape, List.cons_append] at whole
    have heads := List.head?_dropWhile_not (isSilent false) rest
    rw [← whole] at heads
    simpa using heads
  rw [telling_eq_of_head tells, telling_trimEnd, telling_dropWhile_isSilent]

/-- Seen from a parent, a path says what it says after the parent. -/
theorem exists_relativeTo?_of_mem_parents
    {path folder : Path}
    (above : folder ∈ path.parents) :
    ∃ relative, path.relativeTo? folder = some relative ∧
      path.components = (folder.components.1, folder.components.2 ++ relative.components.2) := by
  obtain ⟨sameRoot, trim, rest, begins⟩ := mem_parents above
  unfold relativeTo?
  split
  · rename_i empty
    have relative : folder.isAbsolute = false := congrArg Prod.fst empty
    refine ⟨path.trimmed, rfl, ?_⟩
    rw [empty, List.nil_append, components, components, trimmed, telling_trimEnd, ← sameRoot,
      relative]
  · rename_i isAbsolute wanted notEmpty folderComponents
    obtain ⟨rfl, rfl⟩ := Prod.mk.inj folderComponents
    have after := afterComponents_telling trim rest
    rw [begins] at after
    rw [if_pos sameRoot, ← sameRoot, after]
    refine ⟨_, rfl, ?_⟩
    have notAtStart : (!folder.isAbsolute && folder.pieces.isEmpty) = false := by
      cases absolute : folder.isAbsolute with
      | true => rfl
      | false =>
          cases pieces : folder.pieces with
          | nil => exact (notEmpty absolute (by rw [pieces, telling])).elim
          | cons piece others => rfl
    have whole := telling_append (!folder.isAbsolute) folder.pieces rest
    rw [begins, notAtStart] at whole
    simp only [components, ← sameRoot, whole, Bool.not_false, telling_trimmed_rest]

/-- The parent of an item in a folder is the folder. -/
theorem parent?_join
    {folder : Path}
    (trim : folder.IsTrim)
    {name : String}
    (tells : isSilent false name = false) :
    (folder.join ⟨false, [name]⟩).parent? = some folder := by
  have joined : folder.join ⟨false, [name]⟩ = ⟨folder.isAbsolute, folder.pieces ++ [name]⟩ := by
    rw [join, if_neg Bool.false_ne_true, if_neg]
    intro last
    obtain ⟨front, shape⟩ := List.getLast?_eq_some_iff.mp last
    have tellsLast := trim front "" shape
    simp [isSilent] at tellsLast
  have ends : EndsTelling (!folder.isAbsolute) (folder.pieces ++ [name]) := by
    apply endsTelling_append_singleton
    simp_all [isSilent]
  have trimmed : (⟨folder.isAbsolute, folder.pieces ++ [name]⟩ : Path).trimmed =
      ⟨folder.isAbsolute, folder.pieces ++ [name]⟩ := IsTrim.trimmed_eq ends
  rw [joined, parent?, trimmed]
  split
  · simp_all
  · rename_i piece others shape
    rw [← shape, List.dropLast_concat]
    exact congrArg some trim.trimmed_eq

end Path
end HouseStyle
