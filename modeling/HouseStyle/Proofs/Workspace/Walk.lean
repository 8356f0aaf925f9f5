import HouseStyle.Proofs.Disk.Tree
import HouseStyle.Workspace
import Mathlib.Data.List.Nodup

/-!
# Walks through a project

A walk takes one folder after another and tests what stands in it.  An item that
is passed over is neither listed nor entered.  So a walk finds the files to which
names lead that are not passed over, and finds each of them once.
-/

namespace HouseStyle
namespace Workspace

variable
  {disk : Disk}
  {place names : List String}
  {name : String}
  {item : Item}

/-! ## One step -/

theorem isPassedOver_eq_false_iff :
    isPassedOver place = false ↔ ∀ name, place.getLast? = some name → name ∉ skippedNames := by
  rw [isPassedOver]
  cases place.getLast? <;> simp

/-- Of a place below another one only the last name is tested; the names before it were tested on
the way. -/
theorem isPassedOver_concat_eq_false_iff :
    isPassedOver (place ++ [name]) = false ↔ name ∉ skippedNames := by
  simp [isPassedOver_eq_false_iff]

theorem walk_of_isPassedOver (passed : isPassedOver place = true) :
    walk disk place item = [] := by
  rw [walk.eq_def, if_pos passed]

/-- From a folder the walk goes on to each of the items in it. -/
theorem walk_folder (kept : isPassedOver place = false) :
    walk disk place .folder =
      (disk.entries place).flatMap fun entry =>
        (walk disk (place ++ [entry.1]) entry.2).map (entry.1 :: ·) := by
  rw [walk, if_neg (Bool.eq_false_iff.mp kept)]
  calc
    (disk.entries place).attach.flatMap _ =
        ((disk.entries place).attach.map Subtype.val).flatMap fun entry =>
          (walk disk (place ++ [entry.1]) entry.2).map (entry.1 :: ·) :=
      (List.flatMap_map ..).symm
    _ = _ := by rw [List.attach_map_subtype_val]

/-- A walk ends at a file. -/
theorem nil_mem_walk_iff :
    [] ∈ walk disk place item ↔ isPassedOver place = false ∧ ∃ text, item = .file text := by
  by_cases passed : isPassedOver place = true
  · simp [walk_of_isPassedOver passed, passed]
  · have kept := Bool.eq_false_iff.mpr passed
    cases item with
    | file text => simp [walk, kept]
    | link target => simp [walk, kept]
    | folder => simp [walk_folder kept]

/-- A walk goes on through a folder, to an item that stands in it. -/
theorem cons_mem_walk_iff :
    name :: names ∈ walk disk place item ↔
      isPassedOver place = false ∧ item = .folder ∧
        ∃ next, (place ++ [name], next) ∈ disk.items ∧
          names ∈ walk disk (place ++ [name]) next := by
  by_cases passed : isPassedOver place = true
  · simp [walk_of_isPassedOver passed, passed]
  · have kept := Bool.eq_false_iff.mpr passed
    cases item with
    | file text => simp [walk, kept]
    | link target => simp [walk, kept]
    | folder =>
        simp only [walk_folder kept, List.mem_flatMap, List.mem_map, List.cons.injEq, kept,
          true_and]
        constructor
        · rintro ⟨⟨_, next⟩, listed, _, found, rfl, rfl⟩
          exact ⟨next, Disk.mem_entries_iff.mp listed, found⟩
        · rintro ⟨next, listed, found⟩
          exact ⟨(name, next), Disk.mem_entries_iff.mpr listed, names, found, rfl, rfl⟩

/-! ## A whole walk -/

/--
The walk from an item finds the files below it, or the item itself, unless it or
something on the way to them is passed over.
-/
theorem mem_walk_iff
    (tree : disk.IsTree)
    (stands : disk.itemAt? place = some item) :
    names ∈ walk disk place item ↔
      isPassedOver place = false ∧ (∀ name ∈ names, name ∉ skippedNames) ∧
        ∃ text, disk.itemAt? (place ++ names) = some (.file text) := by
  -- the names are used up one by one as the walk goes down
  induction names generalizing place item with
  | nil => simp [nil_mem_walk_iff, stands]
  | cons name rest inductionHypothesis =>
      have further : place ++ name :: rest = (place ++ [name]) ++ rest := by simp
      rw [cons_mem_walk_iff, further, List.forall_mem_cons]
      constructor
      · rintro ⟨kept, rfl, next, listed, found⟩
        have stands := (tree.itemAt?_eq_some_iff (by simp)).mpr listed
        obtain ⟨nameKept, restKept, isFile⟩ := (inductionHypothesis stands).mp found
        exact ⟨kept, ⟨isPassedOver_concat_eq_false_iff.mp nameKept, restKept⟩, isFile⟩
      · rintro ⟨kept, ⟨nameKept, restKept⟩, text, isFile⟩
        obtain ⟨next, nextStands⟩ : ∃ next, disk.itemAt? (place ++ [name]) = some next := by
          by_cases ended : rest = []
          · exact ⟨.file text, by rwa [ended, List.append_nil] at isFile⟩
          · exact ⟨.folder, tree.itemAt?_of_append isFile ended⟩
        have isFolder := tree.itemAt?_of_append nextStands (by simp)
        refine ⟨kept, Option.some.inj (stands.symm.trans isFolder), next, ?_, ?_⟩
        · exact (tree.itemAt?_eq_some_iff (by simp)).mp nextStands
        · rw [inductionHypothesis nextStands, isPassedOver_concat_eq_false_iff]
          exact ⟨nameKept, restKept, text, isFile⟩

/-- No two items of one folder have the same name. -/
theorem pairwise_ne_entries (tree : disk.IsTree) :
    (disk.entries place).Pairwise fun left right => left.1 ≠ right.1 := by
  have apart : disk.items.Pairwise fun left right => left.1 ≠ right.1 :=
    List.pairwise_map.mp tree.distinct
  apply apart.filterMap
  rintro ⟨names, item⟩ ⟨others, other⟩ different ⟨name, _⟩ told ⟨_, _⟩ toldOther rfl
  simp only [Disk.within?, bind, Option.bind_eq_some_iff, Option.ite_none_right_eq_some,
    Option.some.injEq, Prod.mk.injEq] at told toldOther
  obtain ⟨_, -, same, rfl, -⟩ := told
  obtain ⟨_, -, otherSame, rfl, -⟩ := toldOther
  exact different (same.trans otherSame.symm)

/-- A walk finds nothing twice, since the branches below a folder start with different names. -/
theorem nodup_walk (tree : disk.IsTree) : (walk disk place item).Nodup := by
  induction place, item using walk.induct disk with
  | case1 place item passed =>
      rw [walk_of_isPassedOver passed]
      exact List.nodup_nil
  | case2 place kept text =>
      rw [walk, if_neg kept]
      exact List.nodup_singleton _
  | case3 place kept target =>
      rw [walk, if_neg kept]
      exact List.nodup_nil
  | case4 place kept inductionHypothesis =>
      rw [walk_folder (Bool.eq_false_iff.mpr kept), List.nodup_flatMap]
      constructor
      · rintro ⟨name, item⟩ listed
        exact (inductionHypothesis name item listed).map (List.cons_injective)
      · apply (pairwise_ne_entries tree).imp
        intro left right different names fromLeft fromRight
        obtain ⟨_, -, rfl⟩ := List.mem_map.mp fromLeft
        obtain ⟨_, -, same⟩ := List.mem_map.mp fromRight
        exact different (List.cons.inj same).1.symm

end Workspace
end HouseStyle
