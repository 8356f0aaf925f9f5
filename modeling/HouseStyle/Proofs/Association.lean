import Mathlib.Data.List.Induction

/-!
# Lists of keyed entries

What is found under a key after entries were dropped or changed by their keys,
and after a run of events that add entries.
-/

namespace HouseStyle
namespace Association

variable {κ β : Type} [DecidableEq κ]

theorem lookup_filter_ne
    (dropped key : κ)
    (entries : List (κ × β)) :
    (entries.filter fun entry => entry.1 != dropped).lookup key =
      if dropped = key then none else entries.lookup key := by
  induction entries with
  | nil => simp
  | cons entry rest inductionHypothesis =>
      obtain ⟨own, value⟩ := entry
      by_cases isDropped : own = dropped
      · subst isDropped
        simp only [List.filter_cons, bne_self_eq_false, Bool.false_eq_true, if_false,
          inductionHypothesis, List.lookup_cons]
        grind
      · simp only [List.filter_cons, bne_iff_ne, ne_eq, isDropped, not_false_eq_true, if_true,
          inductionHypothesis, List.lookup_cons]
        grind

theorem lookup_map_of_eq
    (changed key : κ)
    (change : β → β)
    (entries : List (κ × β)) :
    (entries.map fun entry =>
        if entry.1 = changed then (entry.1, change entry.2) else entry).lookup key =
      if changed = key then (entries.lookup key).map change else entries.lookup key := by
  induction entries with
  | nil => simp
  | cons entry rest inductionHypothesis =>
      obtain ⟨own, value⟩ := entry
      rw [List.map_cons]
      split <;> simp only [List.lookup_cons, inductionHypothesis] <;> grind

/-- Where no key is listed twice, an entry is found exactly if it is listed. -/
theorem lookup_eq_some_iff_mem
    {κ β : Type}
    [BEq κ]
    [LawfulBEq κ]
    {entries : List (κ × β)}
    {key : κ}
    {value : β}
    (distinct : (entries.map Prod.fst).Nodup) :
    entries.lookup key = some value ↔ (key, value) ∈ entries := by
  induction entries with
  | nil => simp
  | cons entry rest inductionHypothesis =>
      obtain ⟨own, held⟩ := entry
      rw [List.map_cons, List.nodup_cons] at distinct
      rw [List.lookup_cons]
      rcases Classical.em (key = own) with rfl | same
      · have absent : (key, value) ∉ rest :=
          fun listed => distinct.1 (List.mem_map.mpr ⟨(key, value), listed, rfl⟩)
        simp [absent, eq_comm]
      · rw [beq_eq_false_iff_ne.mpr same]
        simp [same, inductionHypothesis distinct.2]

/-- Where no key is listed twice, the order of the entries does not matter. -/
theorem lookup_eq_of_perm
    {κ β : Type}
    [BEq κ]
    [LawfulBEq κ]
    {entries others : List (κ × β)}
    (distinct : (entries.map Prod.fst).Nodup)
    (perm : entries.Perm others)
    {key : κ} :
    others.lookup key = entries.lookup key := by
  have distinctOthers : (others.map Prod.fst).Nodup := (perm.map Prod.fst).nodup_iff.mp distinct
  apply Option.ext
  intro value
  rw [lookup_eq_some_iff_mem distinctOthers, lookup_eq_some_iff_mem distinct, perm.mem_iff]

/-- What is found under a key after a run of events was added by one of them. -/
theorem lookup_foldl_iff
    {σ ε κ β : Type}
    [BEq κ]
    (step : σ → ε → σ)
    (start : σ)
    (entries : σ → List (κ × β))
    (Adds : σ → ε → Prop)
    {key : κ}
    {value : β}
    (initially : (entries start).lookup key ≠ some value)
    (history : List ε)
    (stepwise : ∀ before event, before ++ [event] <+: history →
      ((entries (step (before.foldl step start) event)).lookup key = some value ↔
        (entries (before.foldl step start)).lookup key = some value ∨
          Adds (before.foldl step start) event)) :
    (entries (history.foldl step start)).lookup key = some value ↔
      ∃ before event, before ++ [event] <+: history ∧ Adds (before.foldl step start) event := by
  induction history using List.reverseRecOn with
  | nil => simp [initially]
  | append_singleton earlier latest inductionHypothesis =>
      have earlierSteps := inductionHypothesis fun before event begins =>
        stepwise before event (begins.trans (List.prefix_append earlier [latest]))
      rw [List.foldl_append, List.foldl_cons, List.foldl_nil,
        stepwise earlier latest (List.prefix_refl _), earlierSteps]
      simp only [List.prefix_concat_iff, List.append_singleton_inj]
      constructor
      · rintro (⟨before, event, begins, adds⟩ | adds)
        · exact ⟨before, event, .inr begins, adds⟩
        · exact ⟨earlier, latest, .inl ⟨rfl, rfl⟩, adds⟩
      · rintro ⟨before, event, ⟨rfl, rfl⟩ | begins, adds⟩
        · exact .inr adds
        · exact .inl ⟨before, event, begins, adds⟩

end Association
end HouseStyle
