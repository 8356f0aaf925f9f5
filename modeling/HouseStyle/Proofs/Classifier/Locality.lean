import HouseStyle.Classifier
import HouseStyle.Proofs.Evidence
import HouseStyle.Proofs.Syntax.Preorder

/-!
# Classifiers that read locally

A classifier reads a tree locally if, on all working memory that a walk over
the tree can bring about, it does at a site what it would do with fresh memory.
Its walk over the tree then sums up the evidence at the sites that it reaches,
and the order in which sites are visited cannot matter.
-/

namespace HouseStyle
namespace Classifier

open Syntax

variable {δ σ : Type} [Scratch σ]

/-- The evidence that the classifier finds at a site when its memory is fresh. -/
def evidence
    (classifier : Classifier δ σ)
    (source : String)
    (site : Site) : List (Observation δ) :=
  (classifier.visit source site Scratch.fresh).observations

/-- Whether the classifier goes on below a site when its memory is fresh. -/
def descent
    (classifier : Classifier δ σ)
    (source : String)
    (site : Site) : Descent :=
  (classifier.visit source site Scratch.fresh).descent

/-- The named sites of a tree with no named site above them below which the classifier does
not go, in document order. -/
def reached (classifier : Classifier δ σ) (tree : Tree) : List Site :=
  tree.site.reached (classifier.descent tree.source)

/-- The working memory after visits to some sites, one after the other, from fresh memory on. -/
def memoryAfter
    (classifier : Classifier δ σ)
    (source : String)
    (visited : List Site) : σ :=
  visited.foldl (fun memory site => (classifier.visit source site memory).scratch) Scratch.fresh

/-- What a walk over a tree with fresh memory records at a site. -/
def recordedAt
    (classifier : Classifier δ σ)
    (tree : Tree)
    (site : Site) : List (Observation δ) :=
  ((classifier.transcript tree).filter fun offer =>
    offer.node.number == site.number).flatMap Offer.observations

/--
The classifier reads a tree locally: memory with a property that fresh memory
has and every visit keeps does not show in what the classifier does.
-/
structure ReadsLocally
    (classifier : Classifier δ σ)
    (tree : Tree)
    (sound : σ → Prop) : Prop where
  /-- Fresh memory has the property. -/
  fresh : sound Scratch.fresh
  /-- A visit keeps the property. -/
  scratch : ∀ site ∈ tree.site.subtree, ∀ memory, sound memory →
    sound (classifier.visit tree.source site memory).scratch
  /-- The memory does not show in the evidence. -/
  observations : ∀ site ∈ tree.site.subtree, ∀ memory, sound memory →
    (classifier.visit tree.source site memory).observations =
      classifier.evidence tree.source site
  /-- The memory does not show in the decision to go on below. -/
  descent : ∀ site ∈ tree.site.subtree, ∀ memory, sound memory →
    (classifier.visit tree.source site memory).descent = classifier.descent tree.source site

namespace ReadsLocally

variable
  {classifier : Classifier δ σ}
  {tree : Tree}
  {sound : σ → Prop}

/-- What a classifier does can be read off the site, whatever sound memory it has. -/
theorem of_reading
    (observes : Site → List (Observation δ))
    (descends : Site → Descent)
    (fresh : sound Scratch.fresh)
    (reading : ∀ site ∈ tree.site.subtree, ∀ memory, sound memory →
      (classifier.visit tree.source site memory).observations = observes site ∧
        (classifier.visit tree.source site memory).descent = descends site ∧
        sound (classifier.visit tree.source site memory).scratch) :
    classifier.ReadsLocally tree sound where
  fresh := fresh
  scratch := by
    intro site inside memory memorySound
    exact (reading site inside memory memorySound).2.2
  observations := by
    intro site inside memory memorySound
    have now := (reading site inside memory memorySound).1
    have afresh := (reading site inside Scratch.fresh fresh).1
    exact now.trans afresh.symm
  descent := by
    intro site inside memory memorySound
    have now := (reading site inside memory memorySound).2.1
    have afresh := (reading site inside Scratch.fresh fresh).2.1
    exact now.trans afresh.symm

/-- A classifier that leaves its memory alone reads every tree locally. -/
theorem of_untouched
    (fresh : sound Scratch.fresh)
    (untouched : ∀ site memory, classifier.visit tree.source site memory =
      ⟨classifier.evidence tree.source site, classifier.descent tree.source site, memory⟩) :
    classifier.ReadsLocally tree sound := by
  refine .of_reading (classifier.evidence tree.source) (classifier.descent tree.source) fresh ?_
  intro site _ memory memorySound
  rw [untouched site memory]
  exact ⟨rfl, rfl, memorySound⟩

theorem sound_memoryAfter
    (reads : classifier.ReadsLocally tree sound)
    (visited : List Site)
    (inside : ∀ site ∈ visited, site ∈ tree.site.subtree) :
    sound (classifier.memoryAfter tree.source visited) := by
  unfold memoryAfter
  generalize start : (Scratch.fresh : σ) = memory
  have memorySound : sound memory := start ▸ reads.fresh
  clear start
  induction visited generalizing memory with
  | nil => exact memorySound
  | cons site rest inductionHypothesis =>
      rw [List.foldl_cons]
      apply inductionHypothesis
      · intro other present
        exact inside other (List.mem_cons_of_mem _ present)
      · exact reads.scratch site (inside site List.mem_cons_self) memory memorySound

/-- The visitor of a walk descends or not by the site alone. -/
theorem descendsBy_offer
    (reads : classifier.ReadsLocally tree sound)
    {site : Site}
    (inside : site ∈ tree.site.subtree) :
    Site.DescendsBy (classifier.offer tree.source) (fun progress => sound progress.scratch)
      (classifier.descent tree.source) site := by
  intro progress memorySound
  exact ⟨reads.scratch site inside _ memorySound, reads.descent site inside _ memorySound⟩

/-- The visitor that keeps a transcript descends or not by the site alone. -/
theorem descendsBy_note
    (reads : classifier.ReadsLocally tree sound)
    {site : Site}
    (inside : site ∈ tree.site.subtree) :
    Site.DescendsBy (classifier.note tree.source) (fun state => sound state.2)
      (classifier.descent tree.source) site := by
  intro state memorySound
  exact ⟨reads.scratch site inside _ memorySound, reads.descent site inside _ memorySound⟩

/-- Visits to some sites record the evidence at those sites. -/
theorem foldl_offer
    (reads : classifier.ReadsLocally tree sound)
    (sites : List Site)
    (inside : ∀ site ∈ sites, site ∈ tree.site.subtree)
    (progress : Progress δ σ)
    (memorySound : sound progress.scratch) :
    (sites.foldl (fun progress site => (classifier.offer tree.source site progress).1)
        progress).tally =
      progress.tally.recordAll (sites.flatMap (classifier.evidence tree.source)) := by
  induction sites generalizing progress with
  | nil => rfl
  | cons site rest inductionHypothesis =>
      have present := inside site List.mem_cons_self
      have recorded := reads.observations site present _ memorySound
      rw [List.foldl_cons, List.flatMap_cons, Tally.recordAll_append, ← recorded]
      apply inductionHypothesis
      · intro other later
        exact inside other (List.mem_cons_of_mem _ later)
      · exact reads.scratch site present _ memorySound

theorem foldl_note
    (reads : classifier.ReadsLocally tree sound)
    (sites : List Site)
    (inside : ∀ site ∈ sites, site ∈ tree.site.subtree)
    (state : List (Offer δ) × σ)
    (memorySound : sound state.2) :
    (sites.foldl (fun state site => (classifier.note tree.source site state).1) state).1 =
      (sites.map fun site =>
        (⟨site.node, classifier.evidence tree.source site,
          classifier.descent tree.source site⟩ : Offer δ)).reverse ++ state.1 := by
  induction sites generalizing state with
  | nil => rfl
  | cons site rest inductionHypothesis =>
      have present := inside site List.mem_cons_self
      have recorded := reads.observations site present _ memorySound
      have descended := reads.descent site present _ memorySound
      have others := inductionHypothesis
        (fun other later => inside other (List.mem_cons_of_mem _ later))
        (classifier.note tree.source site state).1
        (reads.scratch site present _ memorySound)
      rw [List.foldl_cons, others, List.map_cons, List.reverse_cons, List.append_assoc]
      rw [note, recorded, descended]
      rfl

/-- A walk reaches a site of the tree exactly if it is named and the walk goes on below every
named site above it. -/
theorem mem_reached_iff
    {site : Site}
    (inside : site ∈ tree.site.subtree) :
    site ∈ classifier.reached tree ↔
      site.node.isNamed = true ∧ ∀ outer ∈ site.ancestors, outer.node.isNamed = true →
        classifier.descent tree.source outer ≠ .skip := by
  rw [reached, Site.reached, List.mem_filter, Bool.and_eq_true, Site.isOpen, List.all_eq_true,
    and_iff_right inside]
  refine and_congr_right fun _ => forall₂_congr fun outer _ => ?_
  cases outer.node.isNamed <;> simp

theorem mem_subtree_of_mem_reached
    {site : Site}
    (visited : site ∈ classifier.reached tree) :
    site ∈ tree.site.subtree :=
  (List.mem_filter.mp visited).1

/-- A walk over a tree records the evidence at the sites that it reaches, in document order. -/
theorem tally_walk
    (reads : classifier.ReadsLocally tree sound)
    (tally : Tally δ) :
    (classifier.walk tree ⟨tally, Scratch.fresh⟩).tally =
      tally.recordAll
        ((classifier.reached tree).flatMap (classifier.evidence tree.source)) := by
  obtain ⟨folded, -⟩ := Site.traverse_onNamed tree.site
    (fun _ inside => reads.descendsBy_offer inside) rfl ⟨tally, Scratch.fresh⟩ reads.fresh
  rw [walk, Tree.site, Site.walkFrom_root, ← Tree.site, folded]
  exact reads.foldl_offer _ (fun _ visited => mem_subtree_of_mem_reached visited) _ reads.fresh

/-- The transcript of a walk lists the sites that it reaches with what is local to each. -/
theorem transcript_eq
    (reads : classifier.ReadsLocally tree sound) :
    classifier.transcript tree =
      (classifier.reached tree).map fun site =>
        ⟨site.node, classifier.evidence tree.source site,
          classifier.descent tree.source site⟩ := by
  obtain ⟨folded, -⟩ := Site.traverse_onNamed tree.site
    (fun _ inside => reads.descendsBy_note inside) rfl ([], Scratch.fresh) reads.fresh
  have noted := reads.foldl_note (classifier.reached tree)
    (fun _ visited => mem_subtree_of_mem_reached visited) ([], Scratch.fresh) reads.fresh
  rw [transcript, Tree.site, Site.walkFrom_root, ← Tree.site, folded]
  rw [reached] at noted
  rw [noted, List.append_nil, List.reverse_reverse]
  rfl

theorem nodup_numbers_reached :
    ((classifier.reached tree).map Site.number).Nodup :=
  Tree.nodup_numbers_of_sublist List.filter_sublist

/-- Numbers tell the reached sites apart. -/
theorem filter_number_reached
    {site : Site}
    (visited : site ∈ classifier.reached tree) :
    ((classifier.reached tree).filter fun other => other.number == site.number) = [site] := by
  have distinct : ((classifier.reached tree).map Site.number).Nodup := nodup_numbers_reached
  obtain ⟨before, after, split⟩ := List.append_of_mem visited
  rw [split, List.map_append, List.map_cons, List.nodup_append, List.nodup_cons] at distinct
  obtain ⟨-, ⟨notAfter, -⟩, apart⟩ := distinct
  have nothingBefore : (before.filter fun other => other.number == site.number) = [] := by
    rw [List.filter_eq_nil_iff]
    intro other present
    rw [beq_iff_eq]
    exact apart _ (List.mem_map_of_mem present) _ List.mem_cons_self
  have nothingAfter : (after.filter fun other => other.number == site.number) = [] := by
    rw [List.filter_eq_nil_iff]
    intro other present
    rw [beq_iff_eq]
    intro same
    exact notAfter (same ▸ List.mem_map_of_mem present)
  rw [split, List.filter_append, List.filter_cons, nothingBefore, nothingAfter, beq_self_eq_true]
  rfl

/-- A walk records what it finds at the sites that it reaches. -/
theorem recordedAt_eq_flatMap
    (reads : classifier.ReadsLocally tree sound)
    (site : Site) :
    classifier.recordedAt tree site =
      ((classifier.reached tree).filter fun other => other.number == site.number).flatMap
        (classifier.evidence tree.source) := by
  rw [recordedAt, reads.transcript_eq, List.filter_map, List.flatMap_map]
  rfl

theorem recordedAt_of_mem_reached
    (reads : classifier.ReadsLocally tree sound)
    {site : Site}
    (visited : site ∈ classifier.reached tree) :
    classifier.recordedAt tree site = classifier.evidence tree.source site := by
  rw [reads.recordedAt_eq_flatMap, filter_number_reached visited, List.flatMap_singleton]

theorem recordedAt_of_not_mem_reached
    (reads : classifier.ReadsLocally tree sound)
    {site : Site}
    (inside : site ∈ tree.site.subtree)
    (missed : site ∉ classifier.reached tree) :
    classifier.recordedAt tree site = [] := by
  have nothing :
      ((classifier.reached tree).filter fun other => other.number == site.number) = [] := by
    rw [List.filter_eq_nil_iff]
    intro other visited
    rw [beq_iff_eq]
    intro same
    obtain rfl := Tree.site_eq_of_number_eq (mem_subtree_of_mem_reached visited) inside same
    exact missed visited
  rw [reads.recordedAt_eq_flatMap, nothing, List.flatMap_nil]

/-! ## Walks that are kept away by the kinds of nodes -/

/-- A walk that goes on below all named nodes but those of some kinds reaches the named nodes
outside of them. -/
theorem mem_reached_iff_isOutside
    {kinds : List Kind}
    (prunes : ∀ outer, classifier.descent tree.source outer =
      if outer.kind ∈ kinds then .skip else .enter)
    {site : Site}
    (inside : site ∈ tree.site.subtree) :
    site ∈ classifier.reached tree ↔
      site.node.isNamed = true ∧ site.IsOutside kinds := by
  rw [mem_reached_iff inside]
  refine and_congr_right fun _ => forall₃_congr fun outer _ _ => ?_
  rw [prunes outer]
  by_cases pruned : outer.kind ∈ kinds <;> simp [pruned]

/-- A walk records what is observed at each site, if nothing is observed at sites that it does not
reach. -/
theorem recordedAt_eq
    (reads : classifier.ReadsLocally tree sound)
    {observed : Site → List (Observation δ)}
    (evident : ∀ site ∈ classifier.reached tree,
      classifier.evidence tree.source site = observed site)
    {site : Site}
    (inside : site ∈ tree.site.subtree)
    (silent : site ∉ classifier.reached tree → observed site = []) :
    classifier.recordedAt tree site = observed site := by
  by_cases visited : site ∈ classifier.reached tree
  · rw [reads.recordedAt_of_mem_reached visited, evident site visited]
  · rw [reads.recordedAt_of_not_mem_reached inside visited, silent visited]

/-- The outcome of a tree judges the items at the reached sites by their observations. -/
theorem judges_outcome
    (reads : classifier.ReadsLocally tree sound)
    {α : Type}
    {itemsAt : Site → List α}
    {observe : α → Observation δ}
    (evident : ∀ site ∈ classifier.reached tree,
      classifier.evidence tree.source site = (itemsAt site).map observe) :
    (classifier.outcome tree).verdict.Judges
      (fun item => ∃ site ∈ classifier.reached tree, item ∈ itemsAt site)
      (fun item => (observe item).signal = .yes) := by
  have recorded : (classifier.reached tree).flatMap (classifier.evidence tree.source) =
      ((classifier.reached tree).flatMap itemsAt).map observe := by
    rw [List.map_flatMap]
    exact List.flatMap_congr evident
  have judged := Verdict.judges_join_map ((classifier.reached tree).flatMap itemsAt) observe
  simp only [List.mem_flatMap] at judged
  rw [outcome, reads.tally_walk, Tally.verdict_outcome_recordAll_empty, recorded]
  exact judged

end ReadsLocally
end Classifier
end HouseStyle
