import HouseStyle.Syntax.Tree
import HouseStyle.Tally

/-!
# Classifiers

A classifier reads one convention off a syntax tree.  It is offered the named
nodes in document order; at each it makes observations and says whether the
walk goes on below.  Between nodes it keeps working memory, which must not
show in its observations.
-/

namespace HouseStyle

open Syntax

/-- Working memory that can be used again after it has been reset. -/
class Scratch (σ : Type) where
  /-- Memory that has never been used. -/
  fresh : σ
  /-- Clears used memory. -/
  reset : σ → σ
  /-- Cleared memory is as good as new. -/
  reset_eq_fresh : ∀ memory, reset memory = fresh

/-- What a classifier does at one node. -/
structure Visit (δ σ : Type) where
  /-- The evidence found at the node. -/
  observations : List (Observation δ)
  /-- Whether the walk goes on below the node. -/
  descent : Descent
  /-- The working memory afterwards. -/
  scratch : σ

/-- A rule that reads one convention off a tree, node by node. -/
structure Classifier (δ σ : Type) where
  /-- The stable name of the classifier. -/
  name : String
  /-- What the classifier does at a node of a document with a given source text. -/
  visit : String → Site → σ → Visit δ σ

/-- How far a walk has come: the evidence so far and the working memory. -/
structure Progress (δ σ : Type) where
  /-- The evidence so far. -/
  tally : Tally δ
  /-- The working memory. -/
  scratch : σ

/-- What happened at one node that was offered to a classifier. -/
structure Offer (δ : Type) where
  /-- The node. -/
  node : Node
  /-- The evidence found there. -/
  observations : List (Observation δ)
  /-- Whether the walk went on below the node. -/
  descent : Descent

namespace Classifier

variable {δ σ : Type}

/-- Offers one node to the classifier and takes in what it finds. -/
def offer
    (classifier : Classifier δ σ)
    (source : String)
    (site : Site)
    (progress : Progress δ σ) : Progress δ σ × Descent :=
  let visit := classifier.visit source site progress.scratch
  (⟨progress.tally.recordAll visit.observations, visit.scratch⟩, visit.descent)

/-- Walks over a tree, adding to the evidence so far. -/
def walk
    (classifier : Classifier δ σ)
    (tree : Tree)
    (progress : Progress δ σ) : Progress δ σ :=
  tree.site.walkFrom (Site.onNamed (classifier.offer tree.source)) progress

/-- Offers one node and writes down what happened. -/
def note
    (classifier : Classifier δ σ)
    (source : String)
    (site : Site)
    (state : List (Offer δ) × σ) : (List (Offer δ) × σ) × Descent :=
  let visit := classifier.visit source site state.2
  ((⟨site.node, visit.observations, visit.descent⟩ :: state.1, visit.scratch), visit.descent)

/-- Everything that happens on a walk over a tree with fresh working memory, in order. -/
def transcript
    [Scratch σ]
    (classifier : Classifier δ σ)
    (tree : Tree) : List (Offer δ) :=
  (tree.site.walkFrom (Site.onNamed (classifier.note tree.source)) ([], Scratch.fresh)).1.reverse

/-- What a tree says about the convention, on its own. -/
def outcome
    [Scratch σ]
    (classifier : Classifier δ σ)
    (tree : Tree) : Outcome δ :=
  (classifier.walk tree ⟨Tally.empty, Scratch.fresh⟩).tally.outcome

end Classifier
end HouseStyle
