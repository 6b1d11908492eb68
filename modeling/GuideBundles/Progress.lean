/-
# `Progress` — what a batch says while it runs

A batch goes through two phases, tells of each document when it is done with it, and at the end
gives a report with the counts.
-/
import GuideBundles.Text.Basic

namespace GuideBundles

/-- What happened to a document. -/
inductive Outcome where
  /-- A new bundle was written. -/
  | converted
  /-- The bundle was already there. -/
  | skipped
deriving DecidableEq

/-- The counts of a batch. -/
structure Report where
  /-- Number of documents. -/
  seen : Nat
  converted : Nat
  skipped : Nat
  sectionMapEntries : Nat
deriving DecidableEq

/-- The phases of a batch. -/
inductive Phase where
  | loadingSections
  | convertingDocuments
deriving DecidableEq

/-- What a phase is called. -/
def Phase.title : Phase → Text
  | loadingSections => Text.ofString "Loading section map"
  | convertingDocuments => Text.ofString "Converting documents"

/-- What a batch tells. -/
inductive Event where
  | phase (p : Phase)
  /-- A document is done: the name of its bundle, its number, and the number of all documents. -/
  | document (name : Text) (outcome : Outcome) (current total : Nat)
  | done (report : Report)
deriving DecidableEq

end GuideBundles
