/-
# `Proofs.Conversion.Rerun` — a batch that is run again changes nothing

When a batch has gone through, all its documents are done.  Run again, it finds the same documents
and skips every one of them, and the disk stays exactly as it is.  That holds any number of times,
and also when what is in the files of the bundles has been changed by hand.

That is so without links.  A symbolic link in the place of a bundle could lead into the staging
directory of a later document: it is a bundle for the first run, and none for the second.
-/
import GuideBundles.Proofs.Conversion.Batch

namespace GuideBundles.Conversion

variable {s : Settings} {dir p : Path} {d d₀ d' m m' : Disk} {r : Report}

/-! ## Batches whose documents are done -/

/-- Where the documents of a batch are done and the output directory has only grown, the batch skips
all of them and changes nothing. -/
theorem rerun_of_grown {opened : Opened} (hup : .up ∉ s.outputDir.steps) (hout : Outside d s dir)
    (hopen : (openBatch s dir).Ends d (.ok opened) d₀) (hgrown : Grown s d₀ m)
    (hdone : ∀ p ∈ opened.documents, Done s m p) : ∃ r,
      (convertDirectory s dir).Ends m (.ok r) m ∧ r.seen = opened.documents.length ∧
        r.skipped = opened.documents.length ∧ r.converted = 0 := by
  obtain ⟨sections, hagain⟩ := ends_openBatch_again hup hout hopen hgrown
  obtain ⟨events, hrun, -⟩ :=
    run_convertAll_of_done 0 opened.documents.length hdone
  have hall : (convertAll s 0 opened.documents.length opened.documents).Ends m
      (.ok (List.replicate opened.documents.length .skipped)) m := by
    rw [Script.Ends, hrun]
    exact ⟨rfl, rfl⟩
  have hskipped : (List.replicate opened.documents.length Outcome.skipped).count .skipped
      = opened.documents.length := List.count_replicate_self
  have hconverted : (List.replicate opened.documents.length Outcome.skipped).count .converted
      = 0 := List.count_replicate
  exact ⟨_, ends_convertDirectory.2 ⟨_, m, _, hagain, hall, rfl⟩, rfl, hskipped, hconverted⟩

/-! ## What can happen in between -/

/-- What is in files of the output directory was changed by hand, and nothing else. -/
structure Edited (s : Settings) (d d' : Disk) : Prop where
  here : d'.here = d.here
  outside : ∀ k, (∀ n rest, k ≠ d.locate s.outputDir ++ n :: rest) → d'.get? k = d.get? k
  inside : ∀ k, d'.kind? k = d.kind? k

theorem Edited.grown (h : Edited s d d') : Grown s d d' :=
  ⟨h.here, fun k hk => .inl (h.outside k hk), fun _ _ _ _ hb => (h.inside _).trans hb⟩

/-- The disks after a batch, when files are changed by hand and the batch is run again, in any order
and any number of times. -/
inductive Later (s : Settings) (dir : Path) (d : Disk) : Disk → Prop
  | now : Later s dir d d
  | edited {m m' : Disk} (h : Later s dir d m) (hedit : Edited s m m') : Later s dir d m'
  | again {m : Disk} (h : Later s dir d m) : Later s dir d ((convertDirectory s dir).run m).disk

/-- After a batch that went through, the same batch goes through at any later time: it skips all
documents and leaves the disk exactly as it is.  The documents may not be hidden files, and their
directory has to be outside the output directory. -/
theorem rerun_changes_nothing (hsnippet : '/' ∉ s.emit.snippetExtension)
    (hcommand : '/' ∉ s.emit.commandExtension) (hup : .up ∉ s.outputDir.parts)
    (hout : Outside d s dir) (hnames : ∀ n ∈ documentNames d s dir, n.head? ≠ some '.')
    (hrun : (convertDirectory s dir).Ends d (.ok r) d') (hlater : Later s dir d' m) :
    ∃ r', (convertDirectory s dir).Ends m (.ok r') m ∧ r'.seen = r.seen ∧ r'.skipped = r.seen ∧
      r'.converted = 0 := by
  have hup' := Path.up_not_mem_steps hup
  obtain ⟨opened, d₀, os, hopen, hall, rfl⟩ := ends_convertDirectory.1 hrun
  obtain ⟨hs, -⟩ := ends_openBatch.1 hopen
  obtain ⟨-, hvisible⟩ := visible_of_openBatch hup' hout hnames hopen
  obtain ⟨hgrown, hdone⟩ := grown_of_convertAll hs hsnippet hcommand hup' hvisible hall
  -- All that happens later leaves the output directory at least as it is.
  have hrerun {m : Disk} (hm : Grown s d' m) :=
    rerun_of_grown hup' hout hopen (hgrown.trans hm)
      fun p hp => hm.done hup' (hvisible p hp) (hdone p hp)
  have hlater' : Grown s d' m := by
    induction hlater with
    | now => exact Grown.refl s d'
    | edited _ hedit ih => exact ih.trans hedit.grown
    | again _ ih =>
      obtain ⟨r', hagain, -⟩ := hrerun ih
      rw [hagain.2]
      exact ih
  exact hrerun hlater'

/-- A batch of two documents that is run again, and once more. -/
theorem rerun_changes_nothing_pair :
    let s : Settings := { outputDir := Path.ofString "o" }
    let dir := Path.ofString "d"
    ∃ r d' r', (convertDirectory s dir).Ends pair (.ok r) d' ∧ r.seen = 2 ∧
      (convertDirectory s dir).Ends ((convertDirectory s dir).run d').disk (.ok r')
        ((convertDirectory s dir).run d').disk ∧
      r'.seen = r.seen ∧ r'.skipped = r.seen ∧ r'.converted = 0 := by
  intro s dir
  have hrun := ends_convertDirectory_of_result [.converted, .converted] ends_openBatch_pair
    (by decide +kernel)
  have hnames : ∀ n ∈ documentNames pair s dir, n.head? ≠ some '.' := by
    rw [documentNames_pair]
    decide
  have hout : Outside pair s dir := (outside_iff_of_not_up (by decide)).2 (by decide +kernel)
  obtain ⟨r', hagain, hseen⟩ := rerun_changes_nothing (by decide) (by decide) (by decide) hout
    hnames hrun (.again .now)
  exact ⟨_, _, r', hrun, rfl, hagain, hseen⟩

/-- A path to the directory of documents that goes up out of a staging directory leads nowhere when
the batch is run again. -/
theorem rerun_fails_through_staging :
    let s : Settings := { outputDir := Path.ofString "o" }
    let dir := Path.ofString "o/.a.partial/../../d"
    s.validate = .ok () ∧
      Disk.isUnder (winding.locate s.outputDir) (winding.locate dir) = false ∧
      (∀ n ∈ documentNames winding s dir, n.head? ≠ some '.') ∧
      ∃ r d', (convertDirectory s dir).Ends winding (.ok r) d' ∧
        ((convertDirectory s dir).run d').result = .error (.inputNotFound dir) := by
  intro s dir
  have hnames : ∀ n ∈ documentNames winding s dir, n.head? ≠ some '.' := by
    rw [documentNames_winding]
    decide
  have hrun := ends_convertDirectory_of_result [.converted, .skipped] ends_openBatch_winding
    (by decide +kernel)
  exact ⟨rfl, by decide +kernel, hnames, _, _, hrun, by decide +kernel⟩

end GuideBundles.Conversion
