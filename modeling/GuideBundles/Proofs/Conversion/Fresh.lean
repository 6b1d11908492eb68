/-
# `Proofs.Conversion.Fresh` — a batch into a new output directory skips nothing

A document is skipped when something is found by the path of its bundle.  In an output directory
that was not there before, nothing but the bundles of earlier documents can be found, and these have
other names.  Yet two kinds of paths lead to directories that the batch itself has made: an
identifier of one or two dots names the output directory or the one above, and an output directory
whose path goes up again is made together with the directories that the path leads through.  Links
would be a third kind; a disk here has none.
-/
import GuideBundles.Proofs.Conversion.Batch

namespace GuideBundles.Conversion

variable {s : Settings} {dir p : Path} {id : ExampleId} {d d₀ d' : Disk} {n : Text}

/-! ## Identifiers of dots -/

/-- Whether the identifier of a document is one or two dots, which name no entry of a directory. -/
def isDotted (p : Path) : Bool := p.stem? == some ['.'] || p.stem? == some ['.', '.']

theorem isDotted_eq_false_iff (hid : ExampleId.ofPath p = .ok id) :
    isDotted p = false ↔ id.text ≠ ['.'] ∧ id.text ≠ ['.', '.'] := by
  simp [isDotted, ExampleId.stem?_of_ofPath hid]

/-! ## One turn -/

/-- What a conversion has put together had a name of its own to get, and its staging directory is
gone. -/
theorem get?_stagingAt_of_convertNew {o : Outcome} (hid : ExampleId.ofPath p = .ok id)
    (hsnippet : '/' ∉ s.emit.snippetExtension) (hcommand : '/' ∉ s.emit.commandExtension)
    (hup : .up ∉ s.outputDir.steps) (h : (convertNew s p id).Ends d (.ok o) d') :
    (id.text ≠ ['.'] ∧ id.text ≠ ['.', '.']) ∧ d'.get? (stagingAt d s id) = none := by
  obtain ⟨hid₀, hslash⟩ := ExampleId.name_of_ofPath hid
  refine ⟨ne_dots_of_convertNew hid₀ hslash h, ?_⟩
  rw [convertNew_eq] at h
  obtain ⟨written, m, hstage, h⟩ := Script.ends_bind_ok.1 h
  obtain ⟨rfl, -, hrename⟩ := ends_finish h
  obtain ⟨text, base, xs, -, hempty, -, hfull⟩ := ends_stage hslash hsnippet hcommand hup hstage
  have hhere : m.here = d.here := hfull.here.trans hempty.here
  have hdir := hfull.holds.directory
  rw [← Disk.locate_congr hfull.here, locate_stagingDir m s hslash] at hdir
  obtain ⟨-, -, -, hmoved⟩ := moved_of_rename hid₀ hslash hdir hrename
  have hgone := (hmoved []).2
  rwa [List.append_nil, stagingAt, Disk.locate_congr hhere, ← stagingAt] at hgone

/-- In its own turn, a document whose place is free is skipped only for an identifier of dots. -/
theorem outcome_of_free {o : Outcome} (hid : ExampleId.ofPath p = .ok id)
    (hsnippet : '/' ∉ s.emit.snippetExtension) (hcommand : '/' ∉ s.emit.commandExtension)
    (hup : .up ∉ s.outputDir.steps) (hfree : d.get? (bundleAt d s id) = none)
    (h : (convertDocument s p).Ends d (.ok o) d') :
    o = if isDotted p then .skipped else .converted := by
  obtain ⟨hid₀, hslash⟩ := ExampleId.name_of_ofPath hid
  obtain ⟨id', hid', ⟨hpresent, rfl, -⟩ | ⟨-, rfl, hnew⟩⟩ := ends_convertDocument h
  · obtain rfl := Except.ok.inj (hid'.symm.trans hid)
    cases hdots : isDotted p with
    | true => rfl
    | false =>
      obtain ⟨h₁, h₂⟩ := (isDotted_eq_false_iff hid).1 hdots
      obtain ⟨e, he, -⟩ := flaw?_of_isPresent hpresent
      rw [locate_bundleDir d s hid₀ hslash h₁ h₂, hfree] at he
      cases he
  · obtain rfl := Except.ok.inj (hid'.symm.trans hid)
    obtain ⟨hdots, -⟩ := get?_stagingAt_of_convertNew hid hsnippet hcommand hup hnew
    rw [(isDotted_eq_false_iff hid).2 hdots]
    rfl

/-- A turn leaves every free name free but the one of its own bundle: the name of its staging
directory was taken, and is free again. -/
theorem free_of_convertDocument {o : Outcome} (hid : ExampleId.ofPath p = .ok id)
    (hsnippet : '/' ∉ s.emit.snippetExtension) (hcommand : '/' ∉ s.emit.commandExtension)
    (hup : .up ∉ s.outputDir.steps) (hne : n ≠ id.text)
    (hfree : d.get? (d.locate s.outputDir ++ [n]) = none)
    (h : (convertDocument s p).Ends d (.ok o) d') :
    d'.here = d.here ∧ d'.get? (d'.locate s.outputDir ++ [n]) = none := by
  obtain ⟨id', hid', ⟨-, -, rfl⟩ | ⟨-, -, hnew⟩⟩ := ends_convertDocument h
  · exact ⟨rfl, hfree⟩
  · obtain rfl := Except.ok.inj (hid'.symm.trans hid)
    obtain ⟨hid₀, hslash⟩ := ExampleId.name_of_ofPath hid
    have honly := only_convertNew (Q := fun _ => False) p hslash hsnippet hcommand
    obtain ⟨hconf, -⟩ := confined_of_only_converts hid₀ hslash hup honly d
    rw [hnew.2] at hconf
    refine ⟨hconf.here, ?_⟩
    rw [Disk.locate_congr hconf.here]
    by_cases hstaging : n = stagingName id'
    · subst hstaging
      exact (get?_stagingAt_of_convertNew hid hsnippet hcommand hup hnew).2
    · rw [get?_eq_of_confined hconf hne hstaging]
      exact hfree

/-! ## All turns -/

/-- The identifiers of two documents, if both have one, differ. -/
def Distinct (p q : Path) : Prop :=
  ∀ a b, ExampleId.ofPath p = .ok a → ExampleId.ofPath q = .ok b → a.text ≠ b.text

/-- The place of the bundle of a document is free. -/
def Free (s : Settings) (d : Disk) (p : Path) : Prop :=
  ∀ id, ExampleId.ofPath p = .ok id → d.get? (bundleAt d s id) = none

/-- When the places of all bundles are free, the turn of each document finds its own still free. -/
theorem outcomes_of_free {ps : List Path} {os : List Outcome} {current total : Nat}
    (hsnippet : '/' ∉ s.emit.snippetExtension) (hcommand : '/' ∉ s.emit.commandExtension)
    (hup : .up ∉ s.outputDir.steps) (hdistinct : ps.Pairwise Distinct)
    (hfree : ∀ p ∈ ps, Free s d p) (h : (convertAll s current total ps).Ends d (.ok os) d') :
    os = ps.map fun p => if isDotted p then .skipped else .converted := by
  induction ps generalizing d os current with
  | nil =>
    obtain ⟨hos, -⟩ := Script.ends_pure.1 h
    exact (Except.ok.inj hos).symm
  | cons p rest ih =>
    obtain ⟨o, m, hfirst, h⟩ := Script.ends_bind_ok.1 h
    obtain ⟨⟨⟩, m', hsay, h⟩ := Script.ends_bind_ok.1 h
    obtain ⟨os', m'', hrest, h⟩ := Script.ends_bind_ok.1 h
    obtain ⟨hos, rfl⟩ := Script.ends_pure.1 h
    obtain rfl := Except.ok.inj hos
    obtain ⟨-, rfl⟩ := hsay
    obtain ⟨id, hid, -⟩ := ends_convertDocument hfirst
    obtain ⟨hne, hdistinct⟩ := List.pairwise_cons.1 hdistinct
    have ho := outcome_of_free hid hsnippet hcommand hup (hfree p List.mem_cons_self id hid) hfirst
    have hfree' : ∀ q ∈ rest, Free s m q := by
      intro q hq b hb
      exact (free_of_convertDocument hid hsnippet hcommand hup (hne q hq id b hid hb).symm
        (hfree q (List.mem_cons_of_mem _ hq) b hb) hfirst).2
    rw [List.map_cons, ← ho, ih hdistinct hfree' hrest]

theorem pairwise_distinct_documents (d : Disk) (s : Settings) (dir : Path) :
    (documents d s dir).Pairwise Distinct := by
  refine (nodup_documents d s dir).imp_of_mem ?_
  intro p q hp hq hne a b ha hb
  exact text_ne_of_mem_documents hp hq hne ha hb

/-! ## A new output directory -/

/-- Where the path of the output directory leads there is nothing, if nothing is found by that path
and the directory can be made. -/
theorem get?_of_absent (hup : .up ∉ s.outputDir.steps) (hne : s.outputDir.spelling ≠ [])
    (habsent : d.isPresent s.outputDir = false)
    (hmade : d.makeDirs s.outputDir.ancestors = (.ok (), d')) :
    d.get? (d.locate s.outputDir) = none := by
  have hreaches := Disk.reaches_of_makeDirs_ancestors hne (congrArg Prod.fst hmade)
  refine Option.eq_none_iff_forall_ne_some.2 ?_
  intro e he
  cases e with
  | directory =>
    rw [Disk.isPresent, Disk.find_of_get? hreaches.1 hup he] at habsent
    cases habsent
  | file data =>
    -- A file stays one, and then the directory was not made.
    have hpaved := Disk.paved_makeDirs_ancestors d hup
    rcases hpaved.get? (d.locate s.outputDir) with hsame | ⟨-, hnone, -⟩
    · have hdir := hreaches.2
      rw [Disk.locate_congr hpaved.here, hsame, he] at hdir
      cases hdir
    · rw [he] at hnone
      cases hnone

/-- A directory that is there lies outside an output directory that is not. -/
theorem outside_of_get?_eq_none (hnone : d.get? (d.locate s.outputDir) = none)
    (hdir : d.isDirectory dir = true) : Outside d s dir := by
  have hfound := Disk.isDirectory_iff.1 hdir
  have houtside : ∀ k ∈ d.way dir, Disk.isUnder (d.locate s.outputDir) k = false := by
    intro k hk
    obtain ⟨e, he⟩ := Disk.get?_of_mem_way hfound hk
    rw [Bool.eq_false_iff]
    intro hu
    obtain ⟨rest, rfl⟩ := Disk.isUnder_iff.1 hu
    cases rest with
    | nil =>
      rw [List.append_nil, hnone] at he
      cases he
    | cons n rest =>
      rw [Disk.get?_below_eq_none (by simp [hnone])] at he
      cases he
  refine ⟨houtside _ (d.locate_mem_way dir), ?_⟩
  intro k hk id
  rw [Bool.eq_false_iff]
  intro hu
  have hin := Disk.isUnder_trans (Disk.isUnder_append _ [stagingName id]) hu
  rw [houtside k hk] at hin
  cases hin

/-- In an output directory that was just made all places are free. -/
theorem free_of_openBatch {opened : Opened} (hup : .up ∉ s.outputDir.steps)
    (hnone : d.get? (d.locate s.outputDir) = none) (h : (openBatch s dir).Ends d (.ok opened) d₀)
    (p : Path) : Free s d₀ p := by
  intro id hid
  obtain ⟨-, -, hmade, -, -⟩ := ends_openBatch.1 h
  have hpaved := Disk.paved_makeDirs_ancestors d hup
  rw [hmade] at hpaved
  rw [bundleAt, Disk.locate_congr hpaved.here]
  rcases hpaved.get? (d.locate s.outputDir ++ [id.text]) with hsame | ⟨hu, -, -⟩
  · rw [hsame]
    exact Disk.get?_below_eq_none (by simp [hnone]) _ _
  · rw [Disk.not_isUnder_above] at hu
    cases hu

/-- As many of the documents are skipped as have an identifier of dots, and the others are
converted. -/
theorem count_outcomes_of_free (ps : List Path) :
    let os := ps.map fun p => if isDotted p then Outcome.skipped else .converted
    os.count .skipped = ps.countP isDotted ∧
      os.count .converted = ps.countP fun p => !isDotted p := by
  intro os
  constructor
  · rw [List.count, List.countP_map]
    refine List.countP_congr fun p _ => ?_
    cases h : isDotted p <;> simp [h]
  · rw [List.count, List.countP_map]
    refine List.countP_congr fun p _ => ?_
    cases h : isDotted p <;> simp [h]

/-- A batch that goes through, and whose output directory was not there before, converts all its
documents, but skips each one whose identifier is one or two dots.  The path of the output directory
does not go up again, and it is not the empty one, which means the working directory. -/
theorem all_converted_of_fresh {r : Report} (hsnippet : '/' ∉ s.emit.snippetExtension)
    (hcommand : '/' ∉ s.emit.commandExtension) (hup : .up ∉ s.outputDir.parts)
    (hne : s.outputDir.spelling ≠ []) (hfresh : d.isPresent s.outputDir = false)
    (h : (convertDirectory s dir).Ends d (.ok r) d') :
    r.seen = (documents d s dir).length ∧ r.skipped = (documents d s dir).countP isDotted ∧
      r.converted = (documents d s dir).countP (fun p => !isDotted p) ∧
      ((∀ p ∈ documents d s dir, isDotted p = false) → r.skipped = 0 ∧ r.converted = r.seen) := by
  have hup' := Path.up_not_mem_steps hup
  obtain ⟨opened, d₀, os, hopen, hall, rfl⟩ := ends_convertDirectory.1 h
  obtain ⟨-, hdir, hmade, -, rfl⟩ := ends_openBatch.1 hopen
  have hnone := get?_of_absent hup' hne hfresh hmade
  have hsame : documents d₀ s dir = documents d s dir :=
    (grown_of_openBatch hup' hopen).documents_eq hdir (outside_of_get?_eq_none hnone hdir)
  obtain rfl := outcomes_of_free hsnippet hcommand hup' (pairwise_distinct_documents d₀ s dir)
    (fun p _ => free_of_openBatch hup' hnone hopen p) hall
  obtain ⟨hskipped, hconverted⟩ := count_outcomes_of_free (documents d₀ s dir)
  rw [hsame] at hskipped hconverted
  refine ⟨congrArg List.length hsame, ?_, ?_, ?_⟩
  · rw [Opened.report, hsame, hskipped]
  · rw [Opened.report, hsame, hconverted]
  · intro hdots
    simp only [Opened.report, hsame, hskipped, hconverted]
    exact ⟨List.countP_eq_zero.2 fun p hp => by simp [hdots p hp],
      List.countP_eq_length.2 fun p hp => by simp [hdots p hp]⟩

/-! ## Documents that are skipped -/

/-- A disk with two documents, one of which has a dot for an identifier. -/
def speckled : Disk := shelf [Text.ofString "b.md", Text.ofString "..md"]

theorem documents_speckled : documents speckled { outputDir := Path.ofString "o" }
    (Path.ofString "d") = [Path.ofString "d/..md", Path.ofString "d/b.md"] := by
  rw [documents, documentNames_of_pairwise (by decide +kernel)]
  decide +kernel

theorem ends_openBatch_speckled : (openBatch { outputDir := Path.ofString "o" }
    (Path.ofString "d")).Ends speckled
      (.ok ⟨SectionMap.empty, [Path.ofString "d/..md", Path.ofString "d/b.md"]⟩)
      (speckled.makeDirs (Path.ofString "o").ancestors).2 := by
  refine ends_openBatch_of_documents rfl (by decide +kernel) (by decide +kernel)
    (by decide +kernel) (by decide +kernel) ?_
  rw [documents, documentNames_of_pairwise (by decide +kernel)]
  decide +kernel

/-- Of the two documents, the one whose identifier is a dot is skipped. -/
theorem all_converted_of_fresh_speckled :
    let s : Settings := { outputDir := Path.ofString "o" }
    speckled.isPresent s.outputDir = false ∧ ∃ r d',
      (convertDirectory s (Path.ofString "d")).Ends speckled (.ok r) d' ∧
        r.seen = 2 ∧ r.skipped = 1 ∧ r.converted = 1 := by
  intro s
  have hfresh : speckled.isPresent s.outputDir = false := by decide +kernel
  have hrun := ends_convertDirectory_of_result [.skipped, .converted] ends_openBatch_speckled
    (by decide +kernel)
  obtain ⟨hseen, hskipped, hconverted, -⟩ := all_converted_of_fresh (by decide) (by decide)
    (by decide) (by decide) hfresh hrun
  rw [documents_speckled] at hseen hskipped hconverted
  exact ⟨hfresh, _, _, hrun, hseen, hskipped, hconverted⟩

/-- A document whose identifier is a dot is skipped although nothing was there before; and so is a
document whose bundle would have the name of a directory that the path of the output directory leads
through. -/
theorem skipped_of_fresh :
    let s : Settings := { outputDir := Path.ofString "o" }
    let s' : Settings := { outputDir := Path.ofString "o/b/.." }
    s.validate = .ok () ∧ speckled.isPresent s.outputDir = false ∧
      (∃ r d', (convertDirectory s (Path.ofString "d")).Ends speckled (.ok r) d' ∧
        r.skipped = 1) ∧
      s'.validate = .ok () ∧ pair.isPresent s'.outputDir = false ∧
      ∃ r d', (convertDirectory s' (Path.ofString "d")).Ends pair (.ok r) d' ∧ r.skipped = 1 := by
  intro s s'
  have hrun := ends_convertDirectory_of_result [.skipped, .converted] ends_openBatch_speckled
    (by decide +kernel)
  have hopen : (openBatch s' (Path.ofString "d")).Ends pair
      (.ok ⟨SectionMap.empty, [Path.ofString "d/a.md", Path.ofString "d/b.md"]⟩)
      (pair.makeDirs s'.outputDir.ancestors).2 := by
    refine ends_openBatch_of_documents rfl (by decide +kernel) (by decide +kernel)
      (by decide +kernel) (by decide +kernel) ?_
    rw [documents, documentNames_of_pairwise (by decide +kernel)]
    decide +kernel
  have hrun' := ends_convertDirectory_of_result [.converted, .skipped] hopen (by decide +kernel)
  exact ⟨rfl, by decide +kernel, ⟨_, _, hrun, rfl⟩, rfl, by decide +kernel, _, _, hrun', rfl⟩

end GuideBundles.Conversion
