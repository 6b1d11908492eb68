/-
# `Proofs.Conversion.Batch` — a batch goes through its documents

A batch loads the section map, makes the output directory and collects the documents, and then it
goes through them one by one.  Each document is done after its own turn, and what is done is
skipped, by this batch or by a later one.
-/
import GuideBundles.Proofs.Conversion.Grown

namespace GuideBundles.Conversion

variable {s : Settings} {dir p : Path} {id : ExampleId} {d d₀ d' : Disk}

/-! ## One document of a batch -/

/-- The bundle of a document is there. -/
def Done (s : Settings) (d : Disk) (p : Path) : Prop :=
  ∃ id, ExampleId.ofPath p = .ok id ∧ d.isPresent (bundleDir s id) = true

theorem run_convertDocument_of_done (h : Done s d p) :
    (convertDocument s p).run d = ⟨.ok .skipped, d, []⟩ := by
  obtain ⟨id, hid, hpresent⟩ := h
  rw [convertDocument_eq hid]
  show (if d.isPresent (bundleDir s id) then pure .skipped else convertNew s p id).run d = _
  rw [hpresent, if_pos rfl]
  rfl

/-- A document is done after its own turn. -/
theorem done_of_convertDocument {o : Outcome} (hs : s.validate = .ok ())
    (hsnippet : '/' ∉ s.emit.snippetExtension) (hcommand : '/' ∉ s.emit.commandExtension)
    (hup : .up ∉ s.outputDir.steps) (h : (convertDocument s p).Ends d (.ok o) d') :
    Done s d' p := by
  obtain ⟨id, hid, ⟨hpresent, -, rfl⟩ | ⟨-, -, hnew⟩⟩ := ends_convertDocument h
  · exact ⟨id, hid, hpresent⟩
  · obtain ⟨hid₀, hslash⟩ := ExampleId.name_of_ofPath hid
    obtain ⟨text, base, -, -, -, hwhole⟩ :=
      ends_convertNew hid₀ hslash hs hsnippet hcommand hup hnew
    refine ⟨id, hid, ?_⟩
    rw [Disk.isPresent, hwhole.1]

/-- What is done stays done. -/
theorem Grown.done (h : Grown s d d') (hup : .up ∉ s.outputDir.steps) (hvisible : Visible p)
    (hdone : Done s d p) : Done s d' p := by
  obtain ⟨id, hid, hpresent⟩ := hdone
  obtain ⟨hid₀, hslash⟩ := ExampleId.name_of_ofPath hid
  obtain ⟨h₁, h₂⟩ := ne_dots_of_head? (hvisible id hid)
  obtain ⟨e, he, hflaw⟩ := flaw?_of_isPresent hpresent
  rw [locate_bundleDir d s hid₀ hslash h₁ h₂] at he
  have hkind : d.kind? (bundleAt d s id) = some e.isDirectory := by
    rw [Disk.kind?, he, Option.map_some]
  have hkept := h.inside id.text [] _ (ne_stagingName_of_head? (hvisible id hid)) hkind
  obtain ⟨e', he', -⟩ := Option.map_eq_some_iff.1 hkept
  refine ⟨id, hid, isPresent_bundleDir hid₀ hslash h₁ h₂ hup hflaw (e := e') ?_⟩
  rw [bundleAt, Disk.locate_congr h.here]
  exact he'

/-- Nothing lies where the bundle of a document is put that was converted. -/
theorem get?_bundleAt_of_convertNew (hs : s.validate = .ok ())
    (hsnippet : '/' ∉ s.emit.snippetExtension) (hcommand : '/' ∉ s.emit.commandExtension)
    (hup : .up ∉ s.outputDir.steps) (hvisible : Visible p) (hid : ExampleId.ofPath p = .ok id)
    (habsent : d.isPresent (bundleDir s id) = false)
    (h : (convertNew s p id).Ends d (.ok .converted) d') : d.get? (bundleAt d s id) = none := by
  obtain ⟨hid₀, hslash⟩ := ExampleId.name_of_ofPath hid
  obtain ⟨h₁, h₂⟩ := ne_dots_of_head? (hvisible id hid)
  obtain ⟨text, base, -, -, -, hwhole⟩ := ends_convertNew hid₀ hslash hs hsnippet hcommand hup h
  refine Option.eq_none_iff_forall_ne_some.2 ?_
  intro e he
  have hflaw := Disk.flaw?_of_find_ok hwhole.1
  rw [isPresent_bundleDir hid₀ hslash h₁ h₂ hup hflaw he] at habsent
  cases habsent

/-- The turn of a document takes nothing away but a staging directory. -/
theorem grown_of_convertDocument {o : Outcome} (hs : s.validate = .ok ())
    (hsnippet : '/' ∉ s.emit.snippetExtension) (hcommand : '/' ∉ s.emit.commandExtension)
    (hup : .up ∉ s.outputDir.steps) (hvisible : Visible p)
    (h : (convertDocument s p).Ends d (.ok o) d') : Grown s d d' := by
  obtain ⟨id, hid, ⟨-, -, rfl⟩ | ⟨habsent, -, hnew⟩⟩ := ends_convertDocument h
  · exact Grown.refl s d'
  · obtain ⟨hid₀, hslash⟩ := ExampleId.name_of_ofPath hid
    have hfree := get?_bundleAt_of_convertNew hs hsnippet hcommand hup hvisible hid habsent hnew
    have honly := only_convertNew (Q := fun _ => False) p hslash hsnippet hcommand
    obtain ⟨hconf, -⟩ := confined_of_only_converts hid₀ hslash hup honly d
    rw [hnew.2] at hconf
    refine ⟨hconf.here, ?_, ?_⟩
    · intro k hk
      refine hconf.get? k ?_
      intro l hl
      rcases List.mem_cons.1 hl with rfl | hl
      · exact Disk.not_isUnder_child hk _
      · rw [List.mem_singleton.1 hl]
        exact Disk.not_isUnder_child hk _
    · intro n rest b hn hb
      by_cases hnid : n = id.text
      · -- Nothing was there.
        subst hnid
        have hnone : d.get? (d.locate s.outputDir ++ id.text :: rest) = none := by
          rw [List.append_cons]
          cases rest with
          | nil => rwa [List.append_nil]
          | cons m rest => exact Disk.get?_below_eq_none (by rw [← bundleAt, hfree]; simp) m rest
        rw [Disk.kind?_eq_none_iff.2 hnone] at hb
        cases hb
      · rw [Disk.kind?_congr (get?_eq_of_confined hconf hnid (hn id) rest)]
        exact hb

/-! ## All documents of a batch -/

/-- Documents that went through are done, and nothing was taken away but staging directories. -/
theorem grown_of_convertAll {ps : List Path} {os : List Outcome} {current total : Nat}
    (hs : s.validate = .ok ()) (hsnippet : '/' ∉ s.emit.snippetExtension)
    (hcommand : '/' ∉ s.emit.commandExtension) (hup : .up ∉ s.outputDir.steps)
    (hvisible : ∀ p ∈ ps, Visible p) (h : (convertAll s current total ps).Ends d (.ok os) d') :
    Grown s d d' ∧ ∀ p ∈ ps, Done s d' p := by
  induction ps generalizing d os current with
  | nil =>
    obtain ⟨-, rfl⟩ := Script.ends_pure.1 h
    exact ⟨Grown.refl s d, nofun⟩
  | cons p rest ih =>
    obtain ⟨o, m, hfirst, h⟩ := Script.ends_bind_ok.1 h
    obtain ⟨⟨⟩, m', hsay, h⟩ := Script.ends_bind_ok.1 h
    obtain ⟨os', m'', hrest, h⟩ := Script.ends_bind_ok.1 h
    obtain ⟨-, rfl⟩ := Script.ends_pure.1 h
    obtain ⟨-, rfl⟩ := hsay
    have hp := hvisible p List.mem_cons_self
    have hgrown := grown_of_convertDocument hs hsnippet hcommand hup hp hfirst
    have hdone := done_of_convertDocument hs hsnippet hcommand hup hfirst
    obtain ⟨hgrown', hdone'⟩ := ih (fun q hq => hvisible q (List.mem_cons_of_mem _ hq)) hrest
    refine ⟨hgrown.trans hgrown', ?_⟩
    intro q hq
    rcases List.mem_cons.1 hq with rfl | hq
    · exact hgrown'.done hup hp hdone
    · exact hdone' q hq

/-- Documents that are done are skipped, and the disk stays as it is. -/
theorem run_convertAll_of_done {ps : List Path} (current total : Nat)
    (h : ∀ p ∈ ps, Done s d p) : ∃ events, (convertAll s current total ps).run d
      = ⟨.ok (List.replicate ps.length .skipped), d, events⟩ ∧
        ∀ e ∈ events, ∃ name i, e = .document name .skipped i total := by
  induction ps generalizing current with
  | nil => exact ⟨[], rfl, nofun⟩
  | cons p rest ih =>
    obtain ⟨events, hrun, hevents⟩ :=
      ih (current + 1) fun q hq => h q (List.mem_cons_of_mem _ hq)
    have hfirst := run_convertDocument_of_done (h p List.mem_cons_self)
    refine ⟨.document (p.stem?.getD []) .skipped (current + 1) total :: events, ?_, ?_⟩
    · have hsay (e : Event) : (Script.say e).run d = ⟨.ok (), d, [e]⟩ := rfl
      simp only [convertAll, Script.run_bind, hfirst, hsay, hrun, Script.run_pure,
        Script.Ending.andThen]
      simp [List.replicate_succ]
    · intro e he
      rcases List.mem_cons.1 he with rfl | he
      · exact ⟨_, _, rfl⟩
      · exact hevents e he

/-! ## The parts of a batch -/

/-- What a batch works with. -/
structure Opened where
  sections : SectionMap
  documents : List Path

/-- What a batch does before the first document. -/
def openBatch (s : Settings) (dir : Path) : Script Opened := do
  Script.ofExcept s.validate
  if ← Script.request (.isDirectory dir) then
    Script.say (.phase .loadingSections)
    let sections ← SectionMap.load s.sectionsFile
    Script.createDirs s.outputDir
    Script.say (.phase .convertingDocuments)
    let documents ← collect s dir
    pure ⟨sections, documents⟩
  else .fail (.inputNotFound dir)

/-- What a batch reports after the last document. -/
def Opened.report (opened : Opened) (outcomes : List Outcome) : Report where
  seen := opened.documents.length
  converted := outcomes.count .converted
  skipped := outcomes.count .skipped
  sectionMapEntries := opened.sections.size

/-- What a batch does after the last document. -/
def closeBatch (opened : Opened) (outcomes : List Outcome) : Script Report := do
  Script.say (.done (opened.report outcomes))
  pure (opened.report outcomes)

theorem convertDirectory_eq (s : Settings) (dir : Path) : convertDirectory s dir = (do
    let opened ← openBatch s dir
    let outcomes ← convertAll s 0 opened.documents.length opened.documents
    closeBatch opened outcomes) := by
  rw [openBatch, bind_assoc, convertDirectory]
  refine bind_congr fun _ => ?_
  rw [bind_assoc]
  refine bind_congr fun found => ?_
  cases found with
  | false => rfl
  | true =>
    simp only [if_true, bind_assoc, pure_bind]
    rfl

/-! ### Before the first document -/

/-- The section map that a batch finds. -/
def sectionsAt (d : Disk) (p : Path) : SectionMap :=
  if d.isPresent p then
    match d.readText p with
    | .ok t => SectionMap.ofTextOrEmpty t
    | .error _ => SectionMap.empty
  else SectionMap.empty

theorem run_load (d : Disk) (p : Path) :
    (SectionMap.load p).run d = ⟨.ok (sectionsAt d p), d, []⟩ := by
  show (if d.isPresent p then _ else _ : Script SectionMap).run d = _
  unfold sectionsAt
  split
  · rw [Script.run_bind]
    show Script.Ending.andThen ⟨.ok (d.readText p), d, []⟩ _ = _
    cases d.readText p <;> rfl
  · rfl

theorem ends_load {p : Path} {m : SectionMap} :
    (SectionMap.load p).Ends d (.ok m) d' ↔ sectionsAt d p = m ∧ d = d' := by
  rw [Script.Ends, run_load, Except.ok.injEq]

/-- A batch opens when its settings are fit, its directory is there before and after the output
directory was made, and that could be made. -/
theorem ends_openBatch {opened : Opened} : (openBatch s dir).Ends d (.ok opened) d' ↔
    s.validate = .ok () ∧ d.isDirectory dir = true ∧
      d.makeDirs s.outputDir.ancestors = (.ok (), d') ∧ d'.isDirectory dir = true ∧
      opened = ⟨sectionsAt d s.sectionsFile, documents d' s dir⟩ := by
  constructor
  · intro h
    obtain ⟨⟨⟩, m, hvalid, h⟩ := Script.ends_bind_ok.1 h
    obtain ⟨hs, rfl⟩ := Script.ends_ofExcept.1 hvalid
    obtain ⟨found, m, hfound, h⟩ := Script.ends_bind_ok.1 h
    obtain ⟨rfl, rfl⟩ := Script.ends_isDirectory.1 hfound
    split at h
    · next hdir =>
      obtain ⟨⟨⟩, m, ⟨-, rfl⟩, h⟩ := Script.ends_bind_ok.1 h
      obtain ⟨sections, m, hload, h⟩ := Script.ends_bind_ok.1 h
      obtain ⟨rfl, rfl⟩ := ends_load.1 hload
      obtain ⟨⟨⟩, m, hcreate, h⟩ := Script.ends_bind_ok.1 h
      obtain ⟨⟨⟩, m', ⟨-, rfl⟩, h⟩ := Script.ends_bind_ok.1 h
      obtain ⟨ps, m', hcollect, h⟩ := Script.ends_bind_ok.1 h
      obtain ⟨hopened, rfl⟩ := Script.ends_pure.1 h
      obtain ⟨hfind, rfl, rfl⟩ := ends_collect.1 hcollect
      exact ⟨hs, hdir, Prod.ext_iff.2 (Script.ends_createDirs.1 hcreate),
        Disk.isDirectory_iff.2 hfind, (Except.ok.inj hopened).symm⟩
    · cases (Script.ends_fail.1 h).1
  · rintro ⟨hs, hdir, hcreate, hdir', rfl⟩
    refine Script.ends_bind_ok.2 ⟨(), d, Script.ends_ofExcept.2 ⟨hs, rfl⟩, ?_⟩
    refine Script.ends_bind_ok.2 ⟨_, d, Script.ends_isDirectory.2 ⟨hdir, rfl⟩, ?_⟩
    rw [if_pos rfl]
    refine Script.ends_bind_ok.2 ⟨(), d, ⟨rfl, rfl⟩, ?_⟩
    refine Script.ends_bind_ok.2 ⟨_, d, ends_load.2 ⟨rfl, rfl⟩, ?_⟩
    refine Script.ends_bind_ok.2 ⟨(), d', Script.ends_createDirs.2 (Prod.ext_iff.1 hcreate), ?_⟩
    refine Script.ends_bind_ok.2 ⟨(), d', ⟨rfl, rfl⟩, ?_⟩
    refine Script.ends_bind_ok.2 ⟨_, d', ends_collect.2 ⟨?_, rfl, rfl⟩, ?_⟩
    · exact Disk.isDirectory_iff.1 hdir'
    · exact Script.ends_pure.2 ⟨rfl, rfl⟩

/-- Without a file of sections, a batch opens with the empty section map. -/
theorem ends_openBatch_of_documents {ps : List Path} (hs : s.validate = .ok ())
    (hdir : d.isDirectory dir = true) (hcreate : (d.makeDirs s.outputDir.ancestors).1 = .ok ())
    (hdir' : (d.makeDirs s.outputDir.ancestors).2.isDirectory dir = true)
    (hsections : d.isPresent s.sectionsFile = false)
    (hps : documents (d.makeDirs s.outputDir.ancestors).2 s dir = ps) :
    (openBatch s dir).Ends d (.ok ⟨SectionMap.empty, ps⟩)
      (d.makeDirs s.outputDir.ancestors).2 := by
  refine ends_openBatch.2 ⟨hs, hdir, Prod.ext hcreate rfl, hdir', ?_⟩
  rw [hps, sectionsAt, hsections, if_neg (by simp)]

theorem only_keepFiles {Q : Event → Prop} (ps : List Path) :
    (keepFiles ps).Only (fun _ => True) Q := by
  induction ps with
  | nil => exact Script.only_pure []
  | cons p rest ih =>
    exact (Script.only_request trivial).bind fun _ => ih.bind fun _ => Script.only_pure _

theorem only_collect {Q : Event → Prop} (s : Settings) (dir : Path) :
    (collect s dir).Only (fun _ => True) Q :=
  (Script.only_list trivial).bind fun _ => only_keepFiles _

/-- Opening a batch tells only of its phases. -/
theorem only_openBatch (s : Settings) (dir : Path) :
    (openBatch s dir).Only (fun _ => True) fun e => ∃ phase, e = .phase phase := by
  refine (Script.only_ofExcept _).bind fun _ => ?_
  refine (Script.only_request trivial).bind fun found => ?_
  split
  · refine (Script.only_say ⟨_, rfl⟩).bind fun _ => ?_
    refine Script.Only.bind ?_ fun sections => ?_
    · refine (Script.only_request trivial).bind fun present => ?_
      split
      · refine (Script.only_request trivial).bind fun text => ?_
        split <;> exact Script.only_pure _
      · exact Script.only_pure _
    · refine (Script.only_createDirs trivial).bind fun _ => ?_
      refine (Script.only_say ⟨_, rfl⟩).bind fun _ => ?_
      refine Script.Only.bind ?_ fun _ => Script.only_pure _
      exact only_collect s dir
  · exact Script.only_fail _

/-- Opening a batch adds at most the output directory. -/
theorem grown_of_openBatch {opened : Opened} (hup : .up ∉ s.outputDir.steps)
    (h : (openBatch s dir).Ends d (.ok opened) d') : Grown s d d' := by
  obtain ⟨-, -, hcreate, -, -⟩ := ends_openBatch.1 h
  have hpaved := Disk.paved_makeDirs_ancestors d hup
  rw [hcreate] at hpaved
  refine ⟨hpaved.here, fun k _ => hpaved.get? k, ?_⟩
  intro n rest b _ hb
  rcases hpaved.get? (d.locate s.outputDir ++ n :: rest) with hsame | ⟨hu, -, -⟩
  · rw [Disk.kind?_congr hsame]
    exact hb
  · rw [Disk.not_isUnder_above] at hu
    cases hu

/-- The output directory that was made is there wherever it has only grown, and it need not be made
again. -/
theorem makeDirs_outputDir_of_grown {m : Disk} (hup : .up ∉ s.outputDir.steps)
    (hcreate : d.makeDirs s.outputDir.ancestors = (.ok (), d')) (h : Grown s d' m) :
    m.makeDirs s.outputDir.ancestors = (.ok (), m) := by
  obtain ⟨above, habove⟩ := s.outputDir.ancestors_eq_cons
  by_cases hp : s.outputDir.spelling = []
  · rw [habove, Disk.makeDirs, if_pos hp]
  · have hreaches := Disk.reaches_of_makeDirs_ancestors hp (congrArg Prod.fst hcreate)
    rw [hcreate] at hreaches
    obtain ⟨hflaw, hdir⟩ := hreaches
    have hdirm : m.get? (d'.locate s.outputDir) = some .directory := by
      rcases h.outside (d'.locate s.outputDir) (by simp) with hsame | ⟨-, -, hmade⟩
      · exact hsame.trans hdir
      · exact hmade
    rw [← Disk.locate_congr h.here] at hdirm
    rw [habove]
    exact Disk.makeDirs_of_find_ok (Disk.find_of_get? hflaw hup hdirm) above

/-- Once a batch has been opened, it opens again wherever the output directory has only grown, with
the same documents and without a change. -/
theorem ends_openBatch_again {opened : Opened} {m : Disk} (hup : .up ∉ s.outputDir.steps)
    (hout : Outside d s dir) (h : (openBatch s dir).Ends d (.ok opened) d')
    (hgrown : Grown s d' m) : ∃ sections,
      (openBatch s dir).Ends m (.ok ⟨sections, opened.documents⟩) m := by
  have hgrown' := grown_of_openBatch hup h
  obtain ⟨hs, hdir, hcreate, hdir', rfl⟩ := ends_openBatch.1 h
  have hout' : Outside d' s dir := hout.congr hgrown'.here
  have hdirm : m.isDirectory dir = true := hgrown.isDirectory_eq hdir' hout'
  have hcreatem := makeDirs_outputDir_of_grown hup hcreate hgrown
  refine ⟨sectionsAt m s.sectionsFile, ends_openBatch.2 ⟨hs, hdirm, hcreatem, hdirm, ?_⟩⟩
  rw [hgrown.documents_eq hdir' hout']

/-! ### After the last document -/

theorem ends_closeBatch {opened : Opened} {outcomes : List Outcome} {r : Report} :
    (closeBatch opened outcomes).Ends d (.ok r) d' ↔ opened.report outcomes = r ∧ d = d' := by
  rw [closeBatch, Script.ends_bind_ok]
  constructor
  · rintro ⟨⟨⟩, m, ⟨-, rfl⟩, h⟩
    obtain ⟨hr, rfl⟩ := Script.ends_pure.1 h
    exact ⟨Except.ok.inj hr, rfl⟩
  · rintro ⟨rfl, rfl⟩
    exact ⟨(), d, ⟨rfl, rfl⟩, Script.ends_pure.2 ⟨rfl, rfl⟩⟩

theorem only_closeBatch (opened : Opened) (outcomes : List Outcome) :
    (closeBatch opened outcomes).Only (fun _ => True) fun e => ∃ r, e = .done r :=
  (Script.only_say ⟨_, rfl⟩).bind fun _ => Script.only_pure _

/-! ### As a whole -/

/-- A batch goes through when it opens and all its documents go through. -/
theorem ends_convertDirectory {r : Report} : (convertDirectory s dir).Ends d (.ok r) d' ↔
    ∃ opened d₀ os, (openBatch s dir).Ends d (.ok opened) d₀ ∧
      (convertAll s 0 opened.documents.length opened.documents).Ends d₀ (.ok os) d' ∧
      opened.report os = r := by
  rw [convertDirectory_eq]
  constructor
  · intro h
    obtain ⟨opened, d₀, hopen, h⟩ := Script.ends_bind_ok.1 h
    obtain ⟨os, m, hall, hclose⟩ := Script.ends_bind_ok.1 h
    obtain ⟨hr, rfl⟩ := ends_closeBatch.1 hclose
    exact ⟨opened, d₀, os, hopen, hall, hr⟩
  · rintro ⟨opened, d₀, os, hopen, hall, hr⟩
    refine Script.ends_bind_ok.2 ⟨opened, d₀, hopen, ?_⟩
    exact Script.ends_bind_ok.2 ⟨os, d', hall, ends_closeBatch.2 ⟨hr, rfl⟩⟩

theorem ends_convertDirectory_of_result {opened : Opened} (os : List Outcome)
    (hopen : (openBatch s dir).Ends d (.ok opened) d₀)
    (hall : ((convertAll s 0 opened.documents.length opened.documents).run d₀).result = .ok os) :
    (convertDirectory s dir).Ends d (.ok (opened.report os))
      ((convertAll s 0 opened.documents.length opened.documents).run d₀).disk :=
  ends_convertDirectory.2 ⟨opened, d₀, os, hopen, Script.ends_of_result hall, rfl⟩

theorem ends_openBatch_pair : (openBatch { outputDir := Path.ofString "o" }
    (Path.ofString "d")).Ends pair
      (.ok ⟨SectionMap.empty, [Path.ofString "d/a.md", Path.ofString "d/b.md"]⟩)
      (pair.makeDirs (Path.ofString "o").ancestors).2 := by
  refine ends_openBatch_of_documents rfl (by decide +kernel) (by decide +kernel)
    (by decide +kernel) (by decide +kernel) ?_
  rw [documents, documentNames_of_pairwise (by decide +kernel)]
  decide +kernel

theorem documentNames_winding : documentNames winding { outputDir := Path.ofString "o" }
    (Path.ofString "o/.a.partial/../../d") = [Text.ofString "a.md", Text.ofString "b.md"] := by
  rw [documentNames_of_pairwise (by decide +kernel)]
  decide +kernel

theorem ends_openBatch_winding : (openBatch { outputDir := Path.ofString "o" }
    (Path.ofString "o/.a.partial/../../d")).Ends winding
      (.ok ⟨SectionMap.empty, [Path.ofString "o/.a.partial/../../d/a.md",
        Path.ofString "o/.a.partial/../../d/b.md"]⟩)
      (winding.makeDirs (Path.ofString "o").ancestors).2 := by
  refine ends_openBatch_of_documents rfl (by decide +kernel) (by decide +kernel)
    (by decide +kernel) (by decide +kernel) ?_
  rw [documents, documentNames_of_pairwise (by decide +kernel)]
  decide +kernel

/-- The documents of a batch are no hidden files when those of its directory are none. -/
theorem visible_of_openBatch {opened : Opened} (hup : .up ∉ s.outputDir.steps)
    (hout : Outside d s dir) (hnames : ∀ n ∈ documentNames d s dir, n.head? ≠ some '.')
    (h : (openBatch s dir).Ends d (.ok opened) d₀) :
    opened.documents = documents d s dir ∧ ∀ p ∈ opened.documents, Visible p := by
  have hgrown := grown_of_openBatch hup h
  obtain ⟨-, hdir, -, -, rfl⟩ := ends_openBatch.1 h
  have hsame := hgrown.documents_eq hdir hout
  refine ⟨hsame, ?_⟩
  intro p hp
  exact visible_of_mem_documents hnames (hsame ▸ hp)

/-! ## Batches that are cut -/

theorem convertAll_append (s : Settings) (current total : Nat) (ps qs : List Path) :
    convertAll s current total (ps ++ qs) = (do
      let os ← convertAll s current total ps
      let os' ← convertAll s (current + ps.length) total qs
      pure (os ++ os')) := by
  induction ps generalizing current with
  | nil =>
    show _ = convertAll s current total qs >>= pure
    rw [bind_pure]
    rfl
  | cons p rest ih =>
    have hcount : current + 1 + rest.length = current + (p :: rest).length := by
      rw [List.length_cons]
      omega
    rw [List.cons_append, convertAll, convertAll, ih, hcount]
    simp only [bind_assoc, pure_bind, List.cons_append]

/-- A batch until some documents are done. -/
def convertFirst (s : Settings) (dir : Path) (n : Nat) : Script (Opened × List Outcome) := do
  let opened ← openBatch s dir
  let outcomes ← convertAll s 0 opened.documents.length (opened.documents.take n)
  pure (opened, outcomes)

/-- A batch from there on. -/
def convertRest (s : Settings) (n : Nat) (first : Opened × List Outcome) : Script Report := do
  let outcomes ← convertAll s (first.1.documents.take n).length first.1.documents.length
    (first.1.documents.drop n)
  closeBatch first.1 (first.2 ++ outcomes)

/-- A batch can be cut after any number of documents. -/
theorem convertDirectory_eq_first_rest (s : Settings) (dir : Path) (n : Nat) :
    convertDirectory s dir = convertFirst s dir n >>= convertRest s n := by
  rw [convertDirectory_eq, convertFirst, bind_assoc]
  refine bind_congr fun opened => ?_
  have hsplit := convertAll_append s 0 opened.documents.length (opened.documents.take n)
    (opened.documents.drop n)
  rw [List.take_append_drop] at hsplit
  rw [hsplit]
  simp only [bind_assoc, pure_bind, Nat.zero_add]
  rfl

end GuideBundles.Conversion
