/-
# `Proofs.Conversion.Sections` — the section map is counted and not used

A batch loads the section map before it changes anything, and of the map only the number of entries
comes up again, in the report.  So two batches that differ in the file of the section map do the
same, whatever is found at the two paths.
-/
import GuideBundles.Proofs.Conversion.Told
import GuideBundles.Proofs.SectionMap.Decoded

namespace GuideBundles

/-! ## Another number of entries -/

/-- A report with another number of entries. -/
def Report.withEntries (n : Nat) (r : Report) : Report := { r with sectionMapEntries := n }

/-- An event with another number of entries, if it is the one with the report. -/
def Event.withEntries (n : Nat) : Event → Event
  | .done r => .done (r.withEntries n)
  | e => e

/-- An ending with another number of entries in its report, and otherwise the same. -/
def Script.Ending.withEntries (n : Nat) (e : Script.Ending Report) : Script.Ending Report :=
  ⟨e.result.map (Report.withEntries n), e.disk, e.events.map (Event.withEntries n)⟩

/-- Settings with another file of the section map. -/
def Settings.withSections (s : Settings) (q : Path) : Settings := { s with sectionsFile := q }

/-! ## What is listed at a path -/

/-- The examples that the sections at a path list: none if the file is missing, cannot be read as a
text, or holds no sections. -/
def SectionMap.listedAt (d : Disk) (p : Path) : List Text :=
  if d.isPresent p then
    match d.readText p with
    | .ok t =>
      match (Json.Value.ofText? t).bind sections? with
      | some sections => sections.flatMap Prod.snd
      | none => []
    | .error _ => []
  else []

/-- Sections that are written at a path, in any way that describes them, are the ones listed
there. -/
theorem SectionMap.listedAt_of_describes {d : Disk} {p : Path} {t : Text} {v : Json.Value}
    {sections : List (Text × List Text)} (hread : d.readText p = .ok t)
    (hv : Describes v sections) (ht : Json.WrittenAlone v t) :
    listedAt d p = sections.flatMap Prod.snd := by
  obtain ⟨data, hfind, -⟩ := Disk.readText_eq_ok_iff.1 hread
  have hpresent : d.isPresent p = true := by rw [Disk.isPresent, hfind]
  rw [listedAt, if_pos hpresent, hread]
  simp only [Json.Value.ofText?_of_writtenAlone ht, Option.bind_some, sections?_of_describes hv]

namespace Conversion

/-- The map that a batch finds has as many entries as there are different examples listed. -/
theorem size_sectionsAt (d : Disk) (p : Path) :
    (sectionsAt d p).size = (SectionMap.listedAt d p).dedup.length := by
  unfold sectionsAt SectionMap.listedAt
  split
  · cases d.readText p with
    | error f => rfl
    | ok t =>
      simp only [SectionMap.ofTextOrEmpty, SectionMap.ofText]
      cases (Json.Value.ofText? t).bind SectionMap.sections? with
      | none => rfl
      | some sections => exact SectionMap.size_ofSections sections
  · rfl

/-! ## Events without a report -/

theorem map_withEntries_told (n before total : Nat) (turns : List Turn) :
    (told before total turns).map (Event.withEntries n) = told before total turns := by
  refine List.map_congr_left (g := id) ?_ |>.trans (List.map_id _)
  intro e he
  obtain ⟨_, _, _, rfl⟩ := mem_told he
  rfl

theorem map_withEntries_openBatch (n : Nat) (s : Settings) (dir : Path) (d : Disk) :
    ((openBatch s dir).run d).events.map (Event.withEntries n) =
      ((openBatch s dir).run d).events := by
  refine List.map_congr_left (g := id) ?_ |>.trans (List.map_id _)
  intro e he
  obtain ⟨phase, rfl⟩ := (only_openBatch s dir).of_mem_events he
  rfl

/-! ## Batches with another file of sections -/

/-- The documents of a batch are converted without a look at the section map. -/
theorem convertAll_withSections (s : Settings) (q : Path) (current total : Nat) (ps : List Path) :
    convertAll (s.withSections q) current total ps = convertAll s current total ps := by
  induction ps generalizing current with
  | nil => rfl
  | cons p rest ih =>
    rw [convertAll, convertAll, ih]
    rfl

/-- A batch opens alike but for the section map that it has found. -/
theorem run_openBatch_withSections (s : Settings) (q dir : Path) (d : Disk) :
    (openBatch (s.withSections q) dir).run d =
      ⟨((openBatch s dir).run d).result.map fun opened => ⟨sectionsAt d q, opened.documents⟩,
        ((openBatch s dir).run d).disk, ((openBatch s dir).run d).events⟩ := by
  have hvalid : (s.withSections q).validate = s.validate := rfl
  cases hs : s.validate with
  | error f =>
    rw [run_openBatch_of_unfit hs, run_openBatch_of_unfit (hvalid.trans hs)]
    rfl
  | ok u =>
    cases hdir : d.isDirectory dir with
    | false =>
      rw [run_openBatch_of_noInput hs hdir, run_openBatch_of_noInput (hvalid.trans hs) hdir]
      rfl
    | true =>
      cases hmade : ((Script.createDirs s.outputDir).run d).result with
      | error f =>
        have hout := Script.ends_of_result hmade
        rw [run_openBatch_of_noOutput hs hdir hout,
          run_openBatch_of_noOutput (hvalid.trans hs) hdir hout]
        rfl
      | ok u =>
        have hout := Script.ends_of_result hmade
        rw [(run_openBatch hs hdir hout).2, (run_openBatch (hvalid.trans hs) hdir hout).2]
        rfl

/-- From there on, another section map changes the report alone. -/
theorem run_closeBatch_withSections (s : Settings) (m : SectionMap) (opened : Opened) (d : Disk) :
    (do let outcomes ← convertAll s 0 opened.documents.length opened.documents
        closeBatch ⟨m, opened.documents⟩ outcomes).run d =
      ((do let outcomes ← convertAll s 0 opened.documents.length opened.documents
           closeBatch opened outcomes).run d).withEntries m.size := by
  have hclose (opened : Opened) (os : List Outcome) (a : Disk) : (closeBatch opened os).run a
      = ⟨.ok (opened.report os), a, [.done (opened.report os)]⟩ := rfl
  rcases run_convertAll s 0 opened.documents.length opened.documents d with
    ⟨turns, d', -, -, hrun⟩ | ⟨turns, p, rest, m, f, d', -, -, -, hrun⟩
  · simp only [Script.run_bind, hrun, Script.Ending.andThen, hclose, Script.Ending.withEntries,
      List.map_append, map_withEntries_told]
    rfl
  · simp only [Script.run_bind, hrun, Script.Ending.andThen, Script.Ending.withEntries,
      map_withEntries_told]
    rfl

/-- A batch ends alike but for the number of entries. -/
theorem run_convertDirectory_withSections (s : Settings) (q dir : Path) (d : Disk) :
    (convertDirectory (s.withSections q) dir).run d =
      ((convertDirectory s dir).run d).withEntries (sectionsAt d q).size := by
  rw [convertDirectory_eq, convertDirectory_eq, Script.run_bind, Script.run_bind,
    run_openBatch_withSections]
  have hquiet := map_withEntries_openBatch (sectionsAt d q).size s dir d
  cases hopen : ((openBatch s dir).run d).result with
  | error f =>
    simp only [Script.Ending.andThen, hopen, Except.map, Script.Ending.withEntries, hquiet]
  | ok opened =>
    simp only [Script.Ending.andThen, hopen, Except.map, convertAll_withSections,
      run_closeBatch_withSections, Script.Ending.withEntries, List.map_append, hquiet]

/-- Whatever there is at the two paths, two batches that differ only in the file of the section map
leave the same disk, tell the same but for the report, and fail alike or both report the same but
for the number of entries; that is the number of different examples listed at the path of each.  At
a path that cannot be read none is listed, and where sections are written it is their examples. -/
theorem sections_counted_only (s : Settings) (p q dir : Path) (d : Disk) :
    let ending := (convertDirectory { s with sectionsFile := p } dir).run d
    let ending' := (convertDirectory { s with sectionsFile := q } dir).run d
    let entries := (SectionMap.listedAt d p).dedup.length
    let entries' := (SectionMap.listedAt d q).dedup.length
    ending'.disk = ending.disk ∧ ending'.events = ending.events.map (Event.withEntries entries') ∧
      (∀ f, ending.result = .error f → ending'.result = .error f) ∧
      (∀ r, ending.result = .ok r →
        r.sectionMapEntries = entries ∧
          ending'.result = .ok { r with sectionMapEntries := entries' }) ∧
      (∀ f, d.readText p = .error f → entries = 0) ∧
      ∀ t v sections, d.readText p = .ok t → SectionMap.Describes v sections →
        Json.WrittenAlone v t → entries = (sections.flatMap Prod.snd).dedup.length := by
  intro ending ending' entries entries'
  have hsame : ending' = ending.withEntries entries' := by
    have h := run_convertDirectory_withSections (s.withSections p) q dir d
    rwa [size_sectionsAt] at h
  have hself : ending = ending.withEntries entries := by
    have h := run_convertDirectory_withSections (s.withSections p) p dir d
    rwa [size_sectionsAt] at h
  rw [hsame]
  refine ⟨rfl, rfl, fun f hf => ?_, fun r hr => ?_, fun f hread => ?_, ?_⟩
  · rw [Script.Ending.withEntries, hf]
    rfl
  · have hresult := congrArg Script.Ending.result hself
    rw [Script.Ending.withEntries, hr] at hresult
    refine ⟨congrArg Report.sectionMapEntries (Except.ok.inj hresult), ?_⟩
    rw [Script.Ending.withEntries, hr]
    rfl
  · have hnone : SectionMap.listedAt d p = [] := by simp [SectionMap.listedAt, hread]
    exact congrArg (fun names => names.dedup.length) hnone
  · intro t v sections hread hv ht
    exact congrArg (fun names => names.dedup.length)
      (SectionMap.listedAt_of_describes hread hv ht)

/-- A directory without documents, and a file of two sections that share an example. -/
def catalogue : Disk :=
  (Disk.put {} [['d']] .directory).put [['m']] (.file (Text.toBytes (Text.ofString
    "\x7b\"sections\":[\x7b\"id\":\"a\",\"examples\":[\"x\",\"y\"]\x7d,"
    ++ Text.ofString "\x7b\"id\":\"b\",\"examples\":[\"x\",\"z\"]\x7d]\x7d")))

/-- Three different examples are counted, and none when the file is called otherwise. -/
example :
    let s : Settings := { outputDir := Path.ofString "o", sectionsFile := Path.ofString "m" }
    ((convertDirectory s (Path.ofString "d")).run catalogue).result = .ok ⟨0, 0, 0, 3⟩ ∧
    ((convertDirectory { s with sectionsFile := Path.ofString "n" } (Path.ofString "d")).run
      catalogue).result = .ok ⟨0, 0, 0, 0⟩ := by
  decide +kernel

end Conversion
end GuideBundles
