/-
# `Proofs.Check.Published` — generated snippet files are checked

A document that was converted has its snippet file in its bundle, and a check of the output
directory reads the files there whose names have the extension.  The name of a snippet file has it
as long as the example has a name and no dot stands in the extension.  There are no links in the
output directory, and its names are texts.
-/
import GuideBundles.Proofs.Check.Findings
import GuideBundles.Proofs.Conversion.Collected
import GuideBundles.Proofs.Conversion.Interrupted

namespace GuideBundles

variable {d d' : Disk}

/-! ## Generated files -/

namespace Artifact

variable {dir : Path} {a : Artifact} {rest artifacts : List Artifact} {paths : List Path}

theorem ends_writeAll_cons (ha : a.name ≠ [] ∧ '/' ∉ a.name)
    (h : (writeAll dir (a :: rest)).Ends d (.ok paths) d') :
    ∃ m paths', Disk.Sets (d.locate dir ++ [a.name]) (.file a.content.toBytes) d m ∧
      (writeAll dir rest).Ends m (.ok paths') d' := by
  rw [writeAll] at h
  obtain ⟨⟨⟩, m, hwrite, h⟩ := Script.ends_bind_ok.1 h
  obtain ⟨paths', m', hrest, h⟩ := Script.ends_bind_ok.1 h
  obtain ⟨-, rfl⟩ := Script.ends_pure.1 h
  obtain ⟨hlast, hsets⟩ := Disk.writeBytes_ok (Script.ends_writeText.1 hwrite)
  rw [(Disk.locate_join_of_getLast? d dir ha.1 ha.2 hlast).2] at hsets
  exact ⟨m, paths', hsets, hrest⟩

/-- What has none of the names stays. -/
theorem get?_eq_of_writeAll (hnames : ∀ a ∈ artifacts, a.name ≠ [] ∧ '/' ∉ a.name)
    (h : (writeAll dir artifacts).Ends d (.ok paths) d') {k : Location}
    (hk : ∀ a ∈ artifacts, k ≠ d.locate dir ++ [a.name]) : d'.get? k = d.get? k := by
  induction artifacts generalizing d paths with
  | nil =>
    obtain ⟨-, rfl⟩ := Script.ends_pure.1 h
    rfl
  | cons a rest ih =>
    obtain ⟨ha, hrest⟩ := List.forall_mem_cons.1 hnames
    obtain ⟨hka, hkrest⟩ := List.forall_mem_cons.1 hk
    obtain ⟨m, paths', hsets, h⟩ := ends_writeAll_cons ha h
    rw [← Disk.locate_congr hsets.here] at hkrest
    rw [ih hrest h hkrest, hsets.get?, if_neg hka]

/-- Files with different names that were written into a directory are there. -/
theorem get?_of_writeAll (hnames : ∀ a ∈ artifacts, a.name ≠ [] ∧ '/' ∉ a.name)
    (hnodup : (artifacts.map Artifact.name).Nodup)
    (h : (writeAll dir artifacts).Ends d (.ok paths) d') (ha : a ∈ artifacts) :
    d'.get? (d.locate dir ++ [a.name]) = some (.file a.content.toBytes) := by
  induction artifacts generalizing d paths with
  | nil => cases ha
  | cons b rest ih =>
    obtain ⟨hb, hrest⟩ := List.forall_mem_cons.1 hnames
    rw [List.map_cons, List.nodup_cons] at hnodup
    obtain ⟨m, paths', hsets, hwrite⟩ := ends_writeAll_cons hb h
    have hdir := Disk.locate_congr hsets.here dir
    rcases List.mem_cons.1 ha with rfl | ha
    · -- The files that follow have other names.
      rw [get?_eq_of_writeAll hrest hwrite, hsets.get?, if_pos rfl]
      intro c hc heq
      rw [hdir] at heq
      obtain ⟨-, hname⟩ := List.append_singleton_inj.1 heq
      exact hnodup.1 (hname ▸ List.mem_map_of_mem hc)
    · rw [← hdir]
      exact ih hrest hnodup.2 hwrite ha

end Artifact

namespace Conversion

variable {s : Settings} {p : Path} {id : ExampleId} {source : Source}

/-- The generated files of a document are written into its directory, whatever its images became. -/
theorem get?_of_writeBundle {dir : Path} (hs : s.validate = .ok ()) (hid : '/' ∉ id.text)
    (hsnippet : '/' ∉ s.emit.snippetExtension) (hcommand : '/' ∉ s.emit.commandExtension)
    (h : (writeBundle s source id dir).Ends d (.ok ()) d') : ∃ images,
      ∀ a ∈ Artifact.ofBundle (Bundle.ofDocument id (Document.ofText s.tags source.text) images)
        s.emit, d'.get? (d'.locate dir ++ [a.name]) = some (.file a.content.toBytes) := by
  unfold writeBundle at h
  obtain ⟨b, m, hassemble, h⟩ := Script.ends_bind_ok.1 h
  obtain ⟨images, -, rfl⟩ := Bundle.ends_assemble.1 hassemble
  obtain ⟨paths, m, hwrite, h⟩ := Script.ends_bind_ok.1 h
  obtain ⟨-, rfl⟩ := Script.ends_pure.1 h
  refine ⟨images, ?_⟩
  intro a ha
  rw [Disk.locate_congr hwrite.here]
  refine Artifact.get?_of_writeAll ?_ ?_ hwrite ha
  · intro b hb
    have hmem := List.mem_map_of_mem (f := Artifact.name) hb
    rw [map_name_ofBundle] at hmem
    exact ArtifactNames.name_of_mem_toList (ExampleId.slash_not_mem_exampleName hid) hsnippet
      hcommand hmem
  · rw [map_name_ofBundle]
    exact ArtifactNames.nodup_toList _ ((Settings.validate_eq_ok_iff s).1 hs).2.2.2

/-- A document that was converted has its generated files in the directory of its bundle. -/
theorem get?_of_converted (hs : s.validate = .ok ()) (hsnippet : '/' ∉ s.emit.snippetExtension)
    (hcommand : '/' ∉ s.emit.commandExtension) (hid : ExampleId.ofPath p = .ok id)
    (h : (convertDocument s p).Ends d (.ok .converted) d') :
    (bundleDir s id).flaw? = none ∧ Path.stepOf id.text = .name id.text ∧
      ∃ text images, d.readText p = .ok text ∧
        ∀ a ∈ Artifact.ofBundle (Bundle.ofDocument id (Document.ofText s.tags text) images) s.emit,
          d'.get? (bundleAt d' s id ++ [a.name]) = some (.file a.content.toBytes) := by
  obtain ⟨id', hid', ⟨-, ho, -⟩ | ⟨-, -, h⟩⟩ := ends_convertDocument h
  · cases ho
  · obtain rfl := Except.ok.inj (hid'.symm.trans hid)
    obtain ⟨hid₀, hslash⟩ := ExampleId.name_of_ofPath hid
    rw [convertNew_eq] at h
    obtain ⟨written, m, hstage, h⟩ := Script.ends_bind_ok.1 h
    obtain ⟨rfl, -, hrename⟩ := ends_finish h
    obtain ⟨source, m₀, hread, hstage⟩ := Script.ends_bind_ok.1 hstage
    obtain ⟨text, htext, rfl, rfl⟩ := ends_read.1 hread
    obtain ⟨⟨⟩, m₁, -, hwrite⟩ := Script.ends_bind_ok.1 hstage
    obtain ⟨images, hfiles⟩ :=
      get?_of_writeBundle hs hslash hsnippet hcommand (Script.ends_attempt.1 hwrite)
    rw [locate_stagingDir m s hslash] at hfiles
    have hstaging : m.get? (stagingAt m s id') = some .directory :=
      (Disk.parent_of_get? (hfiles _ List.mem_cons_self)).2
    obtain ⟨hflaw, hstep, hhere, hmoved⟩ := moved_of_rename hid₀ hslash hstaging hrename
    refine ⟨hflaw, hstep, text, images, htext, ?_⟩
    intro a ha
    rw [bundleAt, Disk.locate_congr hhere, ← bundleAt, (hmoved [a.name]).1]
    exact hfiles a ha

end Conversion

/-! ## What a check finds in a bundle that was made -/

/-- A file with the bytes of a text reads as that text. -/
theorem Disk.text_of_readText {p : Path} {t u : Text} (h : d.readText p = .ok t)
    (hfile : d.get? (d.locate p) = some (.file u.toBytes)) : t = u := by
  obtain ⟨data, hfind, htext⟩ := readText_eq_ok_iff.1 h
  obtain rfl := Entry.file.inj (Option.some.inj ((find_ok hfind).2.symm.trans hfile))
  rw [Text.ofBytes?_toBytes] at htext
  exact (Option.some.inj htext).symm

namespace Check

open Conversion

variable {d'' : Disk} {s : Settings} {p : Path} {id : ExampleId} {findings : List Finding}

/-- When a document was converted and a check of the output directory went through after it, there
is a finding with an issue at the generated snippet file exactly when its text has that issue.  That
needs an extension without a dot, for otherwise only what follows the last dot is an extension, and
an example with a name, for a name that starts with the dot has none. -/
theorem issue_found_iff_of_converted (hs : s.validate = .ok ())
    (hsnippet : '/' ∉ s.emit.snippetExtension) (hcommand : '/' ∉ s.emit.commandExtension)
    (hdot : '.' ∉ s.emit.snippetExtension) (hid : ExampleId.ofPath p = .ok id)
    (hvisible : id.text.head? ≠ some '.') (hname : id.exampleName ≠ [])
    (hconvert : (convertDocument s p).Ends d (.ok .converted) d')
    (hcheck : (checkAll s.emit.snippetExtension s.outputDir).Ends d' (.ok findings) d'') :
    ∃ text, d.readText p = .ok text ∧ ∀ images x,
      ⟨(bundleDir s id).join (artifactNames s id).snippet, x⟩ ∈ findings ↔
        SnippetIssue.ofText (Artifact.snippetText
          (Bundle.ofDocument id (Document.ofText s.tags text) images)) = some x := by
  obtain ⟨hflaw, hstep, text, made, htext, hfiles⟩ :=
    get?_of_converted hs hsnippet hcommand hid hconvert
  have hfile : d'.get? (bundleAt d' s id ++ [(artifactNames s id).snippet]) =
      some (.file (Artifact.snippetText
        (Bundle.ofDocument id (Document.ofText s.tags text) made)).toBytes) :=
    hfiles _ List.mem_cons_self
  obtain ⟨hout, hread, -, -⟩ := ends_checkAll.1 hcheck
  -- The snippet file has a name, so its name is not made of dots.
  obtain ⟨hn₀, h₁, h₂, hslash⟩ := Disk.name_of_mem_names (Disk.mem_names_iff.2 ⟨_, hfile⟩)
  have hmem : (bundleDir s id).join (artifactNames s id).snippet ∈
      snippets d' s.emit.snippetExtension s.outputDir :=
    mem_snippets_of_get? hout hvisible hflaw hfile
      ((Path.extensionOf_append_iff h₂).2 ⟨hname, hdot⟩)
  obtain ⟨t, ht⟩ := hread _ hmem
  have hloc : d'.locate ((bundleDir s id).join (artifactNames s id).snippet)
      = bundleAt d' s id ++ [(artifactNames s id).snippet] := by
    obtain ⟨-, hid₁, hid₂⟩ := Path.stepOf_eq_name_iff.1 hstep
    obtain ⟨hid₀, hids⟩ := ExampleId.name_of_ofPath hid
    rw [Disk.locate_join_name d' _ hn₀ hslash h₁ h₂, locate_bundleDir d' s hid₀ hids hid₁ hid₂]
  have htext' := Disk.text_of_readText ht (by rw [hloc]; exact hfile)
  refine ⟨text, htext, ?_⟩
  intro images x
  rw [mem_findings_iff hcheck]
  constructor
  · rintro ⟨-, t', ht', hx⟩
    obtain rfl := Except.ok.inj (ht.symm.trans ht')
    rw [htext'] at hx
    exact hx
  · intro hx
    refine ⟨hmem, t, ht, ?_⟩
    rw [htext']
    exact hx

/-- One of two documents was converted, and the check tells that its description is missing. -/
theorem issue_found_iff_of_converted_pair :
    let s : Settings := { outputDir := Path.ofString "o" }
    let p := Path.ofString "d/a.md"
    ∃ d' findings, (convertDocument s p).Ends pair (.ok .converted) d' ∧
      (checkAll s.emit.snippetExtension s.outputDir).Ends d' (.ok findings) d' ∧
      ⟨Path.ofString "o/a/a.snippet", .emptyDescription⟩ ∈ findings := by
  intro s p
  let made := ((convertDocument s p).run pair).disk
  have hresult : ((convertDocument s p).run pair).result = .ok .converted := by decide +kernel
  have hconvert : (convertDocument s p).Ends pair (.ok .converted) made :=
    Script.ends_of_result hresult
  have hcheck : (checkAll s.emit.snippetExtension s.outputDir).Ends made (.ok _) made :=
    ends_checkAll_of_isOk (by decide +kernel) (by decide +kernel)
  have hid : ExampleId.ofPath p = .ok ⟨['a'], rfl⟩ := rfl
  have hread : pair.readText p = .ok (Text.ofString "# T") := by decide +kernel
  obtain ⟨text, htext, hfound⟩ := issue_found_iff_of_converted rfl (by decide) (by decide)
    (by decide) hid (by decide) (by decide) hconvert hcheck
  obtain rfl := Except.ok.inj (htext.symm.trans hread)
  exact ⟨made, _, hconvert, hcheck, (hfound [] _).2 (by decide +kernel)⟩

/-- The name of a snippet file ends with an extension that has a dot in it, but for the check only
what follows the last dot is its extension, and the file is passed over. -/
theorem snippet_passed_over_of_dot :
    let s : Settings :=
      { outputDir := Path.ofString "o", emit := { snippetExtension := Text.ofString "tar.py" } }
    let p := Path.ofString "d/a.md"
    let id : ExampleId := ⟨['a'], rfl⟩
    s.validate = .ok () ∧ ExampleId.ofPath p = .ok id ∧ id.text.head? ≠ some '.' ∧
      ∃ d' text, (convertDocument s p).Ends pair (.ok .converted) d' ∧
        (checkAll s.emit.snippetExtension s.outputDir).Ends d' (.ok []) d' ∧
        pair.readText p = .ok text ∧
        SnippetIssue.ofText (Artifact.snippetText
          (Bundle.ofDocument id (Document.ofText s.tags text) [])) = some .emptyDescription := by
  intro s p id
  let made := ((convertDocument s p).run pair).disk
  have hresult : ((convertDocument s p).run pair).result = .ok .converted := by decide +kernel
  have hnames : ∀ b ∈ made.names (made.locate s.outputDir),
      ∀ n ∈ made.names (made.locate (s.outputDir.join b)),
        Path.extensionOf n ≠ some s.emit.snippetExtension := by decide +kernel
  have hnone : snippets made s.emit.snippetExtension s.outputDir = [] := by
    refine List.eq_nil_iff_forall_not_mem.2 ?_
    intro q hq
    obtain ⟨b, hb, -, -, n, hn, -, hextension⟩ := mem_snippets_iff.1 hq
    exact hnames b hb n hn hextension
  have hcheck : (checkAll s.emit.snippetExtension s.outputDir).Ends made (.ok _) made :=
    ends_checkAll_of_isOk (by decide +kernel)
      fun b hb n hn hextension => absurd hextension (hnames b hb n hn)
  rw [hnone] at hcheck
  exact ⟨rfl, rfl, by decide, made, Text.ofString "# T", Script.ends_of_result hresult, hcheck,
    by decide +kernel, by decide +kernel⟩

end Check
end GuideBundles
