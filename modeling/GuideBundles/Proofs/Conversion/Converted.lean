/-
# `Proofs.Conversion.Converted` — what a converted document leaves on disk

A document that was converted has a directory with its three generated files, the last copy under
each other name of a local image, and nothing else.  What was left over from an earlier run is gone.
As on every disk here there are no links, and the names in the directory are texts.
-/
import GuideBundles.Proofs.Conversion.Staging
import GuideBundles.Proofs.Script.Trace
import Mathlib.Data.List.Nodup

namespace GuideBundles

/-! ## Names from paths -/

theorem Path.mem_of_mem_stemOf {n : Text} {c : Char} (h : c ∈ stemOf n) : c ∈ n := by
  unfold stemOf at h
  split at h
  · exact h
  · split at h
    · next before after hsplit =>
      split at h
      · exact h
      · unfold splitLastDot at hsplit
        split at hsplit
        · cases hsplit
        · next dot before' hdot =>
          obtain ⟨rfl, -⟩ := Prod.mk.inj (Option.some.inj hsplit)
          have hmem : c ∈ n.reverse.dropWhile (· != '.') := by
            rw [hdot]
            exact List.mem_cons_of_mem _ (List.mem_reverse.1 h)
          exact List.mem_reverse.1 ((List.dropWhile_sublist _).subset hmem)
    · exact h

/-- The text of an identifier is the file name of its document without the extension. -/
theorem ExampleId.stem?_of_ofPath {p : Path} {id : ExampleId} (h : ofPath p = .ok id) :
    p.stem? = some id.text := by
  unfold ofPath at h
  cases hstem : p.stem? with
  | none =>
    rw [hstem] at h
    cases h
  | some stem =>
    rw [hstem] at h
    change ofText stem = .ok id at h
    unfold ofText at h
    split at h
    · obtain rfl := Except.ok.inj h
      rfl
    · cases h

/-- The identifier of a document is a name. -/
theorem ExampleId.name_of_ofPath {p : Path} {id : ExampleId} (h : ofPath p = .ok id) :
    id.text ≠ [] ∧ '/' ∉ id.text := by
  refine ⟨?_, ?_⟩
  · intro hnil
    have hink := id.hasInk
    rw [hnil] at hink
    cases hink
  · obtain ⟨n, hn, htext⟩ := Option.map_eq_some_iff.1 (stem?_of_ofPath h)
    intro hs
    rw [← htext] at hs
    exact (Path.of_fileName? hn).2.2.2 (Path.mem_of_mem_stemOf hs)

/-! ## Bundles on disk -/

/-- A directory on a disk holds the generated files of a bundle under different names, under each
other name the last copy that was made by that name, and nothing else. -/
structure Disk.HoldsBundle (d : Disk) (l : Location) (artifacts : List Artifact)
    (copies : List (Text × ByteArray)) : Prop where
  nodup : (artifacts.map Artifact.name).Nodup
  directory : d.get? l = some .directory
  artifact : ∀ a ∈ artifacts, d.get? (l ++ [a.name]) = some (.file a.content.toBytes)
  other : ∀ n, n ∉ artifacts.map Artifact.name →
    d.get? (l ++ [n]) = (copies.reverse.lookup n).map Entry.file
  nothingBelow : ∀ n m rest, d.get? (l ++ n :: m :: rest) = none

theorem Disk.Holds.holdsBundle {d : Disk} {l : Location} {artifacts : List Artifact}
    {copies : List (Text × ByteArray)} (hnodup : (artifacts.map Artifact.name).Nodup)
    (h : d.Holds l (Artifact.written artifacts ++ copies.reverse)) :
    d.HoldsBundle l artifacts copies := by
  have hkeys : (Artifact.written artifacts).map Prod.fst
      = (artifacts.map Artifact.name).reverse := by
    simp [Artifact.written, Function.comp_def]
  refine ⟨hnodup, h.directory, ?_, ?_, ?_⟩
  · intro a ha
    have hfound : (Artifact.written artifacts).lookup a.name = some a.content.toBytes := by
      rw [lookup_eq_some_iff_mem (by rw [hkeys]; exact List.nodup_reverse.2 hnodup)]
      exact List.mem_reverse.2 (List.mem_map.2 ⟨a, ha, rfl⟩)
    rw [h.below, if_pos rfl, List.lookup_append, hfound]
    rfl
  · intro n hn
    have hnone : (Artifact.written artifacts).lookup n = none := by
      refine Option.eq_none_iff_forall_ne_some.2 fun data hdata => hn ?_
      rw [← List.mem_reverse, ← hkeys]
      exact List.mem_map.2 ⟨_, mem_of_lookup hdata, rfl⟩
    rw [h.below, if_pos rfl, List.lookup_append, hnone]
    rfl
  · intro n m rest
    rw [h.below, if_neg (by simp)]

namespace Conversion

variable {s : Settings} {source : Source} {id : ExampleId} {base d d' : Disk}

/-! ## Staging directories -/

/-- What a staging directory is called. -/
def stagingName (id : ExampleId) : Text := '.' :: id.text ++ Text.ofString ".partial"

theorem stagingName_ne_nil (id : ExampleId) : stagingName id ≠ [] := List.cons_ne_nil _ _

theorem length_stagingName (id : ExampleId) :
    (stagingName id).length = id.text.length + 9 := by
  rw [stagingName, List.length_append, List.length_cons]
  rfl

theorem stepOf_stagingName (id : ExampleId) :
    Path.stepOf (stagingName id) = .name (stagingName id) := by
  have hlength := length_stagingName id
  refine Path.stepOf_eq_name_iff.2 ⟨rfl, ?_, ?_⟩
  · intro h
    rw [h, List.length_singleton] at hlength
    omega
  · intro h
    rw [h, List.length_cons, List.length_singleton] at hlength
    omega

theorem slash_not_mem_stagingName (hid : '/' ∉ id.text) : '/' ∉ stagingName id := by
  have hpartial : '/' ∉ Text.ofString ".partial" := by decide
  simp [stagingName, hid, hpartial]

theorem stagingName_ne_text (id : ExampleId) : stagingName id ≠ id.text := by
  intro heq
  have hlength := congrArg List.length heq
  rw [length_stagingName] at hlength
  omega

theorem steps_stagingDir (s : Settings) (hid : '/' ∉ id.text) :
    (stagingDir s id).steps = s.outputDir.steps ++ [.name (stagingName id)] := by
  rw [← stepOf_stagingName]
  exact Path.steps_join s.outputDir (stagingName_ne_nil id) (slash_not_mem_stagingName hid)

theorem locate_stagingDir (d : Disk) (s : Settings) (hid : '/' ∉ id.text) :
    d.locate (stagingDir s id) = d.locate s.outputDir ++ [stagingName id] := by
  refine (Disk.locate_join d s.outputDir (stagingName_ne_nil id)
    (slash_not_mem_stagingName hid)).trans ?_
  rw [stepOf_stagingName]
  rfl

/-! ## What a document becomes -/

/-- The names of the generated files of an example. -/
def artifactNames (s : Settings) (id : ExampleId) : ArtifactNames :=
  ArtifactNames.ofName id.exampleName s.emit

/-- The images of a document. -/
def images (s : Settings) (source : Source) : List Reference :=
  (Document.ofText s.tags source.text).images

/-- The copies of images that are made for a document, in order. -/
def copies (base : Disk) (s : Settings) (source : Source) (id : ExampleId) :
    List (Text × ByteArray) :=
  (images s source).filterMap (Bundle.copy? base source.directory (artifactNames s id))

/-- The bundle of a document. -/
def bundle (base : Disk) (s : Settings) (source : Source) (id : ExampleId) : Bundle :=
  Bundle.ofDocument id (Document.ofText s.tags source.text)
    ((images s source).map (Bundle.settled base source.directory (artifactNames s id)))

/-- The generated files of a document whose images are settled. -/
def settledArtifacts (s : Settings) (source : Source) (id : ExampleId)
    (xs : List (Reference × Option (Text × ByteArray))) : List Artifact :=
  Artifact.ofBundle (Bundle.ofDocument id (Document.ofText s.tags source.text) (xs.map Prod.fst))
    s.emit

/-- No local image of a document is looked for in a directory. -/
def ImagesOutside (s : Settings) (source : Source) (d : Disk) (l : Location) : Prop :=
  ∀ image ∈ images s source, ∀ found, Bundle.source? source.directory image = some found →
    Disk.isUnder l (d.locate found.2) = false

theorem map_name_ofBundle (b : Bundle) (emit : EmitSettings) :
    (Artifact.ofBundle b emit).map Artifact.name
      = (ArtifactNames.ofName b.id.exampleName emit).toList := rfl

theorem ends_writeBundle {dir : Path} (hid : '/' ∉ id.text)
    (hsnippet : '/' ∉ s.emit.snippetExtension) (hcommand : '/' ∉ s.emit.commandExtension)
    (h : Disk.Staged (base.locate dir) base [] d)
    (hrun : (writeBundle s source id dir).Ends d (.ok ()) d') :
    ∃ xs, List.Forall₂
        (Bundle.Settles base (base.locate dir) source.directory (artifactNames s id))
        (images s source) xs ∧
      Disk.Staged (base.locate dir) base
        (Artifact.written (settledArtifacts s source id xs) ++ (xs.filterMap Prod.snd).reverse)
        d' := by
  unfold writeBundle at hrun
  obtain ⟨b, m, hassemble, hrun⟩ := Script.ends_bind_ok.1 hrun
  obtain ⟨settled, hsettle, rfl⟩ := Bundle.ends_assemble.1 hassemble
  obtain ⟨paths, m, hwrite, hrun⟩ := Script.ends_bind_ok.1 hrun
  obtain ⟨-, rfl⟩ := Script.ends_pure.1 hrun
  obtain ⟨xs, hxs, rfl, hcopied⟩ := Bundle.ends_settleImages h hsettle
  rw [List.append_nil] at hcopied
  refine ⟨xs, hxs, Artifact.ends_writeAll ?_ hcopied hwrite⟩
  intro a ha
  have hmem := List.mem_map_of_mem (f := Artifact.name) ha
  rw [settledArtifacts, map_name_ofBundle] at hmem
  exact ArtifactNames.name_of_mem_toList (ExampleId.slash_not_mem_exampleName hid) hsnippet hcommand
    hmem

/-! ## The two halves of a conversion -/

/-- The first half: the bundle of a document is put together in its staging directory. -/
def stage (s : Settings) (p : Path) (id : ExampleId) : Script (Except Failure Unit) := do
  let source ← Source.read p
  prepare (stagingDir s id)
  (writeBundle s source id (stagingDir s id)).attempt

/-- The second half: the staging directory gets its final name, or is removed after a failure. -/
def finish (s : Settings) (id : ExampleId) : Except Failure Unit → Script Outcome
  | .ok () => do
    Script.rename (stagingDir s id) (bundleDir s id)
    pure .converted
  | .error f => do
    let _ ← Script.request (.removeTree (stagingDir s id))
    .fail f

theorem convertNew_eq (s : Settings) (p : Path) (id : ExampleId) :
    convertNew s p id = stage s p id >>= finish s id := by
  rw [stage, bind_assoc]
  refine bind_congr fun source => ?_
  rw [bind_assoc]
  refine bind_congr fun _ => bind_congr fun written => ?_
  cases written with
  | ok u => rfl
  | error f => rfl

theorem ends_read {p : Path} : (Source.read p).Ends d (.ok source) d' ↔
    ∃ text, d.readText p = .ok text ∧ (⟨p, text⟩ : Source) = source ∧ d = d' := by
  constructor
  · intro h
    obtain ⟨text, m, hread, hpure⟩ := Script.ends_bind_ok.1 h
    obtain ⟨htext, rfl⟩ := Script.ends_readText.1 hread
    obtain ⟨hsource, rfl⟩ := Script.ends_pure.1 hpure
    exact ⟨text, htext, Except.ok.inj hsource, rfl⟩
  · rintro ⟨text, htext, rfl, rfl⟩
    exact Script.ends_bind_ok.2 ⟨text, d, Script.ends_readText.2 ⟨htext, rfl⟩, rfl, rfl⟩

/-- When the first half went through, the staging directory has been emptied, and it holds the
generated files and the copies of the images. -/
theorem ends_stage {p : Path} (hid : '/' ∉ id.text) (hsnippet : '/' ∉ s.emit.snippetExtension)
    (hcommand : '/' ∉ s.emit.commandExtension) (hup : .up ∉ s.outputDir.steps)
    (hrun : (stage s p id).Ends d (.ok (.ok ())) d') :
    ∃ text base xs, d.readText p = .ok text ∧ Disk.Emptied (d.locate (stagingDir s id)) d base ∧
      List.Forall₂ (Bundle.Settles base (base.locate (stagingDir s id))
        (Source.directory ⟨p, text⟩) (artifactNames s id)) (images s ⟨p, text⟩) xs ∧
      Disk.Staged (base.locate (stagingDir s id)) base
        (Artifact.written (settledArtifacts s ⟨p, text⟩ id xs) ++ (xs.filterMap Prod.snd).reverse)
        d' := by
  obtain ⟨source, m, hread, hrun⟩ := Script.ends_bind_ok.1 hrun
  obtain ⟨text, htext, rfl, rfl⟩ := ends_read.1 hread
  obtain ⟨⟨⟩, base, hprepare, hrun⟩ := Script.ends_bind_ok.1 hrun
  have hsteps := steps_stagingDir s hid
  have hempty := ends_prepare (Path.spelling_ne_nil_of_steps (by simp [hsteps]))
    (by simp [hsteps, hup]) (by simp [locate_stagingDir d s hid]) hprepare
  have hstaged : Disk.Staged (base.locate (stagingDir s id)) base [] base := by
    rw [Disk.locate_congr hempty.here]
    exact hempty.staged
  obtain ⟨xs, hxs, hfull⟩ :=
    ends_writeBundle hid hsnippet hcommand hstaged (Script.ends_attempt.1 hrun)
  exact ⟨text, base, xs, htext, hempty, hxs, hfull⟩

/-- Where the bundle of a document should be, there is a directory with its generated files, with a
copy for each image that the bundle has under a new name, and with nothing else. -/
def HoldsWhole (d base : Disk) (s : Settings) (source : Source) (id : ExampleId) : Prop :=
  d.find (bundleDir s id) = .ok (d.locate (bundleDir s id), .directory) ∧
    ∃ xs, List.Forall₂ (Bundle.Settles base (base.locate (stagingDir s id)) source.directory
        (artifactNames s id)) (images s source) xs ∧
      d.HoldsBundle (d.locate (bundleDir s id)) (settledArtifacts s source id xs)
        (xs.filterMap Prod.snd)

/-- With its new name, what was put together is the whole bundle, and the old name is free. -/
theorem holdsWhole_of_rename (hid₀ : id.text ≠ []) (hid : '/' ∉ id.text)
    (hs : s.validate = .ok ()) (hup : .up ∉ s.outputDir.steps)
    {xs : List (Reference × Option (Text × ByteArray))}
    (hxs : List.Forall₂ (Bundle.Settles base (base.locate (stagingDir s id)) source.directory
      (artifactNames s id)) (images s source) xs)
    (h : Disk.Staged (base.locate (stagingDir s id)) base
      (Artifact.written (settledArtifacts s source id xs) ++ (xs.filterMap Prod.snd).reverse) d)
    (hrename : d.rename (stagingDir s id) (bundleDir s id) = .ok d') :
    d'.isPresent (stagingDir s id) = false ∧ HoldsWhole d' base s source id := by
  obtain ⟨hgone, hfound, hholds⟩ := h.rename hup (stepOf_stagingName id)
    (stagingName_ne_nil id) (slash_not_mem_stagingName hid) hid₀ hid (stagingName_ne_text id)
    hrename
  refine ⟨hgone, hfound, xs, hxs, hholds.holdsBundle ?_⟩
  exact ArtifactNames.nodup_toList _ ((Settings.validate_eq_ok_iff s).1 hs).2.2.2

/-- When no image is looked for in the staging directory, the bundle is the one that the disk after
the emptying tells. -/
theorem HoldsWhole.holdsBundle (h : HoldsWhole d base s source id)
    (hout : ImagesOutside s source base (base.locate (stagingDir s id))) :
    d.HoldsBundle (d.locate (bundleDir s id)) (Artifact.ofBundle (bundle base s source id) s.emit)
      (copies base s source id) := by
  obtain ⟨-, xs, hxs, hholds⟩ := h
  obtain ⟨hfst, hsnd⟩ := Bundle.eq_map_of_settles hout hxs
  rwa [settledArtifacts, hfst, hsnd] at hholds

/-- The second half goes through when the bundle was written and gets its final name. -/
theorem ends_finish {written : Except Failure Unit} {o : Outcome}
    (hrun : (finish s id written).Ends d (.ok o) d') :
    written = .ok () ∧ o = .converted ∧ d.rename (stagingDir s id) (bundleDir s id) = .ok d' := by
  cases written with
  | error f =>
    obtain ⟨x, m, -, hfail⟩ := Script.ends_bind_ok.1 hrun
    cases (Script.ends_fail.1 hfail).1
  | ok u =>
    obtain ⟨⟨⟩, m, hrename, hrun⟩ := Script.ends_bind_ok.1 hrun
    obtain ⟨ho, rfl⟩ := Script.ends_pure.1 hrun
    exact ⟨rfl, (Except.ok.inj ho).symm, Script.ends_rename.1 hrename⟩

/-- A bundle gets its final name only when the identifier is a name. -/
theorem ne_dots_of_convertNew {p : Path} {o : Outcome} (hid₀ : id.text ≠ []) (hid : '/' ∉ id.text)
    (hrun : (convertNew s p id).Ends d (.ok o) d') : id.text ≠ ['.'] ∧ id.text ≠ ['.', '.'] := by
  rw [convertNew_eq] at hrun
  obtain ⟨written, m, -, hrun⟩ := Script.ends_bind_ok.1 hrun
  obtain ⟨-, -, hrename⟩ := ends_finish hrun
  have hlast := Disk.getLast?_steps_of_rename hrename
  obtain ⟨hstep, -⟩ := Disk.locate_join_of_getLast? m s.outputDir hid₀ hid hlast
  exact (Path.stepOf_eq_name_iff.1 hstep).2

/-- A conversion that went through has emptied the staging directory, which is gone, and leaves the
whole bundle in its place. -/
theorem ends_convertNew {p : Path} {o : Outcome} (hid₀ : id.text ≠ []) (hid : '/' ∉ id.text)
    (hs : s.validate = .ok ()) (hsnippet : '/' ∉ s.emit.snippetExtension)
    (hcommand : '/' ∉ s.emit.commandExtension) (hup : .up ∉ s.outputDir.steps)
    (hrun : (convertNew s p id).Ends d (.ok o) d') :
    ∃ text base, d.readText p = .ok text ∧ Disk.Emptied (d.locate (stagingDir s id)) d base ∧
      d'.isPresent (stagingDir s id) = false ∧ HoldsWhole d' base s ⟨p, text⟩ id := by
  rw [convertNew_eq] at hrun
  obtain ⟨written, m, hstage, hrun⟩ := Script.ends_bind_ok.1 hrun
  obtain ⟨rfl, -, hrename⟩ := ends_finish hrun
  obtain ⟨text, base, xs, htext, hempty, hxs, hfull⟩ :=
    ends_stage hid hsnippet hcommand hup hstage
  obtain ⟨hgone, hwhole⟩ := holdsWhole_of_rename hid₀ hid hs hup hxs hfull hrename
  exact ⟨text, base, htext, hempty, hgone, hwhole⟩

/-- A document is skipped when its bundle is there, and the disk stays as it is; or else it is
converted. -/
theorem ends_convertDocument {p : Path} {o : Outcome}
    (hrun : (convertDocument s p).Ends d (.ok o) d') : ∃ id, ExampleId.ofPath p = .ok id ∧
      (d.isPresent (bundleDir s id) = true ∧ o = .skipped ∧ d' = d ∨
        d.isPresent (bundleDir s id) = false ∧ o = .converted ∧
          (convertNew s p id).Ends d (.ok .converted) d') := by
  obtain ⟨id, m, hcompute, h⟩ := Script.ends_bind_ok.1 hrun
  obtain ⟨hid, rfl⟩ := Script.ends_ofExcept.1 hcompute
  obtain ⟨found, m, hfound, h⟩ := Script.ends_bind_ok.1 h
  obtain ⟨hpresent, rfl⟩ := Script.ends_present.1 hfound
  refine ⟨id, hid, ?_⟩
  cases found with
  | true =>
    obtain ⟨ho, rfl⟩ := Script.ends_pure.1 h
    exact .inl ⟨hpresent, (Except.ok.inj ho).symm, rfl⟩
  | false =>
    have hnew := h
    change (convertNew s p id).Ends d (.ok o) d' at hnew
    rw [convertNew_eq] at hnew
    obtain ⟨written, m, hstage, hfinish⟩ := Script.ends_bind_ok.1 hnew
    obtain ⟨-, rfl, -⟩ := ends_finish hfinish
    exact .inr ⟨hpresent, rfl, h⟩

/-- A disk with a document, its image, and a staging directory with a file from an earlier run. -/
def leftover : Disk :=
  let work := { Disk.put {} [['w']] .directory with here := [['w']] }
  let document := work.put [['w'], Text.ofString "7-a.md"] (.file (Text.ofString "![](i)").toBytes)
  let image := document.put [['w'], ['i']] (.file ⟨#[1]⟩)
  let output := image.put [['w'], ['o']] .directory
  let staging := output.put [['w'], ['o'], Text.ofString ".7-a.partial"] .directory
  staging.put [['w'], ['o'], Text.ofString ".7-a.partial", ['x']] (.file ⟨#[2]⟩)

end Conversion
end GuideBundles
