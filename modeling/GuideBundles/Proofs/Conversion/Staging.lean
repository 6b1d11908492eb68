/-
# `Proofs.Conversion.Staging` — what is put into a staging directory

A staging directory is emptied first.  Images are copied into it in order, each from where it lies
outside, and then the generated files are written.  Every step adds one file to those that are
there.
-/
import GuideBundles.Conversion
import GuideBundles.Proofs.Artifact.Names
import GuideBundles.Proofs.Disk.Staged
import GuideBundles.Proofs.Script
import Mathlib.Data.List.Forall2

namespace GuideBundles

/-! ## Emptying -/

namespace Conversion

variable {d d' : Disk}

/-- An empty directory is made after what was found in its place has been removed. -/
theorem ends_prepare_iff {p : Path} : (prepare p).Ends d (.ok ()) d' ↔
    ∃ m, (d.isPresent p = true ∧ d.removeTree p = .ok m ∨ d.isPresent p = false ∧ d = m) ∧
      (Script.createDirs p).Ends m (.ok ()) d' := by
  unfold prepare
  constructor
  · intro h
    obtain ⟨found, m, hfound, h⟩ := Script.ends_bind_ok.1 h
    obtain ⟨hpresent, rfl⟩ := Script.ends_present.1 hfound
    cases found with
    | true =>
      obtain ⟨⟨⟩, m, hremove, h⟩ := Script.ends_bind_ok.1 h
      exact ⟨m, .inl ⟨hpresent, Script.ends_removeTree.1 hremove⟩, h⟩
    | false => exact ⟨d, .inr ⟨hpresent, rfl⟩, h⟩
  · rintro ⟨m, ⟨hpresent, hremove⟩ | ⟨hpresent, rfl⟩, hcreate⟩
    · refine Script.ends_bind_ok.2 ⟨true, d, Script.ends_present.2 ⟨hpresent, rfl⟩, ?_⟩
      exact Script.ends_bind_ok.2 ⟨(), m, Script.ends_removeTree.2 hremove, hcreate⟩
    · exact Script.ends_bind_ok.2 ⟨false, d, Script.ends_present.2 ⟨hpresent, rfl⟩, hcreate⟩

theorem ends_prepare {p : Path} (hp : p.spelling ≠ []) (hup : .up ∉ p.steps)
    (hl : d.locate p ≠ []) (h : (prepare p).Ends d (.ok ()) d') :
    Disk.Emptied (d.locate p) d d' := by
  obtain ⟨m, ⟨-, hremove⟩ | ⟨habsent, rfl⟩, hcreate⟩ := ends_prepare_iff.1 h
  · obtain ⟨hmade, rfl⟩ := Script.ends_createDirs.1 hcreate
    exact Disk.emptied_of_removeTree hp hup hl hremove hmade
  · obtain ⟨hmade, rfl⟩ := Script.ends_createDirs.1 hcreate
    exact Disk.emptied_of_makeDirs hp hup habsent hmade

end Conversion

/-! ## Images -/

namespace Bundle

variable {base d d' : Disk} {dir docDir : Path} {names : ArtifactNames}
  {files : List (Text × ByteArray)} {image image' : Reference}

/-- The base name of a local image, with the path that it is looked for at. -/
def source? (docDir : Path) (image : Reference) : Option (Text × Path) :=
  if Url.isWeb image.target then none
  else (Path.fileName? ⟨image.target⟩).map fun name => (name, docDir.join image.target)

theorem source?_eq_some_iff {name : Text} {source : Path} :
    source? docDir image = some (name, source) ↔ Url.isWeb image.target = false ∧
      Path.fileName? ⟨image.target⟩ = some name ∧ docDir.join image.target = source := by
  unfold source?
  cases Url.isWeb image.target <;> simp

/-- The name and the bytes of the copy of an image: there is one when the image is a local one, a
file lies where it is looked for, and the name does not belong to one of the generated files. -/
def copy? (base : Disk) (docDir : Path) (names : ArtifactNames) (image : Reference) :
    Option (Text × ByteArray) :=
  (source? docDir image).bind fun (name, source) =>
    if names.contains name then none else (base.fileData? source).map fun data => (name, data)

theorem copy?_eq_some_iff {name : Text} {data : ByteArray} :
    copy? d docDir names image = some (name, data) ↔
      ∃ source, source? docDir image = some (name, source) ∧ names.contains name = false ∧
        d.fileData? source = some data := by
  unfold copy?
  constructor
  · intro h
    obtain ⟨⟨n, source⟩, hsource, h⟩ := Option.bind_eq_some_iff.1 h
    simp only at h
    split at h
    · cases h
    · next hfree =>
      obtain ⟨x, hx, hpair⟩ := Option.map_eq_some_iff.1 h
      obtain ⟨rfl, rfl⟩ := Prod.mk.inj hpair
      exact ⟨source, hsource, by simpa using hfree, hx⟩
  · rintro ⟨source, hsource, hfree, hdata⟩
    simp only [hsource, Option.bind_some, hfree, hdata]
    rfl

theorem copy?_congr
    (h : ∀ source, source? docDir image = some source →
      d.fileData? source.2 = base.fileData? source.2) :
    copy? d docDir names image = copy? base docDir names image := by
  unfold copy?
  cases hs : source? docDir image with
  | none => rfl
  | some source => simp [h source hs]

/-- An image as it stands in the bundle. -/
def settled (base : Disk) (docDir : Path) (names : ArtifactNames) (image : Reference) : Reference :=
  match copy? base docDir names image with
  | some (name, _) => image.withTarget name
  | none => image

/-- An image beside what it becomes in a directory and the copy that is made of it there: it stays
as it is, or it gets its base name and a copy has that name.  An image that is looked for elsewhere
becomes what the disk with the empty directory says. -/
structure Settles (base : Disk) (l : Location) (docDir : Path) (names : ArtifactNames)
    (image : Reference) (x : Reference × Option (Text × ByteArray)) : Prop where
  form : x = (image, none) ∨ ∃ name source data, source? docDir image = some (name, source) ∧
    names.contains name = false ∧ x = (image.withTarget name, some (name, data))
  elsewhere : (∀ source, source? docDir image = some source →
    Disk.isUnder l (base.locate source.2) = false) →
      x = (settled base docDir names image, copy? base docDir names image)

theorem settles_self {l : Location}
    (h : (∀ source, source? docDir image = some source →
      Disk.isUnder l (base.locate source.2) = false) → copy? base docDir names image = none) :
    Settles base l docDir names image (image, none) := by
  refine ⟨.inl rfl, ?_⟩
  intro hout
  rw [settled, h hout]

/-- When all images are looked for elsewhere, the disk with the empty directory says what they
become. -/
theorem eq_map_of_settles {l : Location} {images : List Reference}
    {xs : List (Reference × Option (Text × ByteArray))}
    (hout : ∀ image ∈ images, ∀ source, source? docDir image = some source →
      Disk.isUnder l (base.locate source.2) = false)
    (h : List.Forall₂ (Settles base l docDir names) images xs) :
    xs.map Prod.fst = images.map (settled base docDir names) ∧
      xs.filterMap Prod.snd = images.filterMap (copy? base docDir names) := by
  induction h with
  | nil => exact ⟨rfl, rfl⟩
  | @cons image x rest xs hx _ ih =>
    obtain ⟨hfst, hsnd⟩ := ih fun i hi => hout i (List.mem_cons_of_mem _ hi)
    rw [hx.elsewhere (hout image List.mem_cons_self)]
    refine ⟨by rw [List.map_cons, List.map_cons, hfst], ?_⟩
    rw [List.filterMap_cons, List.filterMap_cons, hsnd]

/-- An image stays as it is and nothing is done, or it is copied and gets the name of its copy. -/
theorem of_ends_settleImage
    (hrun : (settleImage docDir dir names image).Ends d (.ok image') d') :
    (copy? d docDir names image = none ∧ image' = image ∧ d' = d) ∨
      ∃ name source data, source? docDir image = some (name, source) ∧
        copy? d docDir names image = some (name, data) ∧ image' = image.withTarget name ∧
        d.copyFile source (dir.join name) = .ok d' := by
  have hstay (hnone : copy? d docDir names image = none)
      (hpure : (pure image : Script Reference).Ends d (.ok image') d') :
      copy? d docDir names image = none ∧ image' = image ∧ d' = d := by
    obtain ⟨himage, rfl⟩ := Script.ends_pure.1 hpure
    exact ⟨hnone, (Except.ok.inj himage).symm, rfl⟩
  unfold settleImage at hrun
  cases hweb : Url.isWeb image.target with
  | true =>
    rw [hweb, if_pos rfl] at hrun
    exact .inl (hstay (by simp [copy?, source?, hweb]) hrun)
  | false =>
    rw [hweb, if_neg (by simp)] at hrun
    cases hname : Path.fileName? ⟨image.target⟩ with
    | none =>
      rw [hname] at hrun
      exact .inl (hstay (by simp [copy?, source?, hweb, hname]) hrun)
    | some name =>
      have hsource : source? docDir image = some (name, docDir.join image.target) := by
        simp [source?, hweb, hname]
      rw [hname] at hrun
      obtain ⟨found, m, hfound, hrun⟩ := Script.ends_bind_ok.1 hrun
      obtain ⟨rfl, rfl⟩ := Script.ends_isFile.1 hfound
      rw [Disk.isFile_eq_isSome] at hrun
      cases hdata : d.fileData? (docDir.join image.target) with
      | none =>
        rw [hdata, if_neg (by simp)] at hrun
        exact .inl (hstay (by simp [copy?, hsource, hdata]) hrun)
      | some data =>
        rw [hdata, if_pos (by simp)] at hrun
        cases htaken : names.contains name with
        | true =>
          rw [htaken, if_pos rfl] at hrun
          exact .inl (hstay (by simp [copy?, hsource, htaken]) hrun)
        | false =>
          rw [htaken, if_neg (by simp)] at hrun
          obtain ⟨⟨⟩, m, hcopy, hrun⟩ := Script.ends_bind_ok.1 hrun
          obtain ⟨himage, rfl⟩ := Script.ends_pure.1 hrun
          exact .inr ⟨name, _, data, hsource, by simp [copy?, hsource, htaken, hdata],
            (Except.ok.inj himage).symm, Script.ends_copyFile.1 hcopy⟩

theorem ends_settleImage
    (h : Disk.Staged (base.locate dir) base files d)
    (hrun : (settleImage docDir dir names image).Ends d (.ok image') d') :
    ∃ x, Settles base (base.locate dir) docDir names image x ∧ image' = x.1 ∧
      Disk.Staged (base.locate dir) base (x.2.toList ++ files) d' := by
  rcases of_ends_settleImage hrun with
    ⟨hnone, rfl, rfl⟩ | ⟨name, source, data, hsource, hmade, rfl, hcopy⟩
  · refine ⟨(image', none), settles_self (fun hout => ?_), rfl, h⟩
    rw [← copy?_congr fun source hsource => h.fileData?_eq (hout source hsource), hnone]
  · obtain ⟨-, hname, rfl⟩ := source?_eq_some_iff.1 hsource
    obtain ⟨-, -, hfree, -⟩ := copy?_eq_some_iff.1 hmade
    obtain ⟨hn, -, -, hs⟩ := Path.of_fileName? hname
    obtain ⟨data', hstaged, hdata'⟩ := h.copyFile hn hs hcopy
    refine ⟨(image.withTarget name, some (name, data')), ⟨?_, ?_⟩, rfl, hstaged⟩
    · exact .inr ⟨name, docDir.join image.target, data', hsource, hfree, rfl⟩
    · intro hout
      have hmade : copy? base docDir names image = some (name, data') :=
        copy?_eq_some_iff.2 ⟨_, hsource, hfree, hdata' (hout _ hsource)⟩
      rw [settled, hmade]

theorem ends_settleImages_cons {rest images : List Reference}
    (hrun : (settleImages docDir dir names (image :: rest)).Ends d (.ok images) d') :
    ∃ image' rest' m, (settleImage docDir dir names image).Ends d (.ok image') m ∧
      (settleImages docDir dir names rest).Ends m (.ok rest') d' ∧ image' :: rest' = images := by
  rw [settleImages] at hrun
  obtain ⟨image', m, hhead, hrun⟩ := Script.ends_bind_ok.1 hrun
  obtain ⟨rest', m', htail, hrun⟩ := Script.ends_bind_ok.1 hrun
  obtain ⟨himages, rfl⟩ := Script.ends_pure.1 hrun
  exact ⟨image', rest', m, hhead, htail, Except.ok.inj himages⟩

/-- Images are settled one after the other, and each copy is added to those that are there. -/
theorem ends_settleImages {images images' : List Reference}
    (h : Disk.Staged (base.locate dir) base files d)
    (hrun : (settleImages docDir dir names images).Ends d (.ok images') d') :
    ∃ xs, List.Forall₂ (Settles base (base.locate dir) docDir names) images xs ∧
      images' = xs.map Prod.fst ∧ Disk.Staged (base.locate dir) base
        ((xs.filterMap Prod.snd).reverse ++ files) d' := by
  induction images generalizing d files images' with
  | nil =>
    obtain ⟨himages, rfl⟩ := Script.ends_pure.1 hrun
    exact ⟨[], .nil, (Except.ok.inj himages).symm, h⟩
  | cons image rest ih =>
    obtain ⟨image', rest', m, hhead, htail, rfl⟩ := ends_settleImages_cons hrun
    obtain ⟨x, hx, rfl, hstaged⟩ := ends_settleImage h hhead
    obtain ⟨xs, hxs, rfl, hstaged⟩ := ih hstaged htail
    refine ⟨x :: xs, .cons hx hxs, rfl, ?_⟩
    cases hcopy : x.2 with
    | none => simpa [hcopy] using hstaged
    | some file => simpa [hcopy] using hstaged

/-- The bundle of a document has its images as they were settled. -/
theorem ends_assemble {id : ExampleId} {doc : Document} {b : Bundle} :
    (assemble id doc docDir dir names).Ends d (.ok b) d' ↔ ∃ images,
      (settleImages docDir dir names doc.images).Ends d (.ok images) d' ∧
        ofDocument id doc images = b := by
  unfold assemble
  rw [Script.ends_bind_ok]
  constructor
  · rintro ⟨images, m, hrun, hpure⟩
    obtain ⟨hb, rfl⟩ := Script.ends_pure.1 hpure
    exact ⟨images, hrun, Except.ok.inj hb⟩
  · rintro ⟨images, hrun, rfl⟩
    exact ⟨images, d', hrun, Script.ends_pure.2 ⟨rfl, rfl⟩⟩

end Bundle

/-! ## Generated files -/

namespace Artifact

/-- The files in the order in which a directory shows them, the last one first. -/
def written (artifacts : List Artifact) : List (Text × ByteArray) :=
  (artifacts.map fun a => (a.name, a.content.toBytes)).reverse

theorem ends_writeAll {base d d' : Disk} {dir : Path} {files : List (Text × ByteArray)}
    {artifacts : List Artifact} {paths : List Path}
    (hnames : ∀ a ∈ artifacts, a.name ≠ [] ∧ '/' ∉ a.name)
    (h : Disk.Staged (base.locate dir) base files d)
    (hrun : (writeAll dir artifacts).Ends d (.ok paths) d') :
    Disk.Staged (base.locate dir) base (written artifacts ++ files) d' := by
  induction artifacts generalizing d files paths with
  | nil =>
    obtain ⟨-, rfl⟩ := Script.ends_pure.1 hrun
    exact h
  | cons a rest ih =>
    rw [writeAll] at hrun
    obtain ⟨⟨⟩, m, hwrite, hrun⟩ := Script.ends_bind_ok.1 hrun
    obtain ⟨paths', m', htail, hrun⟩ := Script.ends_bind_ok.1 hrun
    obtain ⟨-, rfl⟩ := Script.ends_pure.1 hrun
    obtain ⟨hn, hs⟩ := hnames a List.mem_cons_self
    have hstaged := h.writeBytes hn hs (Script.ends_writeText.1 hwrite)
    have hall := ih (fun b hb => hnames b (List.mem_cons_of_mem _ hb)) hstaged htail
    simpa [written] using hall

end Artifact
end GuideBundles
