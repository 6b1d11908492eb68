/-
# `Proofs.Conversion.Images` — images copied into any directory

The directory that images are copied into may hold files before, even those that are copied.  The
disk before the first copy says what all the copies will be.  An image whose copy goes elsewhere is
read as it was at first, for a copy can only take the place of a file with its own name in its own
directory; an image that lies where its copy goes is emptied.

All this is about disks without links, as disks here are.  Copying follows a link: one that has the
name of an image would carry the bytes to the file that it leads to, be it a generated file or the
image itself.
-/
import GuideBundles.Proofs.Conversion.Staging
import GuideBundles.Proofs.Disk.Copied

namespace GuideBundles

namespace Reference

variable {r : Reference} {t : Text}

@[simp] theorem isLink_withTarget : (r.withTarget t).isLink = r.isLink := by
  cases r <;> rfl

@[simp] theorem alt?_withTarget : (r.withTarget t).alt? = r.alt? := by
  cases r <;> rfl

@[simp] theorem target_withTarget : (r.withTarget t).target = t := by
  cases r <;> rfl

end Reference

namespace Bundle

variable {base d d' : Disk} {docDir dir : Path} {names : ArtifactNames}
  {files : List (Text × ByteArray)} {image image' : Reference} {images images' : List Reference}
  {name : Text} {data : ByteArray}

/-! ## What is copied -/

/-- A local image is looked for where its copy goes. -/
def IsOwnCopy (d : Disk) (docDir dir : Path) (image : Reference) (name : Text) : Prop :=
  source? docDir image = some (name, docDir.join image.target) ∧
    d.target (docDir.join image.target) = .ok (d.locate dir ++ [name])

instance : Decidable (IsOwnCopy d docDir dir image name) :=
  inferInstanceAs (Decidable (_ ∧ _))

/-- The copy of an image when there are already files from earlier images, as the disk before the
first of them says. -/
def nextCopy (base : Disk) (docDir dir : Path) (names : ArtifactNames)
    (files : List (Text × ByteArray)) (image : Reference) : Option (Text × ByteArray) :=
  (source? docDir image).bind fun found =>
    if names.contains found.1 then none
    else if base.target found.2 = .ok (base.locate dir ++ [found.1]) then
      -- The file is there if one was there at first or came there as a copy.
      if (files.map Prod.fst).contains found.1 ∨ (base.fileData? found.2).isSome then
        some (found.1, ByteArray.empty)
      else none
    else (base.fileData? found.2).map fun data => (found.1, data)

/-- The files in the directory after a run, the last one first. -/
def copiesAfter (base : Disk) (docDir dir : Path) (names : ArtifactNames)
    (files : List (Text × ByteArray)) (images : List Reference) : List (Text × ByteArray) :=
  images.foldl (fun files image => (nextCopy base docDir dir names files image).toList ++ files)
    files

/-- An image with the name of its copy, if there is one. -/
def named (image : Reference) (copy : Option (Text × ByteArray)) : Reference :=
  copy.elim image fun file => image.withTarget file.1

@[simp] theorem isLink_named {copy : Option (Text × ByteArray)} :
    (named image copy).isLink = image.isLink := by
  cases copy <;> simp [named]

@[simp] theorem alt?_named {copy : Option (Text × ByteArray)} :
    (named image copy).alt? = image.alt? := by
  cases copy <;> simp [named]

@[simp] theorem target_named {copy : Option (Text × ByteArray)} :
    (named image copy).target = copy.elim image.target Prod.fst := by
  cases copy <;> simp [named]

theorem source?_of_copy? (h : copy? d docDir names image = some (name, data)) :
    source? docDir image = some (name, docDir.join image.target) ∧ names.contains name = false ∧
      d.fileData? (docDir.join image.target) = some data := by
  obtain ⟨source, hsource, hfree, hdata⟩ := copy?_eq_some_iff.1 h
  obtain ⟨-, -, rfl⟩ := source?_eq_some_iff.1 hsource
  exact ⟨hsource, hfree, hdata⟩

theorem nextCopy_of_own (h : IsOwnCopy base docDir dir image name)
    (hfree : names.contains name = false) (hthere : name ∈ files.map Prod.fst ∨
      (base.fileData? (docDir.join image.target)).isSome) :
    nextCopy base docDir dir names files image = some (name, ByteArray.empty) := by
  rw [← List.contains_iff_mem] at hthere
  unfold nextCopy
  simp only [h.1, Option.bind_some, hfree, Bool.false_eq_true, if_false, if_pos h.2,
    if_pos hthere]

/-- An image that can be copied before the first copy is copied when its turn comes. -/
theorem nextCopy_of_copy? (dir : Path) (files : List (Text × ByteArray))
    (h : copy? base docDir names image = some (name, data)) :
    nextCopy base docDir dir names files image =
      some (name, if base.target (docDir.join image.target) = .ok (base.locate dir ++ [name])
        then ByteArray.empty else data) := by
  obtain ⟨hsource, hfree, hdata⟩ := source?_of_copy? h
  unfold nextCopy
  simp only [hsource, Option.bind_some, hfree, Bool.false_eq_true, if_false, hdata,
    Option.isSome_some, or_true, if_true, Option.map_some]
  split <;> rfl

/-- A copy has the name of an image that lies in its place, or of one that can be copied before the
first copy. -/
theorem of_nextCopy (h : nextCopy base docDir dir names files image = some (name, data)) :
    IsOwnCopy base docDir dir image name ∨
      copy? base docDir names image = some (name, data) := by
  unfold nextCopy at h
  obtain ⟨⟨n, source⟩, hsource, h⟩ := Option.bind_eq_some_iff.1 h
  obtain ⟨-, -, rfl⟩ := source?_eq_some_iff.1 hsource
  simp only at h
  split at h
  · cases h
  · next hfree =>
    split at h
    · next htarget =>
      split at h
      · obtain ⟨rfl, -⟩ := Prod.mk.inj (Option.some.inj h)
        exact .inl ⟨hsource, htarget⟩
      · cases h
    · obtain ⟨x, hx, hpair⟩ := Option.map_eq_some_iff.1 h
      obtain ⟨rfl, rfl⟩ := Prod.mk.inj hpair
      exact .inr (copy?_eq_some_iff.2 ⟨_, hsource, by simpa using hfree, hx⟩)

/-! ## Runs -/

/-- When its turn comes, an image is copied as the disk before the first copy says. -/
theorem nextCopy_eq (h : Disk.Filled dir base files d) :
    nextCopy base docDir dir names files image =
      (copy? d docDir names image).map fun file => (file.1,
        if base.target (docDir.join image.target) = .ok (base.locate dir ++ [file.1])
          then ByteArray.empty else file.2) := by
  unfold nextCopy copy?
  cases hs : source? docDir image with
  | none => rfl
  | some found =>
    obtain ⟨name, source⟩ := found
    obtain ⟨-, hname, rfl⟩ := source?_eq_some_iff.1 hs
    simp only [Option.bind_some]
    cases names.contains name with
    | true => rfl
    | false =>
      by_cases hown : base.target (docDir.join image.target) = .ok (base.locate dir ++ [name])
      · simp only [Bool.false_eq_true, if_false, if_pos hown, List.contains_iff_mem,
          ← h.isSome_fileData?_iff hown]
        cases d.fileData? (docDir.join image.target) <;> simp [hown]
      · rw [h.fileData?_join_eq hname hown]
        cases base.fileData? (docDir.join image.target) <;> simp [hown]

theorem filled_of_ends_settleImage (h : Disk.Filled dir base files d)
    (hrun : (settleImage docDir dir names image).Ends d (.ok image') d') :
    image' = named image (nextCopy base docDir dir names files image) ∧
      Disk.Filled dir base ((nextCopy base docDir dir names files image).toList ++ files) d' := by
  rw [nextCopy_eq h]
  rcases of_ends_settleImage hrun with
    ⟨hnone, rfl, rfl⟩ | ⟨name, source, data, hsource, hmade, rfl, hcopy⟩
  · rw [hnone]
    exact ⟨rfl, h⟩
  · obtain ⟨-, hname, rfl⟩ := source?_eq_some_iff.1 hsource
    obtain ⟨-, -, hdata⟩ := source?_of_copy? hmade
    obtain ⟨hn, -, -, hs⟩ := Path.of_fileName? hname
    obtain ⟨data', hdata', hfilled⟩ := h.copyFile hn hs hcopy
    obtain rfl : data = data' := Option.some.inj (hdata.symm.trans hdata')
    rw [hmade]
    exact ⟨rfl, hfilled⟩

/-- All images get the names of their copies, and the copies are in the directory. -/
theorem filled_of_ends_settleImages (h : Disk.Filled dir base files d)
    (hrun : (settleImages docDir dir names images).Ends d (.ok images') d') :
    List.Forall₂ (fun image image' =>
      ∃ files, image' = named image (nextCopy base docDir dir names files image)) images images' ∧
      Disk.Filled dir base (copiesAfter base docDir dir names files images) d' := by
  induction images generalizing d files images' with
  | nil =>
    obtain ⟨himages, rfl⟩ := Script.ends_pure.1 hrun
    obtain rfl := Except.ok.inj himages
    exact ⟨.nil, h⟩
  | cons image rest ih =>
    obtain ⟨image', rest', m, hhead, htail, rfl⟩ := ends_settleImages_cons hrun
    obtain ⟨himage, hfilled⟩ := filled_of_ends_settleImage h hhead
    obtain ⟨hrest, hfilled⟩ := ih hfilled htail
    exact ⟨.cons ⟨files, himage⟩ hrest, hfilled⟩

/-- No image becomes a link, and no link an image. -/
theorem map_isLink_of_ends_settleImages
    (hrun : (settleImages docDir dir names images).Ends d (.ok images') d') :
    images'.map Reference.isLink = images.map Reference.isLink := by
  obtain ⟨hnamed, -⟩ := filled_of_ends_settleImages (.refl dir d) hrun
  clear hrun
  induction hnamed with
  | nil => rfl
  | cons himage _ ih =>
    obtain ⟨files, rfl⟩ := himage
    rw [List.map_cons, List.map_cons, isLink_named, ih]

/-! ## Images from elsewhere -/

/-- A disk with images in a directory and a bundle that holds files with their names. -/
def gallery : Disk :=
  let work := { Disk.put {} [['w']] .directory with here := [['w']] }
  let docs := work.put [['w'], ['d']] .directory
  let first := docs.put [['w'], ['d'], ['i']] (.file ⟨#[1]⟩)
  let inner := first.put [['w'], ['d'], ['s']] .directory
  let second := inner.put [['w'], ['d'], ['s'], ['i']] (.file ⟨#[2]⟩)
  let taken := second.put [['w'], ['d'], ['l']] (.file ⟨#[3]⟩)
  let bundle := taken.put [['w'], ['b']] .directory
  let links := bundle.put [['w'], ['b'], ['l']] (.file ⟨#[4]⟩)
  links.put [['w'], ['b'], ['i']] (.file ⟨#[5]⟩)

/-- Once there is a copy with a name, there will be one. -/
theorem mem_copiesAfter_of_mem (h : name ∈ files.map Prod.fst) :
    name ∈ (copiesAfter base docDir dir names files images).map Prod.fst := by
  unfold copiesAfter
  induction images generalizing files with
  | nil => exact h
  | cons image rest ih =>
    rw [List.foldl_cons]
    refine ih ?_
    rw [List.map_append]
    exact List.mem_append_right _ h

theorem copiesAfter_append (before after : List Reference) :
    copiesAfter base docDir dir names files (before ++ after) =
      copiesAfter base docDir dir names (copiesAfter base docDir dir names files before) after :=
  List.foldl_append

theorem mem_copiesAfter (himage : image ∈ images)
    (h : copy? base docDir names image = some (name, data)) :
    name ∈ (copiesAfter base docDir dir names files images).map Prod.fst := by
  obtain ⟨before, after, rfl⟩ := List.mem_iff_append.1 himage
  rw [copiesAfter_append, copiesAfter, List.foldl_cons, nextCopy_of_copy? dir _ h]
  exact mem_copiesAfter_of_mem List.mem_cons_self

theorem lookup_copiesAfter (files : List (Text × ByteArray))
    (h : ∀ image ∈ images, ¬ IsOwnCopy base docDir dir image name ∧
      ∀ data, copy? base docDir names image ≠ some (name, data)) :
    (copiesAfter base docDir dir names files images).lookup name = files.lookup name := by
  unfold copiesAfter
  induction images generalizing files with
  | nil => rfl
  | cons image rest ih =>
    rw [List.foldl_cons, ih _ fun i hi => h i (List.mem_cons_of_mem _ hi)]
    cases hnext : nextCopy base docDir dir names files image with
    | none => rfl
    | some file =>
      have hne : name ≠ file.1 := by
        rintro rfl
        obtain ⟨hown, hcopy⟩ := h image List.mem_cons_self
        exact (of_nextCopy hnext).elim hown (hcopy file.2)
      rw [Option.toList_some, List.singleton_append, List.lookup_cons, beq_false_of_ne hne]

/-- The last copy with a name is the one that is left. -/
theorem lookup_copiesAfter_of_last {before after : List Reference}
    (hnext : nextCopy base docDir dir names (copiesAfter base docDir dir names files before) image =
      some (name, data))
    (hafter : ∀ other ∈ after, ¬ IsOwnCopy base docDir dir other name ∧
      ∀ data, copy? base docDir names other ≠ some (name, data)) :
    (copiesAfter base docDir dir names files (before ++ image :: after)).lookup name =
      some data := by
  have h := lookup_copiesAfter ((name, data) :: copiesAfter base docDir dir names files before)
    hafter
  rw [copiesAfter_append, copiesAfter, List.foldl_cons, hnext]
  exact h.trans List.lookup_cons_self

/-- When a run ends well, every image that could be copied has its base name as its target, and its
file is as it was, unless it lies where its copy goes.  Let no later image be copied under a name.
Then an image that could be copied under this name from elsewhere has a copy with its bytes, and one
that lies where its copy goes has become empty, if anything was copied by that time. -/
theorem sources_kept_unless_own
    (hrun : (settleImages docDir dir names images).Ends d (.ok images') d') :
    List.Forall₂ (fun image image' => ∀ name data,
      copy? d docDir names image = some (name, data) → image'.target = name) images images' ∧
    (∀ image ∈ images, ∀ name data, copy? d docDir names image = some (name, data) →
      ¬ IsOwnCopy d docDir dir image name →
      d'.fileData? (docDir.join image.target) = some data) ∧
    ∀ before image after name, images = before ++ image :: after →
      (∀ other ∈ after, ¬ IsOwnCopy d docDir dir other name ∧
        ∀ data, copy? d docDir names other ≠ some (name, data)) →
      (∀ data, copy? d docDir names image = some (name, data) →
        ¬ IsOwnCopy d docDir dir image name → d'.fileData? (dir.join name) = some data) ∧
      (IsOwnCopy d docDir dir image name →
        (∃ other ∈ before ++ [image], ∃ data, copy? d docDir names other = some (name, data)) →
        d'.fileData? (dir.join name) = some ByteArray.empty) := by
  obtain ⟨himages, hfilled⟩ := filled_of_ends_settleImages (.refl dir d) hrun
  refine ⟨?_, ?_, ?_⟩
  · refine himages.imp ?_
    rintro image image' ⟨files, rfl⟩ name data hmade
    rw [target_named, nextCopy_of_copy? dir files hmade]
    rfl
  · intro image _ name data hmade hapart
    obtain ⟨hsource, -, hdata⟩ := source?_of_copy? hmade
    obtain ⟨-, hname, -⟩ := source?_eq_some_iff.1 hsource
    rw [hfilled.fileData?_join_eq hname fun htarget => hapart ⟨hsource, htarget⟩, hdata]
  · rintro before image after name rfl hafter
    constructor
    · intro data hmade hapart
      have hne : d.target (docDir.join image.target) ≠ .ok (d.locate dir ++ [name]) :=
        fun htarget => hapart ⟨(source?_of_copy? hmade).1, htarget⟩
      have hnext := nextCopy_of_copy? dir (copiesAfter d docDir dir names [] before) hmade
      rw [if_neg hne] at hnext
      exact hfilled.fileData?_join (lookup_copiesAfter_of_last hnext hafter)
    · rintro hown ⟨other, hother, data, hmade⟩
      refine hfilled.fileData?_join (lookup_copiesAfter_of_last
        (nextCopy_of_own hown (source?_of_copy? hmade).2.1 ?_) hafter)
      rcases List.mem_append.1 hother with hother | hother
      · exact .inl (mem_copiesAfter hother hmade)
      · obtain rfl := List.mem_singleton.1 hother
        exact .inr (by rw [(source?_of_copy? hmade).2.2]; rfl)

/-- An image in the bundle, and one from elsewhere. -/
theorem sources_kept_unless_own_gallery :
    let docDir := Path.ofString "d"
    let dir := Path.ofString "b"
    let images : List Reference := [.image (Text.ofString "../b/l") [], .image ['i'] []]
    ∃ images' d',
      (settleImages docDir dir ⟨['s'], ['c'], ['k']⟩ images).Ends gallery (.ok images') d' ∧
      d'.fileData? (docDir.join ['i']) = some ⟨#[1]⟩ ∧ d'.fileData? (dir.join ['i']) = some ⟨#[1]⟩ ∧
      gallery.fileData? (dir.join ['l']) = some ⟨#[4]⟩ ∧
      d'.fileData? (dir.join ['l']) = some ByteArray.empty := by
  intro docDir dir images
  have hresult : ((settleImages docDir dir ⟨['s'], ['c'], ['k']⟩ images).run gallery).result =
      .ok [.image ['l'] [], .image ['i'] []] := by
    decide +kernel
  have hrun := Script.ends_of_result hresult
  have hl : copy? gallery docDir ⟨['s'], ['c'], ['k']⟩ (.image (Text.ofString "../b/l") []) =
      some (['l'], ⟨#[4]⟩) := by
    decide +kernel
  have hi : copy? gallery docDir ⟨['s'], ['c'], ['k']⟩ (.image ['i'] []) =
      some (['i'], ⟨#[1]⟩) := by
    decide +kernel
  have hapart : ¬ IsOwnCopy gallery docDir dir (.image ['i'] []) ['i'] := by decide +kernel
  have hown : IsOwnCopy gallery docDir dir (.image (Text.ofString "../b/l") []) ['l'] := by
    decide +kernel
  have hafter : ∀ other ∈ [Reference.image ['i'] []],
      ¬ IsOwnCopy gallery docDir dir other ['l'] ∧
        ∀ data, copy? gallery docDir ⟨['s'], ['c'], ['k']⟩ other ≠ some (['l'], data) := by
    intro other hother
    obtain rfl := List.mem_singleton.1 hother
    refine ⟨by decide +kernel, fun data hdata => ?_⟩
    cases hi.symm.trans hdata
  obtain ⟨-, hkept, hlast⟩ := sources_kept_unless_own hrun
  exact ⟨_, _, hrun, hkept _ (List.mem_cons_of_mem _ List.mem_cons_self) _ _ hi hapart,
    (hlast [_] _ [] _ rfl nofun).1 _ hi hapart, by decide +kernel,
    (hlast [] _ [_] _ rfl hafter).2 hown ⟨_, List.mem_cons_self, _, hl⟩⟩

/-- An image of a document in the directory of the bundle is emptied. -/
theorem emptied_of_same_directory :
    let dir := Path.ofString "d"
    let images : List Reference := [.image ['i'] []]
    ∃ d', (settleImages dir dir ⟨['s'], ['c'], ['l']⟩ images).Ends gallery (.ok images) d' ∧
      gallery.fileData? (dir.join ['i']) = some ⟨#[1]⟩ ∧
      d'.fileData? (dir.join ['i']) = some ByteArray.empty := by
  intro dir images
  refine ⟨_, Script.ends_of_result ?_, ?_, ?_⟩ <;> decide +kernel

end Bundle
end GuideBundles
