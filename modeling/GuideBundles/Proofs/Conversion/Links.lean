/-
# `Proofs.Conversion.Links` — the links file is read back

No character of a link target is blank, so a target is one line of the links file.  Whatever becomes
of the images of a document, they stay images, and the links file says nothing of them.
-/
import GuideBundles.Proofs.Conversion.Images
import GuideBundles.Proofs.Markdown.Reference
import GuideBundles.Proofs.Text.LineEnds

namespace GuideBundles

theorem Link.of_mem_extract {t : Text} {r : Reference} (h : r ∈ extract t) :
    r.isLink = true ∧ r.target ≠ [] ∧ ∀ c ∈ r.target, isTargetChar c = true := by
  obtain ⟨target, htarget, rfl⟩ := List.mem_map.1 h
  obtain ⟨hmem, hweb⟩ := List.mem_filter.1 htarget
  refine ⟨rfl, ?_, (subset_of_mem_targetsFrom hmem).2⟩
  rintro rfl
  cases hweb

theorem Image.isLink_of_mem_extract {t : Text} {r : Reference} (h : r ∈ extract t) :
    r.isLink = false := by
  obtain ⟨target, alt, rfl, -⟩ := subset_of_mem_listFrom h
  rfl

namespace Bundle

variable {id : ExampleId} {tags : FenceTags} {t : Text} {docDir dir : Path} {names : ArtifactNames}
  {b : Bundle} {d d' : Disk}

/-- The links of a bundle are those of its document. -/
theorem links_of_ends_assemble
    (h : (assemble id (Document.ofText tags t) docDir dir names).Ends d (.ok b) d') :
    b.links = (Link.extract t).map Reference.target := by
  obtain ⟨images, hrun, rfl⟩ := ends_assemble.1 h
  have himages : ∀ r ∈ images, r.isLink = false := by
    intro r hr
    have hmem : r.isLink ∈ images.map Reference.isLink := List.mem_map_of_mem hr
    rw [map_isLink_of_ends_settleImages hrun] at hmem
    obtain ⟨image, himage, hsame⟩ := List.mem_map.1 hmem
    rw [← hsame, Image.isLink_of_mem_extract himage]
  have hlinks : (Link.extract t).filter Reference.isLink = Link.extract t :=
    List.filter_eq_self.2 fun r hr => (Link.of_mem_extract hr).1
  have hnone : images.filter Reference.isLink = [] :=
    List.filter_eq_nil_iff.2 fun r hr => by simp [himages r hr]
  show ((Link.extract t ++ images).filter Reference.isLink).map Reference.target = _
  rw [List.filter_append, hlinks, hnone, List.append_nil]

end Bundle

namespace Artifact

/-- Line by line, the links file of a document with links holds their targets, in order and as often
as they are there, whatever has become of the images.  Without links it is the default link. -/
theorem linksText_read {id : ExampleId} {tags : FenceTags} {t : Text} {docDir dir : Path}
    {names : ArtifactNames} {b : Bundle} {d d' : Disk} (emit : EmitSettings)
    (h : (Bundle.assemble id (Document.ofText tags t) docDir dir names).Ends d (.ok b) d') :
    (Link.extract t ≠ [] →
      Text.lines (linksText b emit) = (Link.extract t).map Reference.target) ∧
    (Link.extract t = [] → linksText b emit = emit.defaultLink) := by
  have hlinks := Bundle.links_of_ends_assemble h
  constructor
  · intro hne
    have hparts : ∀ p ∈ b.links, p ≠ [] ∧ '\n' ∉ p ∧ '\r' ∉ p := by
      intro p hp
      rw [hlinks] at hp
      obtain ⟨r, hr, rfl⟩ := List.mem_map.1 hp
      obtain ⟨-, htarget, hchars⟩ := Link.of_mem_extract hr
      refine ⟨htarget, fun hc => ?_, fun hc => ?_⟩ <;> cases hchars _ hc
    rw [linksText, if_neg (by rw [hlinks]; simpa using hne), Text.lines_join hparts, hlinks]
  · intro hnil
    rw [linksText, if_pos (by rw [hlinks, hnil]; rfl)]

/-- A link that is there twice, among images of which one is copied. -/
theorem linksText_read_gallery :
    let t := Text.ofString "![x](i)[a](http://a)![y](m)\n[b](https://b) [a](http://a)"
    let doc := Document.ofText {} t
    let dir := Path.ofString "b"
    ∃ b d', (Bundle.assemble ⟨['x'], rfl⟩ doc (Path.ofString "d") dir ⟨['s'], ['c'], ['l']⟩).Ends
        Bundle.gallery (.ok b) d' ∧
      b.images.map Reference.target = [['i'], ['m']] ∧
      d'.fileData? (dir.join ['i']) = some ⟨#[1]⟩ ∧
      ∀ emit, Text.lines (linksText b emit) =
        [Text.ofString "http://a", Text.ofString "https://b", Text.ofString "http://a"] := by
  intro t doc dir
  have hresult : ((Bundle.settleImages (Path.ofString "d") dir ⟨['s'], ['c'], ['l']⟩
      doc.images).run Bundle.gallery).result =
        .ok [.image ['i'] ['x'], .image ['m'] ['y']] := by
    decide +kernel
  have hlinks : Link.extract t = [.link (Text.ofString "http://a"),
      .link (Text.ofString "https://b"), .link (Text.ofString "http://a")] := by
    decide +kernel
  have hrun : (Bundle.assemble ⟨['x'], rfl⟩ doc (Path.ofString "d") dir
      ⟨['s'], ['c'], ['l']⟩).Ends Bundle.gallery (.ok _) _ :=
    Bundle.ends_assemble.2 ⟨_, Script.ends_of_result hresult, rfl⟩
  refine ⟨_, _, hrun, ?_, by decide +kernel, fun emit => ?_⟩
  · decide +kernel
  · rw [(linksText_read emit hrun).1 (by rw [hlinks]; nofun), hlinks]
    rfl

end Artifact
end GuideBundles
