/-
# `Proofs.Artifact.Names` — what the generated files are called

The name of an example is a piece of its identifier, and the three files are called after it.
-/
import GuideBundles.Artifact

namespace GuideBundles

theorem ExampleId.exampleName_subset (id : ExampleId) : id.exampleName ⊆ id.text := by
  unfold exampleName
  split
  · exact List.Subset.refl _
  · next hyphen rest hrest =>
    intro c hc
    have hmem : c ∈ id.text.dropWhile (· != '-') := by
      rw [hrest]
      exact List.mem_cons_of_mem _ hc
    exact (List.dropWhile_sublist _).subset hmem

theorem ExampleId.slash_not_mem_exampleName {id : ExampleId} (h : '/' ∉ id.text) :
    '/' ∉ id.exampleName :=
  fun hs => h (id.exampleName_subset hs)

namespace ArtifactNames

/-- The names of the generated files are names wherever the name of the example and the extensions
are free of slashes. -/
theorem name_of_mem_toList {name n : Text} {emit : EmitSettings} (hname : '/' ∉ name)
    (hsnippet : '/' ∉ emit.snippetExtension) (hcommand : '/' ∉ emit.commandExtension)
    (h : n ∈ (ofName name emit).toList) : n ≠ [] ∧ '/' ∉ n := by
  simp only [toList, ofName, List.mem_cons, List.not_mem_nil, or_false] at h
  rcases h with rfl | rfl | rfl
  · simp [hname, hsnippet]
  · simp [hname, hcommand]
  · have hlinks : '/' ∉ Text.ofString "_links.txt" := by decide
    exact ⟨by simp, by simp [hname, hlinks]⟩

/-- The names differ when the extensions do. -/
theorem nodup_toList (name : Text) {emit : EmitSettings}
    (h : emit.snippetExtension ≠ emit.commandExtension) : (ofName name emit).toList.Nodup := by
  have hlinks (e : Text) : name ++ '.' :: e ≠ name ++ Text.ofString "_links.txt" := by
    intro heq
    cases List.append_cancel_left heq
  simp [toList, ofName, h, hlinks]

end ArtifactNames

end GuideBundles
