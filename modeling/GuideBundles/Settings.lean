/-
# `Settings` — what a run is told besides the documents

Everything has a default.  Settings are fit for a run when each dialect has a fence tag, no tag
belongs to both dialects, and snippet and shell file differ in their extension.
-/
import GuideBundles.Failure

namespace GuideBundles

/-- The fence tags of the two dialects. -/
structure FenceTags where
  snippet : List Text := [Text.ofString "python"]
  command : List Text := [Text.ofString "bash", Text.ofString "shell"]
deriving DecidableEq

/-- How the generated files are called, and what stands in them when the document is silent. -/
structure EmitSettings where
  snippetExtension : Text := Text.ofString "snippet"
  commandExtension : Text := Text.ofString "cmd"
  /-- The command that installs what the snippet needs. -/
  installCommand : Text := Text.ofString "pip install instructor pydantic"
  /-- The command that runs the snippet, with a placeholder for the name of its file. -/
  runCommand : Text := Text.ofString "python \x7bsnippet\x7d"
  /-- What the links file holds when there is no link. -/
  defaultLink : Text := Text.ofString "https://github.com/jxnl/instructor"
deriving DecidableEq

/-- What a run is told. -/
structure Settings where
  /-- The directory that bundles are written into. -/
  outputDir : Path := Path.ofString "examples"
  /-- The file that holds the section map. -/
  sectionsFile : Path := Path.ofString "data/sections.json"
  /-- The name of the document that never becomes a bundle. -/
  indexDocument : Text := Text.ofString "index.md"
  /-- The extension of documents. -/
  sourceExtension : Text := Text.ofString "md"
  tags : FenceTags := {}
  emit : EmitSettings := {}
deriving DecidableEq

namespace Settings

/-- The first reason why settings are not fit for a run. -/
def defect? (s : Settings) : Option Failure :=
  if s.tags.snippet = [] then some (.noTags .snippet)
  else if s.tags.command = [] then some (.noTags .command)
  else match s.tags.snippet.find? (s.tags.command.contains ·) with
    | some tag => some (.sharedTag tag)
    | none =>
      if s.emit.snippetExtension = s.emit.commandExtension then some .sameExtension else none

/-- Settings that are fit for a run have no defect. -/
def validate (s : Settings) : Except Failure Unit :=
  match s.defect? with
  | some f => .error f
  | none => .ok ()

/-- Settings pass exactly when each dialect has a tag, none is shared, and the extensions differ. -/
theorem validate_eq_ok_iff (s : Settings) :
    s.validate = .ok () ↔ s.tags.snippet ≠ [] ∧ s.tags.command ≠ [] ∧
      (∀ t ∈ s.tags.snippet, t ∉ s.tags.command) ∧
      s.emit.snippetExtension ≠ s.emit.commandExtension := by
  unfold validate defect?
  by_cases h₁ : s.tags.snippet = []
  · simp [h₁]
  · by_cases h₂ : s.tags.command = []
    · simp [h₁, h₂]
    · cases h₃ : s.tags.snippet.find? (s.tags.command.contains ·) with
      | some tag =>
        have hm := List.mem_of_find?_eq_some h₃
        have hc := List.find?_some h₃
        simp only [List.contains_iff_mem] at hc
        simp only [h₁, h₂, if_false]
        constructor
        · intro h; cases h
        · intro h; exact absurd hc (h.2.2.1 tag hm)
      | none =>
        have hn := List.find?_eq_none.1 h₃
        simp only [List.contains_iff_mem] at hn
        by_cases h₄ : s.emit.snippetExtension = s.emit.commandExtension
        · simp [h₁, h₂, h₄]
        · simp [h₁, h₂, h₄]
          exact hn

end Settings
end GuideBundles
