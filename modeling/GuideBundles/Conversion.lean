/-
# `Conversion` — from documents to bundles on disk

A bundle is put together in a hidden staging directory beside its place and is then renamed, so
what has the name of a bundle is always a whole one.  A document whose bundle is there is skipped.
Documents are converted one by one in the order of their file names.
-/
import GuideBundles.Artifact
import GuideBundles.SectionMap.Load

namespace GuideBundles

namespace Source

/-- The document at a path. -/
def read (p : Path) : Script Source := do
  pure ⟨p, ← Script.readText p⟩

end Source

namespace Bundle

/-! ## Images -/

/-- Copies a local image into a bundle and gives its reference the name of the copy.  An image
stays as it is when it is on the web, when there is no such file, or when its name belongs to one
of the generated files. -/
def settleImage (docDir bundleDir : Path) (names : ArtifactNames) (image : Reference) :
    Script Reference :=
  if Url.isWeb image.target then pure image
  else match Path.fileName? ⟨image.target⟩ with
    | none => pure image
    | some name => do
      let source := docDir.join image.target
      if ← Script.request (.isFile source) then
        if names.contains name then pure image
        else do
          Script.copyFile source (bundleDir.join name)
          pure (image.withTarget name)
      else pure image

/-- Settles images in order; of two with the same file name the later one is kept. -/
def settleImages (docDir bundleDir : Path) (names : ArtifactNames) :
    List Reference → Script (List Reference)
  | [] => pure []
  | image :: rest => do
    let settled ← settleImage docDir bundleDir names image
    pure (settled :: (← settleImages docDir bundleDir names rest))

/-- The bundle of a document, with its images copied. -/
def assemble (id : ExampleId) (d : Document) (docDir bundleDir : Path) (names : ArtifactNames) :
    Script Bundle := do
  pure (ofDocument id d (← settleImages docDir bundleDir names d.images))

end Bundle

namespace Artifact

/-- Writes files into a directory, and tells their paths. -/
def writeAll (dir : Path) : List Artifact → Script (List Path)
  | [] => pure []
  | a :: rest => do
    Script.writeText (dir.join a.name) a.content
    pure (dir.join a.name :: (← writeAll dir rest))

end Artifact

namespace Conversion

/-! ## One document -/

/-- Where the bundle of an example lies. -/
def bundleDir (s : Settings) (id : ExampleId) : Path := s.outputDir.join id.text

/-- Where the bundle of an example is put together. -/
def stagingDir (s : Settings) (id : ExampleId) : Path :=
  s.outputDir.join ('.' :: id.text ++ Text.ofString ".partial")

/-- Puts the bundle of a document together in a directory. -/
def writeBundle (s : Settings) (source : Source) (id : ExampleId) (dir : Path) : Script Unit := do
  let names := ArtifactNames.ofName id.exampleName s.emit
  let bundle ← Bundle.assemble id (Document.ofText s.tags source.text) source.directory dir names
  let _ ← Artifact.writeAll dir (Artifact.ofBundle bundle s.emit)

/-- Makes an empty staging directory, in place of one that was left over. -/
def prepare (staging : Path) : Script Unit := do
  if ← Script.request (.present staging) then Script.removeTree staging
  Script.createDirs staging

/-- Converts a document whose bundle is not there. -/
def convertNew (s : Settings) (p : Path) (id : ExampleId) : Script Outcome := do
  let source ← Source.read p
  let staging := stagingDir s id
  prepare staging
  match ← (writeBundle s source id staging).attempt with
  | .ok () =>
    Script.rename staging (bundleDir s id)
    pure .converted
  | .error f =>
    let _ ← Script.request (.removeTree staging)
    .fail f

/-- Converts a document, unless its bundle is there. -/
def convertDocument (s : Settings) (p : Path) : Script Outcome := do
  let id ← Script.ofExcept (ExampleId.ofPath p)
  if ← Script.request (.present (bundleDir s id)) then pure .skipped else convertNew s p id

/-! ## A directory of documents -/

/-- Whether a file name is the name of a document. -/
def isDocumentName (s : Settings) (name : Text) : Bool :=
  Path.extensionOf name == some s.sourceExtension && name != s.indexDocument

/-- The paths at which there are files. -/
def keepFiles : List Path → Script (List Path)
  | [] => pure []
  | p :: rest => do
    let isFile ← Script.request (.isFile p)
    let kept ← keepFiles rest
    pure (if isFile then p :: kept else kept)

/-- The documents in a directory, in the order of their file names. -/
def collect (s : Settings) (dir : Path) : Script (List Path) := do
  let names ← Script.list dir
  keepFiles (((names.filter (isDocumentName s)).mergeSort Text.before).map dir.join)

/-- Converts documents in order and tells of each; `current` of `total` are already done. -/
def convertAll (s : Settings) (current total : Nat) : List Path → Script (List Outcome)
  | [] => pure []
  | p :: rest => do
    let outcome ← convertDocument s p
    Script.say (.document (p.stem?.getD []) outcome (current + 1) total)
    pure (outcome :: (← convertAll s (current + 1) total rest))

/-- Converts the documents in a directory. -/
def convertDirectory (s : Settings) (dir : Path) : Script Report := do
  Script.ofExcept s.validate
  if ← Script.request (.isDirectory dir) then
    Script.say (.phase .loadingSections)
    let sections ← SectionMap.load s.sectionsFile
    Script.createDirs s.outputDir
    Script.say (.phase .convertingDocuments)
    let documents ← collect s dir
    let outcomes ← convertAll s 0 documents.length documents
    let report : Report :=
      { seen := documents.length
        converted := outcomes.count .converted
        skipped := outcomes.count .skipped
        sectionMapEntries := sections.size }
    Script.say (.done report)
    pure report
  else .fail (.inputNotFound dir)

end Conversion
end GuideBundles
