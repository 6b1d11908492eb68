/-
# `Settings.File` — settings as a file

The file is a TOML document with the tables `defaults`, `dialects` and `emit`.  Every table and
every key may be missing and then has its default; keys that mean nothing here are passed over.
-/
import GuideBundles.Settings
import GuideBundles.Toml.Reader

namespace GuideBundles.Settings

open Toml (Item)

/-! ## Keys -/

def tableKeys : List Text := ["defaults", "dialects", "emit"].map Text.ofString

def defaultsKeys : List Text :=
  ["output_dir", "sections_file", "index_document", "source_extension"].map Text.ofString

def dialectsKeys : List Text := ["snippet_tags", "command_tags"].map Text.ofString

def emitKeys : List Text :=
  ["snippet_extension", "command_extension", "install_command", "run_command",
    "default_link"].map Text.ofString

/-! ## Reading -/

/-- A field that may be missing. -/
def fieldOr {α : Type} (read? : Item → Option α) (default : α) : Option Item → Option α
  | none => some default
  | some item => read? item

/-- The fields of a table that may be missing. -/
def tableOr (keys : List Text) (table : Option Item) : Option (List (Option Item)) :=
  fieldOr (Item.fields? keys) (keys.map fun _ => none) table

/-- The settings that a document holds. -/
def ofItem? (document : Item) : Option Settings := do
  let [defaults, dialects, emit] ← document.fields? tableKeys | none
  let [outputDir, sectionsFile, indexDocument, sourceExtension] ← tableOr defaultsKeys defaults
    | none
  let [snippetTags, commandTags] ← tableOr dialectsKeys dialects | none
  let [snippetExtension, commandExtension, installCommand, runCommand, defaultLink] ←
    tableOr emitKeys emit | none
  let d : Settings := {}
  some {
    outputDir := ⟨← fieldOr Item.text? d.outputDir.spelling outputDir⟩
    sectionsFile := ⟨← fieldOr Item.text? d.sectionsFile.spelling sectionsFile⟩
    indexDocument := ← fieldOr Item.text? d.indexDocument indexDocument
    sourceExtension := ← fieldOr Item.text? d.sourceExtension sourceExtension
    tags := {
      snippet := ← fieldOr Item.texts? d.tags.snippet snippetTags
      command := ← fieldOr Item.texts? d.tags.command commandTags }
    emit := {
      snippetExtension := ← fieldOr Item.text? d.emit.snippetExtension snippetExtension
      commandExtension := ← fieldOr Item.text? d.emit.commandExtension commandExtension
      installCommand := ← fieldOr Item.text? d.emit.installCommand installCommand
      runCommand := ← fieldOr Item.text? d.emit.runCommand runCommand
      defaultLink := ← fieldOr Item.text? d.emit.defaultLink defaultLink } }

/-- The settings that a text holds. -/
def ofText? (t : Text) : Option Settings := (Item.ofText? t).bind ofItem?

/-! ## Writing -/

/-- A table with its keys and the written values. -/
def writeTable (key : String) (keys values : List Text) : Text :=
  '[' :: Text.ofString key ++ Text.ofString "]\n"
    ++ (keys.zip values).flatMap fun (k, v) => k ++ Text.ofString " = " ++ v ++ ['\n']

/-- Settings as the text of a file. -/
def toText (s : Settings) : Text :=
  writeTable "defaults" defaultsKeys
      ([s.outputDir.spelling, s.sectionsFile.spelling, s.indexDocument, s.sourceExtension].map
        Toml.Phrase.write)
    ++ '\n' :: writeTable "dialects" dialectsKeys
      ([s.tags.snippet, s.tags.command].map Toml.Phrase.writeList)
    ++ '\n' :: writeTable "emit" emitKeys
      ([s.emit.snippetExtension, s.emit.commandExtension, s.emit.installCommand,
        s.emit.runCommand, s.emit.defaultLink].map Toml.Phrase.write)

end GuideBundles.Settings
