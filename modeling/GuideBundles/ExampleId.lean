/-
# `ExampleId` — identifiers of examples

An example is called after the file name of its document, `007-anthropic` for instance.  The part
after the first hyphen names its files, and the whole, set in title case, stands in for a missing
title.
-/
import GuideBundles.Failure
import GuideBundles.Text.Blank
import GuideBundles.Text.Casing

namespace GuideBundles

/-- The identifier of an example: any text that is not all blank. -/
structure ExampleId where
  text : Text
  hasInk : Text.hasInk text = true

namespace ExampleId

/-- A text as an identifier. -/
def ofText (t : Text) : Except Failure ExampleId :=
  if h : Text.hasInk t = true then .ok ⟨t, h⟩ else .error .emptyId

/-- The identifier of the document at a path: its file name without the extension. -/
def ofPath (p : Path) : Except Failure ExampleId :=
  match p.stem? with
  | some stem => ofText stem
  | none => .error (.noIdIn p)

/-- The name of the generated files: what follows the first hyphen, or the whole. -/
def exampleName (id : ExampleId) : Text :=
  match id.text.dropWhile (· != '-') with
  | [] => id.text
  | _ :: rest => rest

/-- A word with a capital first letter. -/
def titleWord : Text → Text
  | [] => []
  | c :: t => Text.Casing.upper c ++ Text.Casing.lowerText t

/-- The title of an example whose document has none: the words of its identifier, which hyphens and
underscores separate. -/
def fallbackTitle (id : ExampleId) : Text :=
  Text.join [' '] ((Text.splitOn (fun c => c == '-' || c == '_') id.text).map titleWord)

end ExampleId
end GuideBundles
