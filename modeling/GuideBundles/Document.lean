/-
# `Document` — a document on disk and what is read from its text

Each dialect is extracted on its own from the whole text, so the note to a command may hold
snippet fences and the other way round.
-/
import GuideBundles.ExampleId
import GuideBundles.Markdown.Heading
import GuideBundles.Markdown.Reference
import GuideBundles.Settings

namespace GuideBundles

/-- A document as it lies on disk. -/
structure Source where
  path : Path
  text : Text

namespace Source

/-- The directory that a document lies in; a path without a parent is taken from where one is. -/
def directoryOf (path : Path) : Path := path.parent?.getD (Path.ofString ".")

/-- The directory of a document. -/
def directory (s : Source) : Path := directoryOf s.path

/-- The identifier of a document. -/
def id (s : Source) : Except Failure ExampleId := ExampleId.ofPath s.path

end Source

/-- What a document says. -/
structure Document where
  heading : Heading
  snippets : List CodeBlock
  commands : List CodeBlock
  links : List Reference
  images : List Reference

namespace Document

/-- What a text says, for the fences with the given tags. -/
def ofText (tags : FenceTags) (t : Text) : Document where
  heading := Heading.extract t
  snippets := CodeBlock.extract tags.snippet .snippet t
  commands := CodeBlock.extract tags.command .command t
  links := Link.extract t
  images := Image.extract t

end Document
end GuideBundles
