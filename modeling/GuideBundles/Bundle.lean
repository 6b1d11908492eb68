/-
# `Bundle` — an example as it is published

A bundle is a document with an identifier, a title in any case, and one list of references: the
links and then the images.
-/
import GuideBundles.Document

namespace GuideBundles

/-- An example with everything that its files are made of. -/
structure Bundle where
  id : ExampleId
  title : Text
  description : Text
  snippets : List CodeBlock
  commands : List CodeBlock
  references : List Reference

namespace Bundle

/-- The targets of the links. -/
def links (b : Bundle) : List Text := (b.references.filter Reference.isLink).map Reference.target

/-- The images. -/
def images (b : Bundle) : List Reference := b.references.filter fun r => !r.isLink

/-- The bundle of a document whose images have been settled. -/
def ofDocument (id : ExampleId) (d : Document) (images : List Reference) : Bundle where
  id := id
  title := d.heading.title.getD id.fallbackTitle
  description := d.heading.description
  snippets := d.snippets
  commands := d.commands
  references := d.links ++ images

end Bundle
end GuideBundles
