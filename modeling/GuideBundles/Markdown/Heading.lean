/-
# `Markdown.Heading` — title and description of a document

The title is the first top-level heading outside all fences, and the description is what stands
between it and the next heading of any level.  Fences in between are part of the description.
-/
import GuideBundles.Markdown.CodeBlock

namespace GuideBundles

/-- Title and description of a document; without a title the description is empty. -/
structure Heading where
  title : Option Text
  description : Text
deriving DecidableEq

namespace Heading

/-- The title that a line gives: the text after a number sign and a space. -/
def title? (line : Text) : Option Text :=
  match Text.dropBreaks line with
  | '#' :: ' ' :: t => if Text.hasInk t then some (Text.trim t) else none
  | _ => none

/-- Whether a region is a heading line. -/
def isHeadingRegion : Region → Bool
  | .plain line => isHeading (Text.dropBreaks line)
  | .fenced .. => false

/-- The text of the regions up to the first heading. -/
def textToHeading (rs : List Region) : Text :=
  (rs.takeWhile fun r => !isHeadingRegion r).flatMap Region.text

/-- Title and description of the regions of a document. -/
def ofRegions : List Region → Heading
  | [] => ⟨none, []⟩
  | .fenced .. :: rest => ofRegions rest
  | .plain line :: rest =>
    match title? line with
    | some t => ⟨some t, Text.trim (textToHeading rest)⟩
    | none => ofRegions rest

/-- Title and description of a document. -/
def extract (t : Text) : Heading := ofRegions (Region.ofText t)

end Heading
end GuideBundles
