/-
# `Url.Mapping` — host names in the form in which they are compared

Case is folded, compatibility characters become plain ones, some characters disappear, and a
character without a place in host names makes the name invalid.
-/
import GuideBundles.Url.MappingTable
import GuideBundles.Url.Composition

namespace GuideBundles.Url.Mapping

open CodePoints

/-- What becomes of a character, or `none` if no host name may hold it. -/
def image? (c : Char) : Option Text :=
  if c.toNat < 0x80 then some [c.toLower]
  else if kept.has c then some [c]
  else if ignored.has c then some []
  else match CodePoints.image? replacedRuns c with
    | some d => some [d]
    | none => mapping? replaced c

/-- Whether a character stays as it is. -/
def isKept (c : Char) : Bool :=
  if c.toNat < 0x80 then !decide ('A' ≤ c ∧ c ≤ 'Z') else kept.has c

/-- A host name with every character mapped, in composed form. -/
def mapText (t : Text) : Option Text :=
  (t.mapM image?).map fun images => Composition.normalize images.flatten

end GuideBundles.Url.Mapping
