/-
# `SectionMap.File` — the file that a section map is read from

The file is a record with the one field `sections`, a list of records with `id` and `examples`;
all but `id` may be missing.
-/
import GuideBundles.SectionMap
import GuideBundles.Json.Reader

namespace GuideBundles.SectionMap

open Json (Value)

/-- The texts of an array of strings. -/
def texts? (v : Value) : Option (List Text) := v.elements?.bind fun vs => vs.mapM Value.text?

/-- A section with its examples. -/
def section? (v : Value) : Option (Text × List Text) := do
  match ← v.fields? [Text.ofString "id", Text.ofString "examples"] with
  | [some id, examples] =>
    some (← id.text?, ← match examples with
      | some es => texts? es
      | none => some [])
  | _ => none

/-- The sections of a file. -/
def sections? (v : Value) : Option (List (Text × List Text)) := do
  match ← v.fields? [Text.ofString "sections"] with
  | [some ss] => (← ss.elements?).mapM section?
  | _ => some []

/-- The map that the text of a file describes. -/
def ofText (t : Text) : Except Failure SectionMap :=
  match (Value.ofText? t).bind sections? with
  | some ss => .ok (ofSections ss)
  | none => .error .brokenSections

end GuideBundles.SectionMap
