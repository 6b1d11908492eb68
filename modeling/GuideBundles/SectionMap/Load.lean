/-
# `SectionMap.Load` — the section map on disk

Nothing depends on there being a section map, so a file that is missing, cannot be read or is
broken counts as an empty one.
-/
import GuideBundles.Script
import GuideBundles.SectionMap.File

namespace GuideBundles.SectionMap

/-- The map in a text, or the empty one. -/
def ofTextOrEmpty (t : Text) : SectionMap :=
  match ofText t with
  | .ok m => m
  | .error _ => empty

/-- The section map at a path. -/
def load (p : Path) : Script SectionMap := do
  if ← Script.request (.present p) then
    match ← Script.request (.readText p) with
    | .ok t => pure (ofTextOrEmpty t)
    | .error _ => pure empty
  else pure empty

end GuideBundles.SectionMap
