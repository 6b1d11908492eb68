/-
# `SectionMap` — which section an example belongs to

Each example has at most one section; the last one that lists it counts.
-/
import GuideBundles.ExampleId
import GuideBundles.Lookup

namespace GuideBundles

/-- A finite map from example names to section names. -/
structure SectionMap where
  entries : List (Text × Text) := []
  /-- No example has two entries. -/
  nodup : (entries.map Prod.fst).Nodup := by simp

namespace SectionMap

/-- The map without entries. -/
def empty : SectionMap := {}

/-- The section of an example name. -/
def get? (m : SectionMap) (name : Text) : Option Text := m.entries.lookup name

/-- The section of an identified example. -/
def sectionFor (m : SectionMap) (id : ExampleId) : Option Text := m.get? id.text

/-- Number of examples. -/
def size (m : SectionMap) : Nat := m.entries.length

def isEmpty (m : SectionMap) : Bool := m.entries.isEmpty

/-- The map with an example in a section, wherever it was before. -/
def insert (m : SectionMap) (name owner : Text) : SectionMap where
  entries := (name, owner) :: m.entries.filter fun e => e.1 ≠ name
  nodup := by
    have h : ((m.entries.filter fun e => e.1 ≠ name).map Prod.fst).Nodup :=
      m.nodup.sublist (List.filter_sublist.map _)
    simp only [List.map_cons, List.nodup_cons]
    refine ⟨fun hm => ?_, h⟩
    obtain ⟨e, he, rfl⟩ := List.mem_map.1 hm
    simpa using (List.mem_filter.1 he).2

/-- The map with every example of a list in a section. -/
def insertAll (m : SectionMap) (owner : Text) (examples : List Text) : SectionMap :=
  examples.foldl (fun m e => m.insert e owner) m

/-- The map that sections with their examples describe. -/
def ofSections (sections : List (Text × List Text)) : SectionMap :=
  sections.foldl (fun m s => m.insertAll s.1 s.2) empty

/-- The section just given is found, and others stay. -/
@[simp] theorem get?_insert (m : SectionMap) (e s k : Text) :
    (m.insert e s).get? k = if k = e then some s else m.get? k := by
  simp only [get?, insert]
  by_cases h : k = e
  · simp [h]
  · have := lookup_filter_key (fun a => decide (a ≠ e)) k m.entries
    simp only [List.lookup_cons, beq_false_of_ne h, this, h, if_false, ne_eq, not_false_eq_true,
      decide_true, if_true]

end SectionMap
end GuideBundles
