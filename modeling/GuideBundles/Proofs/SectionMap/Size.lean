/-
# `Proofs.SectionMap.Size` — how many entries a section map has

An example that several sections list, or one section several times, has one entry.  So a map has as
many entries as there are different examples in the sections that it was made of.
-/
import Mathlib.Data.List.Dedup
import Mathlib.Data.List.Perm.Lattice
import GuideBundles.SectionMap

namespace GuideBundles.SectionMap

variable {m : SectionMap} {e name owner : Text}

/-- The examples that have an entry. -/
def names (m : SectionMap) : List Text := m.entries.map Prod.fst

@[simp] theorem mem_names_insert : e ∈ (m.insert name owner).names ↔ e = name ∨ e ∈ m.names := by
  by_cases h : e = name
  · simp [names, insert, h]
  · simp [names, insert, h]

theorem mem_names_insertAll {examples : List Text} :
    e ∈ (m.insertAll owner examples).names ↔ e ∈ examples ∨ e ∈ m.names := by
  unfold insertAll
  induction examples generalizing m with
  | nil => simp
  | cons name rest ih =>
    rw [List.foldl_cons, ih, mem_names_insert, List.mem_cons]
    tauto

/-- An example has an entry exactly when some section lists it. -/
theorem mem_names_ofSections {sections : List (Text × List Text)} :
    e ∈ (ofSections sections).names ↔ e ∈ sections.flatMap Prod.snd := by
  have hfold (m : SectionMap) : e ∈ (sections.foldl (fun m s => m.insertAll s.1 s.2) m).names ↔
      e ∈ sections.flatMap Prod.snd ∨ e ∈ m.names := by
    induction sections generalizing m with
    | nil => simp
    | cons s rest ih =>
      rw [List.foldl_cons, ih, mem_names_insertAll, List.flatMap_cons, List.mem_append]
      tauto
  rw [ofSections, hfold]
  simp [names, empty]

/-- There are as many entries as there are different examples. -/
theorem size_ofSections (sections : List (Text × List Text)) :
    (ofSections sections).size = (sections.flatMap Prod.snd).dedup.length := by
  have hperm : (ofSections sections).names.Perm (sections.flatMap Prod.snd).dedup := by
    refine (List.perm_ext_iff_of_nodup (ofSections sections).nodup (List.nodup_dedup _)).2 ?_
    intro e
    rw [List.mem_dedup]
    exact mem_names_ofSections
  rw [size, ← hperm.length_eq, names, List.length_map]

end GuideBundles.SectionMap
