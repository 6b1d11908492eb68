/-
# `Proofs.SectionMap.Owner` — the last section that lists an example has it

A map is made section by section, and each section takes its examples from those before it.  So the
section of an example is the last one that lists it, wherever else it is listed.
-/
import Mathlib.Data.List.Induction
import GuideBundles.Proofs.SectionMap.Size

namespace GuideBundles.SectionMap

variable {m : SectionMap} {e owner : Text} {sections : List (Text × List Text)}

/-- Whether a section of a given name lists an example and none after it does. -/
def IsLastOwner (sections : List (Text × List Text)) (e owner : Text) : Prop :=
  ∃ before examples after, sections = before ++ (owner, examples) :: after ∧ e ∈ examples ∧
    ∀ s ∈ after, e ∉ s.2

theorem get?_insertAll {examples : List Text} :
    (m.insertAll owner examples).get? e = if e ∈ examples then some owner else m.get? e := by
  unfold insertAll
  induction examples generalizing m with
  | nil => simp
  | cons name rest ih =>
    rw [List.foldl_cons, ih, get?_insert]
    by_cases hrest : e ∈ rest
    · simp [hrest]
    · simp [hrest]

/-- One more section comes last. -/
theorem isLastOwner_append {s : Text × List Text} :
    IsLastOwner (sections ++ [s]) e owner ↔
      e ∈ s.2 ∧ owner = s.1 ∨ e ∉ s.2 ∧ IsLastOwner sections e owner := by
  constructor
  · rintro ⟨before, examples, after, heq, he, hafter⟩
    rcases List.eq_nil_or_concat after with rfl | ⟨after, s', rfl⟩
    · obtain ⟨-, hs⟩ := List.append_inj' heq rfl
      obtain rfl := List.singleton_inj.1 hs
      exact .inl ⟨he, rfl⟩
    · rw [List.concat_eq_append] at heq hafter
      have heq' : sections ++ [s] = (before ++ (owner, examples) :: after) ++ [s'] := by
        simpa using heq
      obtain ⟨rfl, hs⟩ := List.append_inj' heq' rfl
      obtain rfl := List.singleton_inj.1 hs
      exact .inr ⟨hafter s (by simp), before, examples, after, rfl, he,
        fun s' hs' => hafter s' (List.mem_append_left _ hs')⟩
  · rintro (⟨he, rfl⟩ | ⟨he, before, examples, after, rfl, hmem, hafter⟩)
    · exact ⟨sections, s.2, [], rfl, he, by simp⟩
    · refine ⟨before, examples, after ++ [s], by simp, hmem, ?_⟩
      intro s' hs'
      rcases List.mem_append.1 hs' with hs' | hs'
      · exact hafter s' hs'
      · exact List.mem_singleton.1 hs' ▸ he

theorem ofSections_append {s : Text × List Text} :
    ofSections (sections ++ [s]) = (ofSections sections).insertAll s.1 s.2 := by
  simp [ofSections]

/-- An example belongs to the last section that lists it. -/
theorem get?_ofSections :
    (ofSections sections).get? e = some owner ↔ IsLastOwner sections e owner := by
  induction sections using List.reverseRecOn with
  | nil => simp [IsLastOwner, ofSections, empty, get?]
  | append_singleton sections s ih =>
    rw [ofSections_append, get?_insertAll, isLastOwner_append, ← ih]
    by_cases he : e ∈ s.2
    · simp [he, eq_comm]
    · simp [he]

/-- An example that no section lists belongs to none. -/
theorem get?_ofSections_eq_none :
    (ofSections sections).get? e = none ↔ ∀ s ∈ sections, e ∉ s.2 := by
  have hnames : (ofSections sections).get? e = none ↔ e ∉ (ofSections sections).names := by
    rw [get?, List.lookup_eq_none_iff, names, List.mem_map]
    constructor
    · rintro h ⟨entry, hentry, rfl⟩
      simpa using h entry hentry
    · intro h entry hentry
      rw [bne_iff_ne]
      rintro rfl
      exact h ⟨entry, hentry, rfl⟩
  rw [hnames, mem_names_ofSections]
  simp

end GuideBundles.SectionMap
