/-
# `Proofs.Path.FileName` — the last step of a path is its file name

Parts and steps of a path differ where single dots are concerned.  A path with a file name may still
end with dots; but when its last step is a name, it is the file name, whatever the path was joined
to.
-/
import GuideBundles.Proofs.Path.Parts

namespace GuideBundles.Path

/-- A relative path that is not empty has a step. -/
theorem steps_ne_nil {p : Path} (hp : p.spelling ≠ []) (habs : p.isAbsolute = false) :
    p.steps ≠ [] := by
  obtain ⟨c, t, hct⟩ := List.exists_cons_of_ne_nil hp
  obtain ⟨piece, rest, hrest⟩ := List.exists_cons_of_ne_nil (@Text.splitOn_ne_nil (· == '/') t)
  have hc : c ≠ '/' := by simpa [isAbsolute, hct] using habs
  have hpieces : p.pieces = (c :: piece) :: rest := by
    simp [pieces, hct, Text.splitOn, hc, hrest]
  simp [steps, hpieces]

/-- The file name of a path is the last of its pieces that name something. -/
theorem getLast?_filterMap_part? {p : Path} {n : Text} (h : p.fileName? = some n) :
    (p.pieces.filterMap part?).getLast? = some (.name n) := by
  have hparts : p.parts.getLast? = some (.name n) := by
    unfold fileName? at h
    split at h
    · next m hlast => rw [hlast, Option.some.inj h]
    · cases h
  rw [parts_eq] at hparts
  cases hfound : p.pieces.filterMap part? with
  | nil =>
    rw [hfound, List.append_nil, startParts] at hparts
    split at hparts
    · cases hparts
    · split at hparts <;> cases hparts
  | cons part more =>
    rw [hfound, List.getLast?_append_of_ne_nil _ (List.cons_ne_nil _ _)] at hparts
    exact hparts

/-- When the last step of a path is a name, the path ends with it. -/
theorem eq_of_getLast?_steps {p : Path} {m n : Text} (h : p.fileName? = some n)
    (hm : p.steps.getLast? = some (.name m)) : m = n := by
  have hlast := getLast?_filterMap_part? h
  rw [steps, List.getLast?_map, Option.map_eq_some_iff] at hm
  obtain ⟨piece, hpiece, hstep⟩ := hm
  obtain ⟨rfl, h₁, h₂⟩ := stepOf_eq_name_iff.1 hstep
  obtain ⟨before, hbefore⟩ := List.getLast?_eq_some_iff.1 hpiece
  have hne : piece ≠ [] := by
    simpa using (List.mem_filter.1 (List.mem_of_getLast? hpiece)).2
  have hpart : part? piece = some (.name piece) := by simp [part?, hne, h₁, h₂]
  rw [← filterMap_part?_filter, hbefore, List.filterMap_append] at hlast
  simpa [hpart] using hlast

/-- So it is with a path that is joined to another one. -/
theorem eq_of_getLast?_steps_join (p : Path) {t m n : Text} (h : fileName? ⟨t⟩ = some n)
    (hm : (p.join t).steps.getLast? = some (.name m)) : m = n := by
  by_cases habs : t.head? = some '/'
  · have hjoin : p.join t = ⟨t⟩ := by rw [join, if_pos habs]
    rw [hjoin] at hm
    exact eq_of_getLast?_steps h hm
  · have hne : steps ⟨t⟩ ≠ [] := by
      refine steps_ne_nil ?_ (by simpa [isAbsolute] using habs)
      rintro rfl
      cases h
    rw [steps_join_relative p habs, List.getLast?_append_of_ne_nil _ hne] at hm
    exact eq_of_getLast?_steps h hm

end GuideBundles.Path
