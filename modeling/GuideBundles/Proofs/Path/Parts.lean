/-
# `Proofs.Path.Parts` — the parts of a joined path

The parts of a path are its start, if it has one, and then the pieces that name something.  A name
that is joined to a path leaves the start as it is and is one more part.
-/
import GuideBundles.Proofs.Path.Steps

namespace GuideBundles.Path

/-- Empty pieces name nothing. -/
theorem filterMap_part?_filter (ps : List Text) :
    (ps.filter fun piece => piece ≠ []).filterMap part? = ps.filterMap part? := by
  rw [List.filterMap_filter]
  refine List.filterMap_congr fun piece _ => ?_
  by_cases hpiece : piece = []
  · simp [hpiece, part?]
  · simp [hpiece]

/-- The parts that no piece of a path names. -/
def startParts (p : Path) : List Part :=
  if p.isAbsolute then [.root] else if p.pieces.head? = some ['.'] then [.here] else []

theorem parts_eq (p : Path) : p.parts = p.startParts ++ p.pieces.filterMap part? := by
  rw [← map_part_placed 0, parts, places, startParts]
  split
  · rfl
  · split <;> rfl

/-- What is joined to a path that is not empty leaves the first piece as it is. -/
theorem head?_pieces_join (p : Path) {t : Text} (h : t.head? ≠ some '/') (hp : p.spelling ≠ []) :
    (p.join t).pieces.head? = p.pieces.head? := by
  obtain ⟨u, c, hu⟩ := (List.eq_nil_or_concat p.spelling).resolve_left hp
  rw [List.concat_eq_append] at hu
  by_cases hc : c = '/'
  · subst hc
    have hjoin : (p.join t).spelling = u ++ '/' :: t := by simp [join_eq p h, front, hu]
    rw [pieces, pieces, hjoin, hu, Text.splitOn_append_sep rfl, Text.splitOn_append_sep rfl,
      List.head?_append_of_ne_nil _ (Text.splitOn_ne_nil u),
      List.head?_append_of_ne_nil _ (Text.splitOn_ne_nil u)]
  · have hjoin : (p.join t).spelling = p.spelling ++ '/' :: t := by
      simp [join_eq p h, front, hu]
    rw [pieces, pieces, hjoin, Text.splitOn_append_sep rfl,
      List.head?_append_of_ne_nil _ (Text.splitOn_ne_nil _)]

theorem startParts_join (p : Path) {n : Text} (hs : '/' ∉ n) (h₁ : n ≠ ['.']) :
    (p.join n).startParts = p.startParts := by
  have hrelative := head?_ne_of_not_mem hs
  rw [startParts, startParts, isAbsolute_join p hs]
  by_cases hp : p.spelling = []
  · -- The name is the whole path, and the empty path has no start either.
    have hjoin : (p.join n).pieces = [n] := by
      rw [← pieces_name hs, join_eq p hrelative, front, hp]
      rfl
    have hempty : p.pieces = [[]] := by rw [pieces, hp, Text.splitOn]
    simp [hjoin, hempty, h₁]
  · rw [head?_pieces_join p hrelative hp]

/-- A name that is joined to a path is one more part. -/
theorem parts_join (p : Path) {n : Text} (h : n ≠ [] ∧ n ≠ ['.'] ∧ n ≠ ['.', '.'] ∧ '/' ∉ n) :
    (p.join n).parts = p.parts ++ [.name n] := by
  obtain ⟨hn, h₁, h₂, hs⟩ := h
  obtain ⟨before, hpieces, hbefore⟩ := exists_pieces_join p (head?_ne_of_not_mem hs)
  have hfound : (p.join n).pieces.filterMap part? = p.pieces.filterMap part? ++ [.name n] := by
    rw [hpieces, pieces_name hs, List.filterMap_append, ← filterMap_part?_filter before, hbefore,
      filterMap_part?_filter]
    simp [part?, hn, h₁, h₂]
  rw [parts_eq, parts_eq, startParts_join p hs h₁, hfound, List.append_assoc]

/-- A path ends with the name that was joined to it. -/
theorem fileName?_join (p : Path) {n : Text}
    (h : n ≠ [] ∧ n ≠ ['.'] ∧ n ≠ ['.', '.'] ∧ '/' ∉ n) : (p.join n).fileName? = some n := by
  rw [fileName?, parts_join p h, List.getLast?_concat]

end GuideBundles.Path
