/-
# `Proofs.Text.Lines` — the lines of a text are the only ones

`FullLines` says of a list of lines, without looking at a text, that it could be the result of
cutting one: a newline stands at the end of every line but the last and nowhere else, and no line
is empty.  `fullLines_eq_iff` says that the cut of a text is the only such list that gives the
text back, so everything about lines can be read off `FullLines`.
-/
import GuideBundles.Text.Basic

namespace GuideBundles.Text

/-- Lines as a text is cut into. -/
inductive FullLines : List Text → Prop
  | nil : FullLines []
  | last {w : Text} : w ≠ [] → '\n' ∉ w → FullLines [w]
  | cons {w : Text} {rest : List Text} : '\n' ∉ w → FullLines rest →
      FullLines ((w ++ ['\n']) :: rest)

theorem fullLines_newline_cons (t : Text) : fullLines ('\n' :: t) = ['\n'] :: fullLines t := by
  simp [fullLines]

theorem fullLines_cons_of_ne {c : Char} (hc : c ≠ '\n') {t : Text} {line : Text}
    {rest : List Text} (h : fullLines t = line :: rest) :
    fullLines (c :: t) = (c :: line) :: rest := by
  simp [fullLines, hc, h]

/-- A line with its newline is cut off. -/
theorem fullLines_line {w : Text} (hw : '\n' ∉ w) (t : Text) :
    fullLines (w ++ '\n' :: t) = (w ++ ['\n']) :: fullLines t := by
  induction w with
  | nil => exact fullLines_newline_cons t
  | cons c w ih =>
    have hc : c ≠ '\n' := fun h => hw (h ▸ List.mem_cons_self)
    exact fullLines_cons_of_ne hc (ih fun h => hw (List.mem_cons_of_mem _ h))

/-- A text without newlines is one line. -/
theorem fullLines_of_not_mem {w : Text} (hne : w ≠ []) (hw : '\n' ∉ w) : fullLines w = [w] := by
  induction w with
  | nil => exact absurd rfl hne
  | cons c w ih =>
    have hc : c ≠ '\n' := fun h => hw (h ▸ List.mem_cons_self)
    cases w with
    | nil => simp [fullLines, hc]
    | cons d w =>
      exact fullLines_cons_of_ne hc (ih (by simp) fun h => hw (List.mem_cons_of_mem _ h))

theorem fullLines_flatten {ls : List Text} (h : FullLines ls) : fullLines ls.flatten = ls := by
  induction h with
  | nil => rfl
  | last hne hw => simpa using fullLines_of_not_mem hne hw
  | @cons w rest hw _ ih => simpa [ih] using fullLines_line hw rest.flatten

/-- A character in front of lines belongs to the first of them, unless it is a line itself. -/
theorem FullLines.cons_char {c : Char} (hc : c ≠ '\n') {line : Text} {rest : List Text}
    (h : FullLines (line :: rest)) : FullLines ((c :: line) :: rest) := by
  have hmem {w : Text} (hw : '\n' ∉ w) : '\n' ∉ c :: w := by
    simpa [Ne.symm hc] using hw
  cases h with
  | last _ hw => exact .last (by simp) (hmem hw)
  | cons hw hrest => exact .cons (hmem hw) hrest

theorem fullLines_fullLines (t : Text) : FullLines (fullLines t) := by
  induction t with
  | nil => exact .nil
  | cons c t ih =>
    by_cases hc : c = '\n'
    · subst hc
      rw [fullLines_newline_cons]
      exact .cons (w := []) (by simp) ih
    · cases h : fullLines t with
      | nil =>
        simp only [fullLines, if_neg hc, h]
        exact .last (by simp) (by simpa using Ne.symm hc)
      | cons line rest =>
        rw [fullLines_cons_of_ne hc h]
        exact (h ▸ ih).cons_char hc

/-- The lines of a text are the only full lines that make it up. -/
theorem fullLines_eq_iff {t : Text} {ls : List Text} :
    fullLines t = ls ↔ FullLines ls ∧ ls.flatten = t := by
  constructor
  · rintro rfl
    exact ⟨fullLines_fullLines t, flatten_fullLines t⟩
  · rintro ⟨h, rfl⟩
    exact fullLines_flatten h

namespace FullLines

theorem tail {line : Text} {rest : List Text} (h : FullLines (line :: rest)) :
    FullLines rest := by
  cases h with
  | last _ _ => exact .nil
  | cons _ h => exact h

theorem drop {front back : List Text} (h : FullLines (front ++ back)) : FullLines back := by
  induction front with
  | nil => exact h
  | cons _ _ ih => exact ih h.tail

theorem head_ne_nil {line : Text} {rest : List Text} (h : FullLines (line :: rest)) :
    line ≠ [] := by
  cases h with
  | last hne _ => exact hne
  | cons _ _ => simp

/-- The last lines may be others: what stands in front of a line ends with a newline. -/
theorem replaceBack {front rest back : List Text} (h : FullLines (front ++ rest)) (hne : rest ≠ [])
    (hback : FullLines back) : FullLines (front ++ back) := by
  induction front with
  | nil => exact hback
  | cons line front ih =>
    rw [List.cons_append] at h
    generalize hlines : front ++ rest = lines at h ih
    cases h with
    | last _ _ => exact absurd (List.append_eq_nil_iff.1 hlines).2 hne
    | cons hw hrest => exact .cons hw (ih hrest)

/-- A line that another one follows ends with a newline. -/
theorem endsWithNewline {line next : Text} {rest : List Text}
    (h : FullLines (line :: next :: rest)) : ∃ w, line = w ++ ['\n'] := by
  cases h with
  | cons _ _ => exact ⟨_, rfl⟩

end FullLines
end GuideBundles.Text
