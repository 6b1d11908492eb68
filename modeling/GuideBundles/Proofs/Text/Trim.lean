/-
# `Proofs.Text.Trim` — trimmed texts and trimmed lines

A trimmed text begins with ink, if it is not empty, and blanks behind a text change nothing when it
is trimmed.  So a line may keep its end: trimmed, the lines of a text are its trimmed rows, but for
the empty row behind a newline at the end.
-/
import GuideBundles.Proofs.Text.Lines
import GuideBundles.Proofs.Text.Parts
import GuideBundles.Proofs.Text.Returns
import Mathlib.Data.List.DropRight

namespace GuideBundles.Text

/-! ## Ink -/

theorem isBlank_of_hasInk_eq_false {t : Text} (h : hasInk t = false) :
    ∀ c ∈ t, isBlank c = true := by
  simpa [hasInk] using h

theorem hasInk_append (s t : Text) : hasInk (s ++ t) = (hasInk s || hasInk t) := List.any_append

theorem hasInk_iff {t : Text} : hasInk t = true ↔ ∃ c ∈ t, isBlank c = false := by
  simp [hasInk]

/-! ## What is trimmed -/

/-- What is cut at its end is a first part of the text. -/
theorem dropEndWhile_prefix (p : Char → Bool) (t : Text) : dropEndWhile p t <+: t :=
  List.rdropWhile_prefix p t

/-- A trimmed text begins with ink. -/
theorem isBlank_of_head?_trim {t : Text} {c : Char} (h : (trim t).head? = some c) :
    isBlank c = false := by
  obtain ⟨u, hu⟩ := List.head?_eq_some_iff.1 h
  obtain ⟨v, hv⟩ := dropEndWhile_prefix isBlank (trimStart t)
  have hstart : trimStart t = c :: (u ++ v) := by
    rw [← hv]
    exact congrArg (· ++ v) hu
  have hfirst := List.head?_dropWhile_not isBlank t
  rw [show t.dropWhile isBlank = c :: (u ++ v) from hstart] at hfirst
  simpa using hfirst

theorem trim_trim (t : Text) : trim (trim t) = trim t := by
  have hstart : trimStart (trim t) = trim t := by
    cases h : trim t with
    | nil => rfl
    | cons c u =>
      have hink : isBlank c = false := isBlank_of_head?_trim (by rw [h]; rfl)
      exact List.dropWhile_cons_of_neg (by simp [hink])
  conv => lhs; rw [trim, hstart]
  exact List.rdropWhile_idempotent isBlank _

theorem trim_append_blank (t : Text) {c : Char} (hc : isBlank c = true) :
    trim (t ++ [c]) = trim t := by
  unfold trim trimStart trimEnd
  rw [List.dropWhile_append]
  split
  · next hall =>
    rw [List.isEmpty_iff.1 hall]
    simp [hc]
  · rw [dropEndWhile_append_singleton, if_pos hc]

theorem trim_append_blanks (t : Text) {u : Text} (hu : ∀ c ∈ u, isBlank c = true) :
    trim (t ++ u) = trim t := by
  induction u using List.reverseRecOn with
  | nil => rw [List.append_nil]
  | append_singleton u c ih =>
    rw [← List.append_assoc, trim_append_blank _ (hu c (by simp)),
      ih fun d hd => hu d (List.mem_append_left _ hd)]

/-- The end of a line is blank. -/
theorem trim_dropNewline (line : Text) : trim (dropNewline line) = trim line := by
  have hblank : isBlank '\n' = true := by decide
  unfold dropNewline
  split
  · next r hr =>
    have hline : line = r.reverse ++ ['\r'] ++ ['\n'] := by
      simpa using congrArg List.reverse hr
    rw [hline, trim_append_blank _ hblank, trim_append_blank _ (by decide)]
  · next r _ hr =>
    have hline : line = r.reverse ++ ['\n'] := by
      simpa using congrArg List.reverse hr
    rw [hline, trim_append_blank _ hblank]
  · rfl

/-- Ink keeps what stands in front of it. -/
theorem trimEnd_append {t : Text} (h : hasInk t = true) (s : Text) :
    trimEnd (s ++ t) = s ++ trimEnd t := by
  unfold trimEnd dropEndWhile
  rw [List.reverse_append, List.dropWhile_append, if_neg]
  · rw [List.reverse_append, List.reverse_reverse]
  · obtain ⟨c, hc, hink⟩ := List.any_eq_true.1 h
    rw [List.isEmpty_iff, List.dropWhile_eq_nil_iff]
    intro hall
    rw [hall c (List.mem_reverse.2 hc)] at hink
    cases hink

/-- What has ink keeps some of it. -/
theorem trimEnd_ne_nil {t : Text} (h : hasInk t = true) : trimEnd t ≠ [] := by
  obtain ⟨c, hc, hink⟩ := List.any_eq_true.1 h
  unfold trimEnd dropEndWhile
  rw [Ne, List.reverse_eq_nil_iff, List.dropWhile_eq_nil_iff]
  intro hall
  rw [hall c (List.mem_reverse.2 hc)] at hink
  cases hink

theorem trim_ne_nil_iff {t : Text} : trim t ≠ [] ↔ hasInk t = true := by
  rw [Ne, trim_eq_nil_iff, hasInk_iff]
  simp

theorem trim_ne_nil {t : Text} (h : hasInk t = true) : trim t ≠ [] := trim_ne_nil_iff.2 h

/-! ## Lines and rows -/

/-- Whether a text is empty or ends with a newline, so that its last row is empty. -/
def endsRow (t : Text) : Bool := t.getLast?.all (· == '\n')

theorem endsRow_of_not_mem {w : Text} (hne : w ≠ []) (hw : '\n' ∉ w) : endsRow w = false := by
  obtain ⟨u, c, rfl⟩ : ∃ u c, w = u ++ [c] := ⟨_, _, (List.dropLast_concat_getLast hne).symm⟩
  have hc : c ≠ '\n' := fun h => hw (by simp [h])
  simpa [endsRow] using hc

theorem endsRow_append_newline (t : Text) : endsRow (t ++ ['\n']) = true := by
  rw [endsRow, List.getLast?_concat]
  rfl

theorem endsRow_line_append (w t : Text) : endsRow (w ++ ['\n'] ++ t) = endsRow t := by
  cases t using List.reverseRecOn with
  | nil => simp [endsRow]
  | append_singleton u c => simp [endsRow, ← List.append_assoc]

/-- Behind a newline new lines begin. -/
theorem FullLines.append {front back : List Text} (h : FullLines front)
    (hend : endsRow front.flatten = true) (hback : FullLines back) : FullLines (front ++ back) := by
  induction h with
  | nil => exact hback
  | last hne hw =>
    rw [List.flatten_singleton, endsRow_of_not_mem hne hw] at hend
    cases hend
  | cons hw _ ih =>
    rw [List.flatten_cons, endsRow_line_append] at hend
    exact .cons hw (ih hend)

theorem fullLines_append {s : Text} (hs : endsRow s = true) (t : Text) :
    fullLines (s ++ t) = fullLines s ++ fullLines t := by
  refine fullLines_eq_iff.2 ⟨(fullLines_fullLines s).append ?_ (fullLines_fullLines t), ?_⟩
  · rwa [flatten_fullLines]
  · rw [List.flatten_append, flatten_fullLines, flatten_fullLines]

theorem lines_append {s : Text} (hs : endsRow s = true) (t : Text) :
    lines (s ++ t) = lines s ++ lines t := by
  rw [lines, fullLines_append hs, List.map_append]
  rfl

/-- Trimmed, the lines of a text are its rows, but for the one behind a newline at the end. -/
theorem map_trim_rows (t : Text) :
    (rows t).map trim = (lines t).map trim ++ if endsRow t then [[]] else [] := by
  have hlines {ls : List Text} (h : FullLines ls) : (rows ls.flatten).map trim
      = (ls.map dropNewline).map trim ++ if endsRow ls.flatten then [[]] else [] := by
    induction h with
    | nil => rfl
    | @last w hne hw =>
      simp [rows_of_not_mem hw, trim_dropNewline, endsRow_of_not_mem hne hw]
    | @cons w rest hw _ ih =>
      have hline : trim (dropNewline (w ++ ['\n'])) = trim w := by
        rw [trim_dropNewline, trim_append_blank w (by decide)]
      have hrows : rows ((w ++ ['\n']) ++ rest.flatten) = w :: rows rest.flatten := by
        rw [List.append_assoc, List.singleton_append, rows_append_newline, rows_of_not_mem hw]
        rfl
      rw [List.flatten_cons, endsRow_line_append, hrows, List.map_cons, ih, List.map_cons,
        List.map_cons, hline]
      rfl
  have h := hlines (fullLines_fullLines t)
  rwa [flatten_fullLines] at h

theorem map_trim_lines {t : Text} (h : endsRow t = true) :
    (lines t).map trim = ((rows t).map trim).dropLast := by
  rw [map_trim_rows, if_pos h, List.dropLast_concat]

/-- The first line of a text is its first row, up to blanks. -/
theorem head?_lines {t row : Text} {rest : List Text} (ht : t ≠ []) (h : rows t = row :: rest) :
    (lines t).head?.map trim = some (trim row) := by
  have hrows := map_trim_rows t
  rw [h, List.map_cons] at hrows
  cases hlines : lines t with
  | nil =>
    have hfull : fullLines t = [] := List.map_eq_nil_iff.1 hlines
    exact absurd (by rw [← flatten_fullLines t, hfull]; rfl) ht
  | cons line others =>
    rw [hlines, List.map_cons, List.cons_append] at hrows
    simp [(List.cons.inj hrows).1]

/-- The first row of a trimmed text has ink. -/
theorem hasInk_of_rows_trim {t row : Text} {rest : List Text} (ht : trim t ≠ [])
    (h : rows (trim t) = row :: rest) : hasInk row = true := by
  obtain ⟨c, u, hu⟩ := List.exists_cons_of_ne_nil ht
  have hink : isBlank c = false := isBlank_of_head?_trim (by rw [hu]; rfl)
  have hc : c ≠ '\n' := by
    rintro rfl
    cases hink
  obtain ⟨first, others, hrows⟩ := List.exists_cons_of_ne_nil (rows_ne_nil u)
  rw [hu, rows_cons hc hrows] at h
  rw [← (List.cons.inj h).1, hasInk, List.any_cons, hink]
  rfl

end GuideBundles.Text
