/-
# `Proofs.Text.LineEnds` — lines without their ends

No line has a newline in it once its end is cut off.  Lines that are joined by newlines are read
back one by one, if none of them is empty and none has a carriage return that the cut could take
along.
-/
import GuideBundles.Proofs.Text.Trim

namespace GuideBundles.Text

theorem dropNewline_of_not_mem {w : Text} (h : '\n' ∉ w) : dropNewline w = w := by
  rw [← List.mem_reverse] at h
  unfold dropNewline
  split
  · next r hr => simp [hr] at h
  · next r _ hr => simp [hr] at h
  · rfl

/-- With the newline goes at most a carriage return in front of it. -/
theorem dropNewline_subset (w : Text) : dropNewline (w ++ ['\n']) ⊆ w := by
  intro c hc
  rw [← List.mem_reverse]
  unfold dropNewline at hc
  rw [List.reverse_append, List.reverse_singleton, List.singleton_append] at hc
  split at hc
  · next r hr =>
    rw [(List.cons.inj hr).2]
    exact List.mem_cons_of_mem _ (List.mem_reverse.1 hc)
  · next r _ hr =>
    rw [(List.cons.inj hr).2]
    exact List.mem_reverse.1 hc
  · next _ hno => exact absurd rfl (hno w.reverse)

theorem newline_not_mem_of_mem_lines {t line : Text} (h : line ∈ lines t) : '\n' ∉ line := by
  obtain ⟨full, hfull, rfl⟩ := List.mem_map.1 h
  have hlines := fullLines_fullLines t
  generalize fullLines t = ls at hfull hlines
  induction hlines with
  | nil => cases hfull
  | last hne hw =>
    rw [List.mem_singleton.1 hfull, dropNewline_of_not_mem hw]
    exact hw
  | @cons w rest hw _ ih =>
    rcases List.mem_cons.1 hfull with rfl | hfull
    · exact fun hmem => hw (dropNewline_subset w hmem)
    · exact ih hfull

theorem dropNewline_cons_line {c : Char} (hr : c ≠ '\r') (w : Text) :
    dropNewline (c :: (w ++ ['\n'])) = c :: dropNewline (w ++ ['\n']) := by
  cases w using List.reverseRecOn with
  | nil => exact dropNewline_append_newline (w := [c]) (by simpa using hr)
  | append_singleton w d =>
    by_cases hd : d = '\r'
    · subst hd
      rw [List.append_assoc, List.singleton_append, dropNewline_return]
      exact dropNewline_return (c :: w)
    · have hlast : (c :: (w ++ [d])).getLast? ≠ some '\r' := by
        rw [← List.cons_append, List.getLast?_concat]
        simpa using hd
      rw [dropNewline_append_newline (w := w ++ [d]) (by simpa using hd)]
      exact dropNewline_append_newline hlast

/-- A character in front of a text belongs to its first line. -/
theorem lines_cons {c : Char} (hn : c ≠ '\n') (hr : c ≠ '\r') {t first : Text} {more : List Text}
    (h : lines t = first :: more) : lines (c :: t) = (c :: first) :: more := by
  obtain ⟨line, rest, hfull, rfl, rfl⟩ := List.map_eq_cons_iff.1 h
  rw [lines, fullLines_cons_of_ne hn hfull, List.map_cons]
  have hlines := fullLines_fullLines t
  rw [hfull] at hlines
  cases hlines with
  | last _ hw =>
    have hline : '\n' ∉ c :: line := List.not_mem_cons_of_ne_of_not_mem hn.symm hw
    rw [dropNewline_of_not_mem hw, dropNewline_of_not_mem hline]
  | cons hw _ => rw [dropNewline_cons_line hr]

/-- A newline behind a text ends its last line, or stands for another one when that has an end. -/
theorem lines_append_newline {t : Text} (hr : t.getLast? ≠ some '\r') :
    lines (t ++ ['\n']) = lines t ++ if endsRow t then [[]] else [] := by
  have hlast {ls : List Text} (h : FullLines ls) (hend : endsRow ls.flatten = false)
      (hr : ls.flatten.getLast? ≠ some '\r') :
      lines (ls.flatten ++ ['\n']) = ls.map dropNewline := by
    induction h with
    | nil => cases hend
    | @last w _ hw =>
      rw [List.flatten_singleton] at hr ⊢
      rw [lines, fullLines_line hw, List.map_cons, dropNewline_append_newline hr,
        List.map_singleton, dropNewline_of_not_mem hw]
      rfl
    | @cons w rest hw _ ih =>
      rw [List.flatten_cons, endsRow_line_append] at hend
      have hrest : rest.flatten ≠ [] := fun hnil => by
        rw [hnil] at hend
        cases hend
      rw [List.flatten_cons, List.getLast?_append_of_ne_nil _ hrest] at hr
      rw [List.flatten_cons, List.append_assoc, lines_append (endsRow_append_newline w), ih hend hr,
        List.map_cons, lines, fullLines_line hw]
      rfl
  split
  · next hend =>
    rw [lines_append hend]
    rfl
  · next hend =>
    have hlines := hlast (fullLines_fullLines t)
    rw [flatten_fullLines] at hlines
    rw [hlines (by simpa using hend) hr, List.append_nil]
    rfl

/-- A line in front of a text is the first of its lines. -/
theorem lines_line {w : Text} (hn : '\n' ∉ w) (hr : '\r' ∉ w) (t : Text) :
    lines (w ++ '\n' :: t) = w :: lines t := by
  rw [lines, fullLines_line hn, List.map_cons, dropNewline_newline hr]
  rfl

/-- What is joined line by line is read back line by line. -/
theorem lines_join {parts : List Text} (h : ∀ p ∈ parts, p ≠ [] ∧ '\n' ∉ p ∧ '\r' ∉ p) :
    lines (join ['\n'] parts) = parts := by
  induction parts with
  | nil => rfl
  | cons p rest ih =>
    obtain ⟨hne, hn, hr⟩ := h p List.mem_cons_self
    cases rest with
    | nil =>
      have hone : join ['\n'] [p] = p := List.intercalate_singleton
      rw [hone, lines, fullLines_of_not_mem hne hn, List.map_singleton, dropNewline_of_not_mem hn]
    | cons next others =>
      rw [join_cons_of_ne_nil _ _ (List.cons_ne_nil _ _), List.append_assoc, List.singleton_append,
        lines_line hn hr, ih fun q hq => h q (List.mem_cons_of_mem _ hq)]

end GuideBundles.Text
