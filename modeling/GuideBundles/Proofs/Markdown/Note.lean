/-
# `Proofs.Markdown.Note` — heading lines are emptied in notes, and nothing else is

A note is tidied in one pass over its prose.  `Note.tidy_agree` says that the same comes out when
the prose is cut at its newlines, each row that is a heading is emptied and the rows are joined
again, and also when everything is removed that matches `Note.headings`, a pattern from line start
to line end.  The rows that are emptied are those that would end a description.
-/
import GuideBundles.Markdown.Heading
import GuideBundles.Proofs.Text.Parts
import GuideBundles.Proofs.Text.Pattern
import GuideBundles.Proofs.Text.Returns

namespace GuideBundles

open Text (rows)

/-! ## Heading lines -/

/-- Whether a character may stand behind the number signs of a heading. -/
def isGap (c : Char) : Bool := c == ' ' || c == '\t'

theorem isHeading_cons (t : Text) :
    isHeading ('#' :: t) = (t.dropWhile (· == '#')).head?.any isGap := by
  rw [isHeading]
  cases hrest : t.dropWhile (· == '#') with
  | nil => rfl
  | cons c u =>
    simp only [List.head?_cons, Option.any_some, isGap]
    split <;> simp_all

/-- A line that starts with number signs, at least one, and has a space or a tab behind them. -/
def StartsHeading (line : Text) : Prop :=
  ∃ marks gap rest, line = marks ++ gap :: rest ∧ marks ≠ [] ∧ (∀ c ∈ marks, c = '#') ∧
    (gap = ' ' ∨ gap = '\t')

theorem isGap_iff {c : Char} : isGap c = true ↔ c = ' ' ∨ c = '\t' := by
  simp [isGap]

theorem isHeading_iff {line : Text} : isHeading line = true ↔ StartsHeading line := by
  constructor
  · intro h
    cases line with
    | nil => cases h
    | cons c t =>
      by_cases hc : c = '#'
      · subst hc
        rw [isHeading_cons] at h
        obtain ⟨gap, hgap, hisGap⟩ := (Option.any_eq_true _ _).1 h
        obtain ⟨rest, hrest⟩ := List.head?_eq_some_iff.1 hgap
        refine ⟨'#' :: t.takeWhile (· == '#'), gap, rest, ?_, List.cons_ne_nil _ _, ?_,
          isGap_iff.1 hisGap⟩
        · rw [List.cons_append, ← hrest, List.takeWhile_append_dropWhile]
        · intro c hc
          rcases List.mem_cons.1 hc with rfl | hc
          · rfl
          · exact beq_iff_eq.1 (List.mem_takeWhile_imp (p := (· == '#')) hc)
      · rw [isHeading_of_ne hc] at h
        cases h
  · rintro ⟨marks, gap, rest, rfl, hne, hmarks, hgap⟩
    obtain ⟨c, marks, rfl⟩ := List.exists_cons_of_ne_nil hne
    obtain rfl := hmarks c List.mem_cons_self
    have hmark : (gap == '#') = false := by rcases hgap with rfl | rfl <;> rfl
    have hrun : ∀ c ∈ marks, (c == '#') = true := fun c hc =>
      beq_iff_eq.2 (hmarks c (List.mem_cons_of_mem _ hc))
    rw [List.cons_append, isHeading_cons, List.dropWhile_append_of_pos hrun,
      List.dropWhile_cons_of_neg (by simp [hmark])]
    exact isGap_iff.2 hgap

/-- Whether a line is a heading is settled in front of anything that is no part of its start. -/
theorem isHeading_append {c : Char} (hmark : c ≠ '#') (hgap : isGap c = false) (s t : Text) :
    isHeading (s ++ c :: t) = isHeading s := by
  cases s with
  | nil => exact isHeading_of_ne hmark t
  | cons d s =>
    by_cases hd : d = '#'
    · subst hd
      rw [List.cons_append, isHeading_cons, isHeading_cons, List.dropWhile_append]
      split
      · next hall =>
        rw [List.isEmpty_iff.1 hall, List.dropWhile_cons_of_neg (by simpa using hmark)]
        simpa using hgap
      · next hrest =>
        obtain ⟨e, u, hu⟩ := List.exists_cons_of_ne_nil (mt List.isEmpty_iff.2 hrest)
        rw [hu]
        rfl
    · rw [List.cons_append, isHeading_of_ne hd, isHeading_of_ne hd]

/-- The end of a line does not make it a heading. -/
theorem isHeading_dropBreaks (line : Text) : isHeading (Text.dropBreaks line) = isHeading line := by
  conv => rhs; rw [← Text.dropBreaks_append_breaks line]
  cases hbreaks : Text.breaks line with
  | nil => rw [List.append_nil]
  | cons c t =>
    have hc : Text.isBreak c = true := by
      have hmem : c ∈ Text.breaks line := hbreaks ▸ List.mem_cons_self
      exact List.mem_takeWhile_imp (List.mem_reverse.1 hmem)
    refine (isHeading_append ?_ ?_ _ _).symm
    · rintro rfl
      cases hc
    · rcases Bool.or_eq_true_iff.1 hc with hc | hc <;> rw [beq_iff_eq.1 hc] <;> rfl

/-- The first row of a text says whether the text starts with a heading. -/
theorem isHeading_of_rows {t row : Text} {rest : List Text} (h : rows t = row :: rest) :
    isHeading t = isHeading row := by
  rcases Text.splitOn_eq_cons h with ⟨rfl, -⟩ | ⟨c, u, hc, rfl, -⟩
  · rfl
  · rw [beq_iff_eq.1 hc]
    exact isHeading_append (by decide) rfl row u

namespace Note

/-! ## Row by row -/

/-- A row, or nothing if it is a heading. -/
def emptied (row : Text) : Text := if isHeading row then [] else row

/-- The row that the pass is in is kept, given up or still to be looked at, and all others are
emptied if they are headings. -/
theorem rows_emptyHeadings {t row : Text} {rest : List Text} (h : rows t = row :: rest) :
    rows (emptyHeadings true false t) = emptied row :: rest.map emptied ∧
    rows (emptyHeadings false true t) = [] :: rest.map emptied ∧
    rows (emptyHeadings false false t) = row :: rest.map emptied := by
  induction t generalizing row rest with
  | nil =>
    obtain ⟨rfl, rfl⟩ := List.cons.inj h
    exact ⟨rfl, rfl, rfl⟩
  | cons c t ih =>
    obtain ⟨row', rest', ht⟩ := List.exists_cons_of_ne_nil (Text.rows_ne_nil t)
    obtain ⟨hfresh, hskip, hkeep⟩ := ih ht
    by_cases hc : c = '\n'
    · subst hc
      have hrows : rows ('\n' :: t) = [] :: row' :: rest' := ht ▸ Text.rows_append_newline [] t
      obtain ⟨rfl, rfl⟩ := List.cons.inj (h.symm.trans hrows)
      have hnext (fresh skipping : Bool) : rows (emptyHeadings fresh skipping ('\n' :: t)) =
          [] :: (row' :: rest').map emptied := by
        rw [emptyHeadings, if_pos rfl, List.map_cons, ← hfresh]
        exact Text.rows_append_newline [] _
      exact ⟨hnext true false, hnext false true, hnext false false⟩
    · obtain ⟨rfl, rfl⟩ := List.cons.inj (h.symm.trans (Text.rows_cons hc ht))
      have hkept : rows (c :: emptyHeadings false false t) = (c :: row') :: rest.map emptied :=
        Text.rows_cons hc hkeep
      refine ⟨?_, ?_, ?_⟩
      · rw [emptyHeadings, if_neg hc, if_pos rfl, emptied, isHeading_of_rows h]
        split
        · exact hskip
        · exact hkept
      · rw [emptyHeadings, if_neg hc]
        exact hskip
      · rw [emptyHeadings, if_neg hc]
        exact hkept

theorem rows_emptied (t : Text) : rows (emptyHeadings true false t) = (rows t).map emptied := by
  obtain ⟨row, rest, h⟩ := List.exists_cons_of_ne_nil (Text.rows_ne_nil t)
  rw [(rows_emptyHeadings h).1, h, List.map_cons]

/-! ## As a pattern -/

/-- Whether a character is no newline. -/
def inRow (c : Char) : Bool := c != '\n'

/-- A heading line as a pattern: `#+[ \t].*` from the start of a line to its end. -/
def headings : Text.Pattern :=
  [.lineStart, .one (· == '#'), .many (· == '#'), .one isGap, .many inRow, .lineEnd]

/-- The rest of a line matches up to its end. -/
theorem length?_toLineEnd (fresh : Bool) (t : Text) :
    Text.Pattern.length? [.many inRow, .lineEnd] fresh t =
      some (t.takeWhile inRow).length := by
  refine Text.Pattern.repeated_of_some (n := 0) (fun fresh => ?_) fresh
  have hend := List.head?_dropWhile_not inRow t
  rw [Text.Pattern.length?, if_pos, Text.Pattern.length?]
  cases hhead : (t.dropWhile inRow).head? with
  | none => rfl
  | some c => simpa [hhead, inRow] using hend

/-- Behind the number signs only a heading goes on. -/
theorem length?_afterMarks (fresh : Bool) (t : Text) :
    Text.Pattern.length? [.one isGap, .many inRow, .lineEnd] fresh t =
      if t.head?.any isGap then some (t.takeWhile inRow).length else none := by
  cases t with
  | nil => rfl
  | cons c t =>
    rw [Text.Pattern.length?, length?_toLineEnd, List.head?_cons, Option.any_some]
    split
    · next hc =>
      have hline : inRow c = true := by
        rcases isGap_iff.1 hc with rfl | rfl <;> rfl
      rw [List.takeWhile_cons_of_pos hline, List.length_cons, Option.map_some]
    · rfl

/-- All number signs are taken: with fewer, another one stands where the space or tab has to be. -/
theorem length?_marks (fresh : Bool) (t : Text) :
    Text.Pattern.length? [.many (· == '#'), .one isGap, .many inRow, .lineEnd] fresh t =
      if (t.dropWhile (· == '#')).head?.any isGap then some (t.takeWhile inRow).length
      else none := by
  rw [Text.Pattern.length?]
  split
  · next hgap =>
    have hmarks : ∀ c ∈ t.takeWhile (· == '#'), inRow c = true := by
      intro c hc
      rw [beq_iff_eq.1 (List.mem_takeWhile_imp (p := (· == '#')) hc)]
      rfl
    have hrow : (t.takeWhile inRow).length = (t.takeWhile (· == '#')).length
        + ((t.dropWhile (· == '#')).takeWhile inRow).length := by
      conv => lhs; rw [← List.takeWhile_append_dropWhile (p := (· == '#')) (l := t)]
      rw [List.takeWhile_append_of_pos hmarks, List.length_append]
    rw [hrow]
    refine Text.Pattern.repeated_of_some ?_ fresh
    intro fresh
    rw [length?_afterMarks, if_pos hgap]
  · next hgap =>
    refine Text.Pattern.repeated_of_none ?_ ?_ fresh
    · intro fresh
      rw [length?_afterMarks, if_neg hgap]
    · intro fresh c u hc
      rw [length?_afterMarks, beq_iff_eq.1 hc]
      rfl

/-- The pattern matches a line from its start to its end if the line is a heading, and nothing
else. -/
theorem length?_headings (fresh : Bool) (t : Text) : headings.length? fresh t =
    if fresh && isHeading t then some (t.takeWhile inRow).length else none := by
  cases fresh with
  | false => rfl
  | true =>
    cases t with
    | nil => rfl
    | cons c t =>
      rw [headings, Text.Pattern.length?, if_pos rfl, Text.Pattern.length?, Bool.true_and]
      by_cases hc : c = '#'
      · subst hc
        rw [if_pos (beq_self_eq_true _), length?_marks, isHeading_cons,
          List.takeWhile_cons_of_pos rfl, List.length_cons]
        split <;> rfl
      · rw [isHeading_of_ne hc, if_neg (by simpa using hc)]
        rfl

/-- Going on behind a match is giving up the rest of the line. -/
theorem replaceFrom_headings (t : Text) :
    (∀ fresh, headings.replaceFrom [] 0 fresh t = emptyHeadings fresh false t) ∧
    headings.replaceFrom [] (t.takeWhile inRow).length false t =
      emptyHeadings false true t := by
  induction t with
  | nil => exact ⟨fun _ => rfl, rfl⟩
  | cons c t ih =>
    obtain ⟨hkeep, hskip⟩ := ih
    by_cases hc : c = '\n'
    · subst hc
      have hnext (fresh skipping : Bool) : headings.replaceFrom [] 0 fresh ('\n' :: t) =
          emptyHeadings fresh skipping ('\n' :: t) := by
        rw [Text.Pattern.replaceFrom_of_none, emptyHeadings, if_pos rfl, hkeep]
        · rfl
        · rw [length?_headings, isHeading_of_ne (by decide), Bool.and_false]
          rfl
      exact ⟨fun fresh => hnext fresh false, hnext false true⟩
    · have hline : inRow c = true := bne_iff_ne.2 hc
      have hfresh : (c == '\n') = false := beq_eq_false_iff_ne.2 hc
      constructor
      · intro fresh
        have hlength := length?_headings fresh (c :: t)
        cases hheading : fresh && isHeading (c :: t) with
        | true =>
          rw [hheading, if_pos rfl, List.takeWhile_cons_of_pos hline, List.length_cons] at hlength
          obtain ⟨rfl, hstart⟩ := Bool.and_eq_true_iff.1 hheading
          rw [Text.Pattern.replaceFrom_of_some hlength, hfresh, hskip, emptyHeadings, if_neg hc,
            if_pos rfl, if_pos hstart]
          rfl
        | false =>
          rw [hheading, if_neg (by simp)] at hlength
          rw [Text.Pattern.replaceFrom_of_none hlength, hfresh, hkeep, emptyHeadings, if_neg hc,
            if_neg]
          cases fresh <;> simp_all
      · rw [List.takeWhile_cons_of_pos hline, List.length_cons, Text.Pattern.replaceFrom, hfresh,
          hskip, emptyHeadings, if_neg hc]
        rfl

/-! ## As a whole -/

/-- The ways to tidy a note agree.  What the one pass makes of prose is what is left when everything
that matches the pattern of headings is removed, and it is what the rows of the prose come to when
those that are headings are emptied.  So there are as many newlines before the blanks at the ends
go; and the rows that are emptied are those that end a description, with or without a line end. -/
theorem tidy_agree (prose : Text) :
    tidy prose = Text.trim (headings.replaceAll [] prose) ∧
    tidy prose = Text.trim (Text.join ['\n'] ((rows prose).map emptied)) ∧
    rows (headings.replaceAll [] prose) = (rows prose).map emptied ∧
    (headings.replaceAll [] prose).count '\n' = prose.count '\n' ∧
    ∀ row, Heading.isHeadingRegion (.plain row) = isHeading row ∧
      Heading.isHeadingRegion (.plain (row ++ ['\n'])) = isHeading row := by
  have hpattern : headings.replaceAll [] prose = emptyHeadings true false prose :=
    (replaceFrom_headings prose).1 true
  have hrows := rows_emptied prose
  refine ⟨?_, ?_, ?_, ?_, fun row => ⟨?_, ?_⟩⟩
  · rw [hpattern, tidy]
  · rw [← hrows, Text.join_rows, tidy]
  · rw [hpattern, hrows]
  · have hlength := congrArg List.length hrows
    rw [List.length_map, Text.length_rows, Text.length_rows] at hlength
    rw [hpattern]
    omega
  · exact isHeading_dropBreaks row
  · exact (isHeading_dropBreaks _).trans (isHeading_append (by decide) rfl row [])

end Note

end GuideBundles
