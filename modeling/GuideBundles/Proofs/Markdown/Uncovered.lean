/-
# `Proofs.Markdown.Uncovered` — headings that trimming uncovers

A note loses its heading lines first and the blanks at its ends then.  A line that begins with
blanks is no heading and stays; if it is the first one left, its blanks go, and what remains may
begin with number signs.  `Note.uncovers` looks for that in the rows of the prose.
`Note.isHeading_tidy` says that it is the only way for a heading to get into a note, and
`CodeBlock.headings_only_uncovered` that notes are free of headings, and not changed by tidying them
again, whenever it does not happen.
-/
import GuideBundles.Proofs.Markdown.Cursor
import GuideBundles.Proofs.Markdown.Note

namespace GuideBundles

open Text (rows hasInk trimStart trimEnd trim)

/-! ## Rows at the ends of a text -/

namespace Text

variable {t row : Text} {front back : List Text}

theorem trimStart_append {s : Text} (h : hasInk s = true) (t : Text) :
    trimStart (s ++ t) = trimStart s ++ t := by
  obtain ⟨c, hc, hink⟩ := List.any_eq_true.1 h
  rw [trimStart, List.dropWhile_append, if_neg]
  · rfl
  · rw [List.isEmpty_iff, List.dropWhile_eq_nil_iff]
    intro hall
    rw [hall c hc] at hink
    cases hink

theorem trimStart_append_of_blank {s : Text} (h : hasInk s = false) (t : Text) :
    trimStart (s ++ t) = trimStart t :=
  List.dropWhile_append_of_pos (isBlank_of_hasInk_eq_false h)

theorem trimEnd_append_of_blank {t : Text} (h : hasInk t = false) (s : Text) :
    trimEnd (s ++ t) = trimEnd s := by
  rw [trimEnd, dropEndWhile, List.reverse_append,
    List.dropWhile_append_of_pos fun c hc => isBlank_of_hasInk_eq_false h c (List.mem_reverse.1 hc)]
  rfl

/-- No newline is part of a row. -/
theorem newline_not_mem_of_mem_rows (h : row ∈ rows t) : '\n' ∉ row := by
  intro hmem
  have hsep := (mem_of_mem_splitOn h hmem).2
  cases hsep

/-- The first row of a text is all of it or ends at a newline, behind which the others stand. -/
theorem rows_eq_cons (h : rows t = row :: back) :
    (t = row ∧ back = []) ∨ ∃ u, t = row ++ '\n' :: u ∧ rows u = back := by
  rcases splitOn_eq_cons h with hall | ⟨c, u, hc, ht, hu⟩
  · exact .inl hall
  · exact .inr ⟨u, beq_iff_eq.1 hc ▸ ht, hu⟩

/-- All ink of a text is in its rows. -/
theorem hasInk_eq_any_rows (t : Text) : hasInk t = (rows t).any hasInk := by
  induction t with
  | nil => rfl
  | cons c t ih =>
    obtain ⟨row, rest, hrows⟩ := List.exists_cons_of_ne_nil (rows_ne_nil t)
    have hcons : hasInk (c :: t) = (!isBlank c || hasInk t) := rfl
    by_cases hc : c = '\n'
    · subst hc
      have hcut : rows ('\n' :: t) = [] :: rows t := rows_append_newline [] t
      rw [hcons, hcut, ih]
      rfl
    · rw [hcons, rows_cons hc hrows, ih, hrows, List.any_cons, List.any_cons, ← Bool.or_assoc]
      rfl

/-- Rows without ink in front of a row with ink go as a whole, and its own blanks go too. -/
theorem rows_trimStart (h : rows t = front ++ row :: back)
    (hfront : ∀ r ∈ front, hasInk r = false) (hrow : hasInk row = true) :
    rows (trimStart t) = trimStart row :: back := by
  induction front generalizing t with
  | nil =>
    have hmem : row ∈ rows t := h ▸ List.mem_cons_self
    have hfirst : rows (trimStart row) = [trimStart row] := rows_of_not_mem fun hnewline =>
      newline_not_mem_of_mem_rows hmem ((List.dropWhile_sublist _).subset hnewline)
    rcases rows_eq_cons h with ⟨rfl, rfl⟩ | ⟨u, rfl, hu⟩
    · exact hfirst
    · rw [trimStart_append hrow, rows_append_newline, hfirst, hu]
      rfl
  | cons r front ih =>
    rcases rows_eq_cons h with ⟨-, hnil⟩ | ⟨u, rfl, hu⟩
    · cases front <;> cases hnil
    · have hblank : hasInk (r ++ ['\n']) = false := by
        rw [hasInk_append, hfront r List.mem_cons_self]
        rfl
      rw [List.append_cons, trimStart_append_of_blank hblank]
      exact ih hu fun q hq => hfront q (List.mem_cons_of_mem _ hq)

/-- Rows without ink behind a row with ink go as a whole, and its own blanks go too. -/
theorem rows_trimEnd (h : rows t = front ++ row :: back) (hrow : hasInk row = true)
    (hback : ∀ r ∈ back, hasInk r = false) : rows (trimEnd t) = front ++ [trimEnd row] := by
  induction front generalizing t with
  | nil =>
    have hmem : row ∈ rows t := h ▸ List.mem_cons_self
    have hlast : rows (trimEnd row) = [trimEnd row] := rows_of_not_mem fun hnewline =>
      newline_not_mem_of_mem_rows hmem ((dropEndWhile_sublist _ _).subset hnewline)
    rcases rows_eq_cons h with ⟨rfl, rfl⟩ | ⟨u, rfl, hu⟩
    · exact hlast
    · have hblank : hasInk ('\n' :: u) = false := by
        have hnone : hasInk u = false := by
          rw [hasInk_eq_any_rows, hu, List.any_eq_false]
          exact fun r hr => by simp [hback r hr]
        exact hnone
      rw [trimEnd_append_of_blank hblank]
      exact hlast
  | cons r front ih =>
    have hr : '\n' ∉ r := newline_not_mem_of_mem_rows (t := t) (h ▸ List.mem_cons_self)
    rcases rows_eq_cons h with ⟨-, hnil⟩ | ⟨u, rfl, hu⟩
    · cases front <;> cases hnil
    · have hink : hasInk u = true := by
        rw [hasInk_eq_any_rows, hu]
        simp [hrow]
      rw [List.append_cons, trimEnd_append hink, ← List.append_cons, rows_append_newline, ih hu,
        rows_of_not_mem hr]
      rfl

theorem hasInk_trimStart (t : Text) : hasInk (trimStart t) = hasInk t := by
  have hblank : hasInk (t.takeWhile isBlank) = false := by
    rw [hasInk, List.any_eq_false]
    intro c hc
    simp [List.mem_takeWhile_imp hc]
  conv => rhs; rw [← List.takeWhile_append_dropWhile (p := isBlank) (l := t), hasInk_append, hblank]
  rfl

end Text

/-! ## Rows of a note -/

/-- A line that is no heading becomes none without the blanks at its end. -/
theorem isHeading_trimEnd {t : Text} (h : isHeading t = false) : isHeading (trimEnd t) = false := by
  obtain ⟨u, hu⟩ := Text.dropEndWhile_prefix Text.isBlank t
  refine Bool.eq_false_iff.2 fun hheading => ?_
  obtain ⟨marks, gap, rest, hspelled, hne, hmarks, hgap⟩ := isHeading_iff.1 hheading
  have ht : t = marks ++ gap :: (rest ++ u) := by
    rw [← hu]
    change trimEnd t ++ u = _
    rw [hspelled]
    simp
  rw [isHeading_iff.2 ⟨marks, gap, rest ++ u, ht, hne, hmarks, hgap⟩] at h
  cases h

namespace Note

theorem isHeading_emptied (row : Text) : isHeading (emptied row) = false := by
  rw [emptied]
  split
  · rfl
  · next h => simpa using h

/-- The rows of prose from the first one on that has ink and is no heading. -/
def kept (prose : Text) : List Text := ((rows prose).map emptied).dropWhile fun row => !hasInk row

/-- Whether there is a heading in the first row of prose that is kept, once the blanks at its start
are gone.  If no other row has ink, the blanks at its end are gone too. -/
def uncovers (prose : Text) : Bool :=
  match kept prose with
  | [] => false
  | row :: rest => isHeading (if rest.any hasInk then trimStart row else trim row)

theorem uncovers_of_kept {prose row : Text} {rest : List Text} (h : kept prose = row :: rest) :
    uncovers prose = isHeading (if rest.any hasInk then trimStart row else trim row) := by
  rw [uncovers, h]

theorem isHeading_of_mem_kept {prose row : Text} (h : row ∈ kept prose) :
    isHeading row = false := by
  obtain ⟨r, -, rfl⟩ := List.mem_map.1 ((List.dropWhile_sublist _).subset h)
  exact isHeading_emptied r

theorem hasInk_of_kept {prose row : Text} {rest : List Text} (h : kept prose = row :: rest) :
    hasInk row = true := by
  have hhead := List.head?_dropWhile_not (fun row => !hasInk row) ((rows prose).map emptied)
  rw [show List.dropWhile _ _ = row :: rest from h] at hhead
  simpa using hhead

theorem rows_trimStart_emptied {prose row : Text} {rest : List Text}
    (h : kept prose = row :: rest) :
    rows (trimStart (emptyHeadings true false prose)) = trimStart row :: rest := by
  have hsplit : rows (emptyHeadings true false prose)
      = ((rows prose).map emptied).takeWhile (fun row => !hasInk row) ++ row :: rest := by
    rw [rows_emptied, ← h, kept, List.takeWhile_append_dropWhile]
  refine Text.rows_trimStart hsplit (fun r hr => ?_) (hasInk_of_kept h)
  simpa using List.mem_takeWhile_imp hr

theorem exists_last_ink {l : List Text} (h : l.any hasInk = true) :
    ∃ front row back, l = front ++ row :: back ∧ hasInk row = true ∧
      ∀ r ∈ back, hasInk r = false := by
  induction l with
  | nil => cases h
  | cons r l ih =>
    cases hl : l.any hasInk with
    | true =>
      obtain ⟨front, row, back, rfl, hrow, hback⟩ := ih hl
      exact ⟨r :: front, row, back, rfl, hrow, hback⟩
    | false =>
      rw [List.any_cons, hl, Bool.or_false] at h
      exact ⟨[], r, l, rfl, h, fun q hq => by simpa using List.any_eq_false.1 hl q hq⟩

/-- The first row of a note has lost the blanks at its start, the last one those at its end, and all
others are as they were. -/
theorem rows_tidy (prose : Text) :
    (kept prose = [] ∧ rows (tidy prose) = [[]]) ∨
    (∃ row rest, kept prose = row :: rest ∧ rest.any hasInk = false ∧
      rows (tidy prose) = [trim row]) ∨
    ∃ row mid last back, kept prose = row :: (mid ++ last :: back) ∧
      (mid ++ last :: back).any hasInk = true ∧
      rows (tidy prose) = trimStart row :: (mid ++ [trimEnd last]) := by
  cases hkept : kept prose with
  | nil =>
    refine .inl ⟨rfl, ?_⟩
    have hnone : hasInk (emptyHeadings true false prose) = false := by
      rw [Text.hasInk_eq_any_rows, rows_emptied, List.any_eq_false]
      intro r hr
      simpa using List.dropWhile_eq_nil_iff.1 hkept r hr
    rw [tidy, Text.trim_eq_nil_iff.2 (Text.isBlank_of_hasInk_eq_false hnone)]
    rfl
  | cons row rest =>
    have hstart := rows_trimStart_emptied hkept
    cases hrest : rest.any hasInk with
    | false =>
      refine .inr (.inl ⟨row, rest, rfl, hrest, ?_⟩)
      have hink : hasInk (trimStart row) = true := by
        rw [Text.hasInk_trimStart, hasInk_of_kept hkept]
      have hsplit : rows (trimStart (emptyHeadings true false prose))
          = [] ++ trimStart row :: rest := hstart
      exact Text.rows_trimEnd hsplit hink fun r hr => by
        simpa using List.any_eq_false.1 hrest r hr
    | true =>
      obtain ⟨mid, last, back, rfl, hlast, hback⟩ := exists_last_ink hrest
      refine .inr (.inr ⟨row, mid, last, back, rfl, hrest, ?_⟩)
      rw [← List.cons_append] at hstart
      exact Text.rows_trimEnd hstart hlast hback

/-- Behind the first row of a note there is no heading. -/
theorem isHeading_of_mem_tail {prose row : Text} (h : row ∈ (rows (tidy prose)).tail) :
    isHeading row = false := by
  rcases rows_tidy prose with ⟨-, hrows⟩ | ⟨_, _, -, -, hrows⟩ |
    ⟨first, mid, last, back, hkept, -, hrows⟩
  · rw [hrows] at h
    cases h
  · rw [hrows] at h
    cases h
  · rw [hrows, List.tail_cons] at h
    have hmem {r : Text} (hr : r ∈ mid ++ last :: back) : isHeading r = false :=
      isHeading_of_mem_kept (hkept ▸ List.mem_cons_of_mem _ hr)
    rcases List.mem_append.1 h with h | h
    · exact hmem (List.mem_append_left _ h)
    · rw [List.mem_singleton.1 h]
      exact isHeading_trimEnd (hmem (by simp))

/-- A note starts with a heading if trimming uncovers one, and otherwise it does not. -/
theorem isHeading_tidy (prose : Text) : isHeading (tidy prose) = uncovers prose := by
  rcases rows_tidy prose with ⟨hkept, hrows⟩ | ⟨row, rest, hkept, hrest, hrows⟩ |
    ⟨row, mid, last, back, hkept, hrest, hrows⟩
  · rw [isHeading_of_rows hrows, uncovers, hkept]
    rfl
  · rw [isHeading_of_rows hrows, uncovers_of_kept hkept, hrest]
    rfl
  · rw [isHeading_of_rows hrows, uncovers_of_kept hkept, hrest]
    rfl

/-! ## Tidying again -/

/-- What no heading is in stays as it is, and nothing else does. -/
theorem emptyHeadings_eq_self_iff {t : Text} :
    emptyHeadings true false t = t ↔ ∀ row ∈ rows t, isHeading row = false := by
  constructor
  · intro h row hrow
    have hmap := rows_emptied t
    rw [h] at hmap
    have hsame : emptied row = row :=
      List.map_inj_left.1 (hmap.symm.trans (List.map_id _).symm) row hrow
    rw [← hsame]
    exact isHeading_emptied row
  · intro h
    have hmap : (rows t).map emptied = (rows t).map id :=
      List.map_inj_left.2 fun row hrow => if_neg (by simp [h row hrow])
    rw [← Text.join_rows (emptyHeadings true false t), rows_emptied, hmap, List.map_id,
      Text.join_rows]

theorem tidy_tidy_iff {prose : Text} : tidy (tidy prose) = tidy prose ↔
    ∀ row ∈ rows (tidy prose), isHeading row = false := by
  rw [← emptyHeadings_eq_self_iff]
  constructor
  · intro h
    have hempty := emptyHeadings_sublist true false (tidy prose)
    have htrim := Text.trim_sublist (emptyHeadings true false (tidy prose))
    rw [show trim (emptyHeadings true false (tidy prose)) = tidy prose from h] at htrim
    exact hempty.antisymm htrim
  · intro h
    conv => lhs; rw [tidy, h]
    exact Text.trim_trim _

/-- Nothing is uncovered if no row becomes a heading without the blanks at its start. -/
theorem uncovers_eq_false {prose : Text}
    (h : ∀ row ∈ rows prose, isHeading (trimStart row) = isHeading row) :
    uncovers prose = false := by
  cases hkept : kept prose with
  | nil => rw [uncovers, hkept]
  | cons row rest =>
    have hmem : row ∈ kept prose := hkept ▸ List.mem_cons_self
    have hrow : row ∈ rows prose := by
      obtain ⟨r, hr, rfl⟩ := List.mem_map.1 ((List.dropWhile_sublist _).subset hmem)
      have hink := hasInk_of_kept hkept
      rw [emptied] at hink ⊢
      split at hink
      · cases hink
      · next hheading => rwa [if_neg hheading]
    have hstart : isHeading (trimStart row) = false :=
      (h row hrow).trans (isHeading_of_mem_kept hmem)
    rw [uncovers_of_kept hkept]
    split
    · exact hstart
    · exact isHeading_trimEnd hstart

/-- A note has a heading in it if trimming uncovers one, and otherwise none. -/
theorem headingFree_iff {prose : Text} :
    (∀ row ∈ rows (tidy prose), isHeading row = false) ↔ uncovers prose = false := by
  obtain ⟨row, rest, hrows⟩ := List.exists_cons_of_ne_nil (Text.rows_ne_nil (tidy prose))
  rw [← isHeading_tidy, isHeading_of_rows hrows, hrows, List.forall_mem_cons]
  refine and_iff_left_of_imp fun _ r hr => ?_
  have htail : r ∈ (rows (tidy prose)).tail := by rwa [hrows]
  exact isHeading_of_mem_tail htail

end Note

/-! ## Notes of code blocks -/

namespace CodeBlock

/-- The prose of a note goes from the end of the block before it to the block. -/
theorem Following.note_of_append {t : Text} {cursor : Nat} {before after : List CodeBlock}
    {b : CodeBlock} (h : Following t cursor (before ++ b :: after)) :
    ∃ prose, Text.slice? ((before.getLast?.map stop).getD cursor) b.start t = some prose ∧
      b.note = Note.tidy prose := by
  induction before generalizing cursor with
  | nil =>
    cases h with
    | cons _ _ hslice hnote _ => exact ⟨_, hslice, hnote⟩
  | cons first before ih =>
    cases h with
    | cons _ _ _ _ hrest =>
      obtain ⟨prose, hslice, hnote⟩ := ih hrest
      refine ⟨prose, ?_, hnote⟩
      rw [List.getLast?_cons]
      cases hlast : before.getLast? with
      | none => simpa [hlast] using hslice
      | some last => simpa [hlast] using hslice

/-- The only headings in notes are those that trimming uncovers.  The note to a block is made of the
prose between it and the block before it; and a note made of any prose has no heading behind its
first row, has none at all, and stays the same when it is tidied again, unless the first row of the
prose that is kept is a heading with blanks in front.  Where no row is one, nothing is uncovered. -/
theorem headings_only_uncovered (tags : List Text) (d : Dialect) (t : Text) :
    (∀ before b after, extract tags d t = before ++ b :: after → ∃ prose,
      Text.slice? ((before.getLast?.map stop).getD 0) b.start t = some prose ∧
      b.note = Note.tidy prose ∧
      ((∀ row ∈ rows b.note, isHeading row = false) ↔ Note.uncovers prose = false)) ∧
    ∀ prose, (∀ row ∈ (rows (Note.tidy prose)).tail, isHeading row = false) ∧
      ((∀ row ∈ rows (Note.tidy prose), isHeading row = false) ↔ Note.uncovers prose = false) ∧
      (Note.tidy (Note.tidy prose) = Note.tidy prose ↔ Note.uncovers prose = false) ∧
      ((∀ row ∈ rows prose, isHeading (trimStart row) = isHeading row) →
        Note.uncovers prose = false) := by
  constructor
  · intro before b after h
    have hfollowing := following_extract tags d t
    rw [h] at hfollowing
    obtain ⟨prose, hslice, hnote⟩ := hfollowing.note_of_append
    exact ⟨prose, hslice, hnote, hnote ▸ Note.headingFree_iff⟩
  · intro prose
    exact ⟨fun row hrow => Note.isHeading_of_mem_tail hrow, Note.headingFree_iff,
      Note.tidy_tidy_iff.trans Note.headingFree_iff, Note.uncovers_eq_false⟩

/-- A heading with a blank in front of it comes first, and later another one does not. -/
theorem headings_only_uncovered_indented :
    let t := Text.ofString " # A\n```python\nx\n```\n## B\n text\n # C\n```python\ny\n```\n"
    let tags := [Text.ofString "python"]
    let first : CodeBlock := ⟨.snippet, Text.ofString "x\n", Text.ofString "# A", 5, 20⟩
    let second : CodeBlock :=
      ⟨.snippet, Text.ofString "y\n", Text.ofString "text\n # C", 37, 52⟩
    let plain := Text.ofString "# A\n#b\n"
    extract tags .snippet t = [first] ++ second :: [] ∧
    (∃ prose, Text.slice? 20 37 t = some prose ∧ second.note = Note.tidy prose ∧
      ((∀ row ∈ rows second.note, isHeading row = false) ↔ Note.uncovers prose = false)) ∧
    (∀ row ∈ rows plain, isHeading (trimStart row) = isHeading row) ∧
    Note.uncovers plain = false := by
  intro t tags first second plain
  have hextract : extract tags .snippet t = [first] ++ second :: [] := by decide +kernel
  have hplain : ∀ row ∈ rows plain, isHeading (trimStart row) = isHeading row := by decide +kernel
  obtain ⟨hblocks, hproses⟩ := headings_only_uncovered tags .snippet t
  exact ⟨hextract, hblocks [first] second [] hextract, hplain, (hproses plain).2.2.2 hplain⟩

/-- A blank in front of it gets a heading into a note, and tidied again the note is empty. -/
theorem heading_in_note_of_indented :
    extract [Text.ofString "python"] .snippet (Text.ofString " # A\n```python\nx\n```\n") =
      [⟨.snippet, Text.ofString "x\n", Text.ofString "# A", 5, 20⟩] ∧
    isHeading (Text.ofString "# A") = true ∧
    Note.tidy (Text.ofString " # A") = Text.ofString "# A" ∧
    Note.tidy (Note.tidy (Text.ofString " # A")) ≠ Note.tidy (Text.ofString " # A") := by
  decide +kernel

end CodeBlock
end GuideBundles
