/-
# `Proofs.Artifact.Issue` — what a check finds in a generated snippet file

The head of a snippet file is well formed but for one thing: a document may have no description.
Then the comment on the third line is empty, and what the check makes of it depends on the line that
the first code block begins with.
-/
import GuideBundles.Proofs.Artifact.Snippet
import GuideBundles.Proofs.Text.Trim
import GuideBundles.SnippetIssue

namespace GuideBundles

open Text (rows lines trim)

/-- Whether a line is a comment that says something. -/
def SnippetIssue.Says (line : Text) : Prop := isComment line = true ∧ 2 < Text.size line

/-- Whether a block begins with a comment in a snippet file: with its note, or without one with the
first line of its code. -/
def CodeBlock.OpensWithComment (b : CodeBlock) : Prop :=
  b.note ≠ [] ∨ b.note = [] ∧ ∃ line ∈ (lines (trim b.code)).head?, SnippetIssue.Says (trim line)

/-- The note to an extracted block is tidy. -/
theorem CodeBlock.exists_tidy_of_mem_collect {d : Dialect} {pending : Text} {bs : List Block}
    {b : CodeBlock} (h : b ∈ collect d pending bs) : ∃ prose, b.note = Note.tidy prose := by
  induction bs generalizing pending with
  | nil => cases h
  | cons first rest ih =>
    cases first with
    | prose t start stop => exact ih h
    | code tag code start stop =>
      rcases List.mem_cons.1 h with rfl | h
      · exact ⟨pending, rfl⟩
      · exact ih h

namespace Artifact

/-! ## Trimmed comments -/

theorem trim_mark {row : Text} (h : Text.hasInk row = true) :
    trim (mark ++ row) = mark ++ Text.trimEnd row := Text.trimEnd_append h mark

/-- A marked row with ink in it says something. -/
theorem says_mark {row : Text} (h : Text.hasInk row = true) :
    SnippetIssue.Says (trim (mark ++ row)) := by
  obtain ⟨c, t, ht⟩ := List.exists_cons_of_ne_nil (Text.trimEnd_ne_nil h)
  rw [trim_mark h, ht]
  refine ⟨rfl, ?_⟩
  have hhash : ('#' : Char).utf8Size = 1 := rfl
  have hspace : (' ' : Char).utf8Size = 1 := rfl
  have hc := c.utf8Size_pos
  simp only [mark, List.cons_append, List.nil_append, Text.size_cons, hhash, hspace]
  omega

/-! ## The lines of the code blocks -/

/-- The code blocks as they stand in a snippet file. -/
def blocksText (bs : List CodeBlock) : Text :=
  bs.flatMap fun b => note b ++ trim b.code ++ Text.ofString "\n\n"

/-- Whether the first row says something, once it is trimmed. -/
def FirstSays (rs : List Text) : Prop := ∃ row ∈ rs.head?, SnippetIssue.Says (trim row)

theorem firstSays_append {rs : List Text} (h : rs ≠ []) (more : List Text) :
    FirstSays (rs ++ more) ↔ FirstSays rs := by
  obtain ⟨row, rest, rfl⟩ := List.exists_cons_of_ne_nil h
  exact Iff.rfl

/-- The first row of code says something when the first line does. -/
theorem firstSays_rows_iff (t : Text) :
    FirstSays (rows t) ↔ ∃ line ∈ (lines t).head?, SnippetIssue.Says (trim line) := by
  by_cases ht : t = []
  · subst ht
    have hempty : ¬ SnippetIssue.Says (trim []) := fun h => nomatch h.1
    simpa [FirstSays, rows, Text.splitOn, lines, Text.fullLines] using hempty
  · obtain ⟨row, rest, hrows⟩ := List.exists_cons_of_ne_nil (Text.rows_ne_nil t)
    obtain ⟨line, hline, htrim⟩ := Option.map_eq_some_iff.1 (Text.head?_lines ht hrows)
    simp [FirstSays, hrows, hline, htrim]

/-- The first row of code blocks says something when the first block opens with a comment. -/
theorem firstSays_blocksText_iff {b : CodeBlock} (hnote : ∃ prose, b.note = Note.tidy prose)
    (rest : List CodeBlock) :
    FirstSays (rows (blocksText (b :: rest))).dropLast ↔ b.OpensWithComment := by
  have htext : blocksText (b :: rest)
      = note b ++ (trim b.code ++ '\n' :: ([] ++ '\n' :: blocksText rest)) := by
    rw [blocksText, List.flatMap_cons, List.append_assoc, List.append_assoc]
    rfl
  have hcode : rows (trim b.code ++ '\n' :: ([] ++ '\n' :: blocksText rest))
      = rows (trim b.code) ++ [] :: rows (blocksText rest) := by
    rw [Text.rows_append_newline, Text.rows_append_newline]
    rfl
  have hlast (rs : List Text) : (rs ++ [] :: rows (blocksText rest)).dropLast
      = rs ++ [] :: (rows (blocksText rest)).dropLast := by
    rw [List.dropLast_append_of_ne_nil (List.cons_ne_nil _ _),
      List.dropLast_cons_of_ne_nil (Text.rows_ne_nil _)]
  by_cases hempty : b.note = []
  · have hno : note b = [] := by rw [note, if_pos hempty]
    rw [htext, hno, List.nil_append, hcode, hlast, firstSays_append (Text.rows_ne_nil _),
      firstSays_rows_iff]
    simp [CodeBlock.OpensWithComment, hempty]
  · obtain ⟨prose, hprose⟩ := hnote
    obtain ⟨row, others, hrows⟩ := List.exists_cons_of_ne_nil (Text.rows_ne_nil b.note)
    have hink : Text.hasInk row = true := by
      rw [hprose] at hempty hrows
      exact Text.hasInk_of_rows_trim hempty hrows
    have hmarked : note b = comment b.note ++ ['\n'] := by rw [note, if_neg hempty]
    rw [htext, hmarked, List.append_assoc, List.singleton_append, Text.rows_append_newline, hcode,
      ← List.append_assoc, hlast, List.append_assoc, rows_comment, hrows, List.map_cons]
    constructor
    · exact fun _ => .inl hempty
    · exact fun _ => ⟨mark ++ row, rfl, says_mark hink⟩

/-! ## The issue of a snippet file -/

theorem endsRow_snippetText (b : Bundle) : Text.endsRow (snippetText b) = true := by
  have hend (t : Text) : Text.endsRow (t ++ Text.ofString "\n\n") = true := by
    rw [Text.endsRow, List.getLast?_append_of_ne_nil _ (by decide)]
    rfl
  rw [snippetText]
  cases hblocks : b.snippets using List.reverseRecOn with
  | nil =>
    rw [List.flatMap_nil, List.append_nil]
    exact hend _
  | append_singleton bs last =>
    rw [List.flatMap_append, List.flatMap_singleton, ← List.append_assoc, ← List.append_assoc]
    exact hend _

/-- The lines of a snippet file, as they are looked at. -/
theorem map_trim_lines_snippetText_of_rows {b : Bundle} {first : Text} {more : List Text}
    (h : rows b.title = first :: more) : (lines (snippetText b)).map trim = trim (mark ++ first) ::
      (more.map trim ++ [] :: ((rows b.description).map (fun row => trim (mark ++ row)) ++
        [] :: (rows (blocksText b.snippets)).dropLast.map trim)) := by
  have hne : (rows (blocksText b.snippets)).map trim ≠ [] := by
    simpa using Text.rows_ne_nil _
  rw [Text.map_trim_lines (endsRow_snippetText b), rows_snippetText_of_rows h]
  change (trim (mark ++ first) :: (more ++ [] :: ((rows b.description).map (mark ++ ·) ++
    [] :: rows (blocksText b.snippets))).map trim).dropLast = _
  rw [List.map_append, List.map_cons, List.map_append, List.map_map, List.map_cons,
    List.dropLast_cons_of_ne_nil (by simp), List.dropLast_append_of_ne_nil (by simp),
    List.dropLast_cons_of_ne_nil (by simp), List.dropLast_append_of_ne_nil (by simp),
    List.dropLast_cons_of_ne_nil hne, List.map_dropLast]
  rfl

/-- The lines of a snippet file under a title, as they are looked at. -/
theorem map_trim_lines_snippetText {b : Bundle} (h : '\n' ∉ b.title) :
    (lines (snippetText b)).map trim = trim (mark ++ b.title) :: [] ::
      ((rows b.description).map (fun row => trim (mark ++ row)) ++
        [] :: (rows (blocksText b.snippets)).dropLast.map trim) :=
  map_trim_lines_snippetText_of_rows (Text.rows_of_not_mem h)

theorem hasLateDescription_iff (rs : List Text) :
    SnippetIssue.hasLateDescription ([] :: rs.map trim) = true ↔ FirstSays rs := by
  cases rs with
  | nil => simp [SnippetIssue.hasLateDescription, FirstSays]
  | cons row rest => simp [SnippetIssue.hasLateDescription, FirstSays, SnippetIssue.Says]

variable {b : Bundle}

/-- Nothing is wrong when there is a description. -/
theorem ofText_of_description (h : '\n' ∉ b.title) (hink : Text.hasInk b.title = true) {row : Text}
    {rest : List Text} (hrows : rows b.description = row :: rest)
    (hrow : Text.hasInk row = true) : SnippetIssue.ofText (snippetText b) = none := by
  have hne : trim (mark ++ row) ≠ ['#'] := by
    rw [trim_mark hrow]
    simp [mark]
  rw [SnippetIssue.ofText, map_trim_lines_snippetText h, hrows, List.map_cons, List.cons_append,
    SnippetIssue.ofLines, (says_mark hink).1, (says_mark hrow).1]
  simp [hne]

/-- Without a description, the first row of the code blocks decides. -/
theorem ofText_of_description_eq_nil (h : '\n' ∉ b.title) (hink : Text.hasInk b.title = true)
    (hdescription : b.description = []) : SnippetIssue.ofText (snippetText b) =
      if SnippetIssue.hasLateDescription
          ([] :: (rows (blocksText b.snippets)).dropLast.map trim) then
        some .descriptionOnLineFive else some .emptyDescription := by
  have hrows : (rows b.description).map (fun row => trim (mark ++ row)) = [['#']] := by
    rw [hdescription]
    decide
  rw [SnippetIssue.ofText, map_trim_lines_snippetText h, hrows, List.singleton_append,
    SnippetIssue.ofLines, (says_mark hink).1]
  simp

end Artifact

/-- A title has ink. -/
theorem Heading.hasInk_of_title {t title : Text} (h : (extract t).title = some title) :
    Text.hasInk title = true := by
  obtain ⟨line, -, htitle⟩ := exists_of_title_ofRegions h
  obtain ⟨rest, -, hink, rfl⟩ := title?_eq_some_iff.1 htitle
  exact Text.hasInk_of_rows_trim (Text.trim_ne_nil hink)
    (Text.rows_of_not_mem (newline_not_mem_title h))

/-- A description is trimmed. -/
theorem Heading.exists_trim_description (t : Text) : ∃ u, (extract t).description = trim u := by
  unfold extract
  induction Region.ofText t with
  | nil => exact ⟨[], rfl⟩
  | cons r rest ih =>
    cases r with
    | fenced head o body close => exact ih
    | plain line =>
      rw [ofRegions]
      split
      · exact ⟨_, rfl⟩
      · exact ih

namespace Artifact

/-- What the check finds in the snippet file of a document with a title: nothing when the document
has a description, and otherwise a description on the fifth line, when the first code block opens
with a comment, or none at all. -/
theorem ofText_snippetText {tags : FenceTags} {t title : Text}
    (h : (Heading.extract t).title = some title) (id : ExampleId) (images : List Reference) :
    let d := Document.ofText tags t
    let issue := SnippetIssue.ofText (snippetText (Bundle.ofDocument id d images))
    let opens := ∃ b ∈ d.snippets.head?, b.OpensWithComment
    (issue = none ↔ d.heading.description ≠ []) ∧
      (d.heading.description = [] → (issue = some .descriptionOnLineFive ↔ opens) ∧
        (issue = some .emptyDescription ↔ ¬ opens)) ∧
      ∀ x, issue = some x → x = .descriptionOnLineFive ∨ x = .emptyDescription := by
  intro d issue opens
  have htitle : (Bundle.ofDocument id d images).title = title := by
    change (Heading.extract t).title.getD _ = title
    rw [h]
    rfl
  have hno : '\n' ∉ (Bundle.ofDocument id d images).title := by
    rw [htitle]
    exact Heading.newline_not_mem_title h
  have hink : Text.hasInk (Bundle.ofDocument id d images).title = true := by
    rw [htitle]
    exact Heading.hasInk_of_title h
  by_cases hdescription : d.heading.description = []
  · have hissue := ofText_of_description_eq_nil hno hink hdescription
    have hopens : FirstSays (rows (blocksText d.snippets)).dropLast ↔ opens := by
      cases hblocks : d.snippets with
      | nil => simp [opens, hblocks, FirstSays, blocksText, rows, Text.splitOn]
      | cons b rest =>
        have hmem : b ∈ d.snippets := by simp [hblocks]
        rw [firstSays_blocksText_iff (CodeBlock.exists_tidy_of_mem_collect hmem)]
        simp [opens, hblocks]
    rw [← hasLateDescription_iff] at hopens
    by_cases hsays : opens
    · have hlate : issue = some .descriptionOnLineFive := hissue.trans (if_pos (hopens.2 hsays))
      simp [hlate, hdescription, hsays]
    · have hempty : issue = some .emptyDescription := hissue.trans (if_neg (mt hopens.1 hsays))
      simp [hempty, hdescription, hsays]
  · obtain ⟨u, hu⟩ := Heading.exists_trim_description t
    obtain ⟨row, rest, hrows⟩ := List.exists_cons_of_ne_nil (Text.rows_ne_nil d.heading.description)
    have hrow : Text.hasInk row = true := by
      rw [show d.heading.description = trim u from hu] at hdescription hrows
      exact Text.hasInk_of_rows_trim hdescription hrows
    have hissue : issue = none := ofText_of_description hno hink hrows hrow
    simp [hissue, hdescription]

/-- Code under a second heading that begins with a comment. -/
theorem ofText_snippetText_comment :
    let t := Text.ofString "# T\n## H\n```python\n# c\n```\n"
    (Heading.extract t).title = some ['T'] ∧
      SnippetIssue.ofText (snippetText
        (Bundle.ofDocument ⟨['i'], rfl⟩ (Document.ofText { } t) [])) =
          some .descriptionOnLineFive := by
  intro t
  have htitle : (Heading.extract t).title = some ['T'] := by decide +kernel
  obtain ⟨-, hissue, -⟩ := @ofText_snippetText {} t ['T'] htitle ⟨['i'], rfl⟩ []
  refine ⟨htitle, (hissue (by decide +kernel)).1.2 ?_⟩
  refine ⟨⟨.snippet, Text.ofString "# c\n", [], 9, 26⟩, by decide +kernel, .inr ⟨rfl, ?_⟩⟩
  exact ⟨Text.ofString "# c", by decide +kernel, by decide, by decide +kernel⟩

end Artifact
end GuideBundles
