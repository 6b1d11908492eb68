/-
# `Proofs.Artifact.Snippet` — what stands bare in a snippet file

Every row of a comment begins with a number sign.  So the rows of a snippet file that are neither
empty nor begin with one come from code, and none of the code is lost.  Title and description stand
in front and can be read back: a title of a document is a single row, and the comment of a
description has no empty row in it.
-/
import GuideBundles.Artifact
import GuideBundles.Proofs.Markdown.Extracted
import GuideBundles.Proofs.Text.Parts

namespace GuideBundles

namespace Artifact

open Text (rows)

/-- What stands in front of each row of a comment. -/
def mark : Text := ['#', ' ']

/-- Whether a row is neither empty nor a comment. -/
def isBare (row : Text) : Bool := row ≠ [] ∧ row.head? ≠ some '#'

theorem rows_replaceChar {t row : Text} {rest : List Text} (h : rows t = row :: rest) :
    rows (Text.replaceChar '\n' (Text.ofString "\n# ") t) = row :: rest.map (mark ++ ·) := by
  induction t generalizing row rest with
  | nil =>
    obtain ⟨rfl, rfl⟩ := List.cons.inj h
    rfl
  | cons c t ih =>
    obtain ⟨next, others, hrows⟩ := List.exists_cons_of_ne_nil (Text.rows_ne_nil t)
    by_cases hc : c = '\n'
    · subst hc
      change [] :: rows t = _ at h
      obtain ⟨rfl, rfl⟩ := List.cons.inj h
      have hmark : rows (mark ++ Text.replaceChar '\n' (Text.ofString "\n# ") t)
          = (rows t).map (mark ++ ·) := by
        rw [hrows]
        exact Text.rows_cons (by decide) (Text.rows_cons (by decide) (ih hrows))
      rw [← hmark]
      rfl
    · rw [Text.rows_cons hc hrows] at h
      obtain ⟨rfl, rfl⟩ := List.cons.inj h
      have hfirst : Text.replaceChar '\n' (Text.ofString "\n# ") (c :: t)
          = c :: Text.replaceChar '\n' (Text.ofString "\n# ") t := by
        rw [Text.replaceChar, List.flatMap_cons, if_neg hc]
        rfl
      rw [hfirst]
      exact Text.rows_cons hc (ih hrows)

/-- A comment marks each row. -/
theorem rows_comment (t : Text) : rows (comment t) = (rows t).map (mark ++ ·) := by
  obtain ⟨row, rest, hrows⟩ := List.exists_cons_of_ne_nil (Text.rows_ne_nil t)
  rw [hrows]
  exact Text.rows_cons (by decide) (Text.rows_cons (by decide) (rows_replaceChar hrows))

theorem not_isBare_mark (row : Text) : ¬ isBare (mark ++ row) = true := by simp [isBare, mark]

theorem not_isBare_nil : ¬ isBare [] = true := by simp [isBare]

theorem filter_isBare_comment (rs : List Text) : (rs.map (mark ++ ·)).filter isBare = [] := by
  rw [List.filter_eq_nil_iff]
  intro row hrow
  obtain ⟨r, -, rfl⟩ := List.mem_map.1 hrow
  exact not_isBare_mark r

/-- The rows of a note are not bare. -/
theorem filter_isBare_note (b : CodeBlock) (t : Text) :
    (rows (note b ++ t)).filter isBare = (rows t).filter isBare := by
  unfold note
  split
  · rfl
  · rw [List.append_assoc, List.singleton_append, Text.rows_append_newline, rows_comment,
      List.filter_append, filter_isBare_comment, List.nil_append]

/-- The bare rows of code blocks with their notes are those of the trimmed code. -/
theorem filter_isBare_snippets (bs : List CodeBlock) :
    (rows (bs.flatMap fun b => note b ++ Text.trim b.code ++ Text.ofString "\n\n")).filter isBare
      = bs.flatMap fun b => (rows (Text.trim b.code)).filter isBare := by
  induction bs with
  | nil => rfl
  | cons b bs ih =>
    have htext : ((b :: bs).flatMap fun b => note b ++ Text.trim b.code ++ Text.ofString "\n\n")
        = note b ++ (Text.trim b.code ++ '\n' :: ([] ++ '\n' ::
          bs.flatMap fun b => note b ++ Text.trim b.code ++ Text.ofString "\n\n")) := by
      rw [List.flatMap_cons, List.append_assoc, List.append_assoc]
      rfl
    rw [htext, filter_isBare_note, Text.rows_append_newline, Text.rows_append_newline,
      List.filter_append, List.filter_append, ih]
    rfl

/-- The rows of a snippet file are those of the title, an empty row, the description, an empty row,
and those of the code blocks.  Only the first row of the title has a mark. -/
theorem rows_snippetText_of_rows {b : Bundle} {first : Text} {more : List Text}
    (h : rows b.title = first :: more) :
    rows (snippetText b) = (mark ++ first) :: (more ++ [] ::
      ((rows b.description).map (mark ++ ·) ++ [] ::
        rows (b.snippets.flatMap fun s =>
          note s ++ Text.trim s.code ++ Text.ofString "\n\n"))) := by
  have hmark : rows (mark ++ b.title) = (mark ++ first) :: more :=
    Text.rows_cons (by decide) (Text.rows_cons (by decide) h)
  have htext : snippetText b = (mark ++ b.title) ++ '\n' :: ([] ++ '\n' :: (comment b.description
      ++ '\n' :: ([] ++ '\n' ::
        b.snippets.flatMap fun s => note s ++ Text.trim s.code ++ Text.ofString "\n\n"))) := by
    unfold snippetText
    simp only [List.append_assoc]
    rfl
  rw [htext, Text.rows_append_newline, hmark, Text.rows_append_newline, Text.rows_append_newline,
    rows_comment, Text.rows_append_newline]
  rfl

theorem rows_snippetText {b : Bundle} (h : '\n' ∉ b.title) :
    rows (snippetText b) = (mark ++ b.title) :: [] :: ((rows b.description).map (mark ++ ·) ++ [] ::
      rows (b.snippets.flatMap fun s => note s ++ Text.trim s.code ++ Text.ofString "\n\n")) :=
  rows_snippetText_of_rows (Text.rows_of_not_mem h)

/-- The bare rows of the snippet file of a document with a title are, in order, the bare rows of its
trimmed code, and the head of the file gives back title and description: the title stands in the
first row, the second one is empty, and the description in the rows up to the next empty one, each
behind a mark. -/
theorem snippetText_read {tags : FenceTags} {t title : Text}
    (h : (Heading.extract t).title = some title) (id : ExampleId) (images : List Reference) :
    let d := Document.ofText tags t
    let file := rows (snippetText (Bundle.ofDocument id d images))
    file.filter isBare = d.snippets.flatMap (fun b => (rows (Text.trim b.code)).filter isBare) ∧
      file.take 2 = [mark ++ title, []] ∧
      ∃ described after, file.drop 2 = described.map (mark ++ ·) ++ [] :: after ∧
        (file.drop 2).takeWhile (· ≠ []) = described.map (mark ++ ·) ∧
        Text.join ['\n'] described = d.heading.description := by
  intro d file
  have htitle : (Bundle.ofDocument id d images).title = title := by
    change (Heading.extract t).title.getD _ = title
    rw [h]
    rfl
  have hno : '\n' ∉ (Bundle.ofDocument id d images).title := by
    rw [htitle]
    exact Heading.newline_not_mem_title h
  have hfile : file = (mark ++ title) :: [] :: ((rows d.heading.description).map (mark ++ ·) ++
      [] :: rows (d.snippets.flatMap fun s =>
        note s ++ Text.trim s.code ++ Text.ofString "\n\n")) := by
    rw [← htitle]
    exact rows_snippetText hno
  have hmarked : ∀ row ∈ (rows d.heading.description).map (mark ++ ·), row ≠ [] := by
    intro row hrow
    obtain ⟨r, -, rfl⟩ := List.mem_map.1 hrow
    simp [mark]
  rw [hfile]
  refine ⟨?_, rfl, rows d.heading.description, _, rfl, ?_, Text.join_rows _⟩
  · rw [List.filter_cons_of_neg (not_isBare_mark title), List.filter_cons_of_neg not_isBare_nil,
      List.filter_append, filter_isBare_comment, List.nil_append,
      List.filter_cons_of_neg not_isBare_nil, filter_isBare_snippets]
  · change (((rows d.heading.description).map (mark ++ ·)) ++ [] :: _).takeWhile _ = _
    rw [List.takeWhile_append_of_pos (by simpa using hmarked)]
    simp

/-- A description of two paragraphs, a note with a heading in it, and code with a comment. -/
theorem snippetText_read_paragraphs :
    let t := Text.ofString "# T\n\na\n\nb\n## H\nc\n```python\n# d\nx = 1\n```\n"
    let title := Text.ofString "T"
    let file := rows (snippetText
      (Bundle.ofDocument ⟨['i'], rfl⟩ (Document.ofText { } t) []))
    (Heading.extract t).title = some title ∧
      file.filter isBare = [Text.ofString "x = 1"] ∧ file.take 2 = [mark ++ title, []] := by
  intro t title file
  have htitle : (Heading.extract t).title = some title := by decide +kernel
  obtain ⟨hbare, hhead, -⟩ := @snippetText_read {} t title htitle ⟨['i'], rfl⟩ []
  refine ⟨htitle, hbare.trans ?_, hhead⟩
  decide +kernel

end Artifact
end GuideBundles
