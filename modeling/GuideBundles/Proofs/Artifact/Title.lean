/-
# `Proofs.Artifact.Title` — the title of a document without a heading

The words of the identifier are set in title case and stand in for the title.  That leaves the
blanks of the words alone, so the title has line breaks when the identifier has some; and an
identifier of nothing but separators and blanks makes a title without ink.  Every other identifier
makes a title under which a snippet file lacks its description only.
-/
import GuideBundles.Proofs.Artifact.Issue
import GuideBundles.Proofs.Text.Casing

namespace GuideBundles

open Text (rows lines trim isBlank)

namespace ExampleId

variable {id : ExampleId} {c : Char}

/-! ## The title that an identifier makes -/

/-- The words of an identifier. -/
def words (id : ExampleId) : List Text := Text.splitOn (fun c => c == '-' || c == '_') id.text

theorem exists_mem_words_iff :
    (∃ word ∈ id.words, c ∈ word) ↔ c ∈ id.text ∧ c ≠ '-' ∧ c ≠ '_' := by
  rw [words, Text.exists_mem_splitOn_iff, Bool.or_eq_false_iff, beq_eq_false_iff_ne,
    beq_eq_false_iff_ne]

/-- A word and its title form have the same blanks, and the one has ink when the other has. -/
theorem recased_titleWord (word : Text) : Text.Casing.Recased word (titleWord word) := by
  cases word with
  | nil => exact .nil
  | cons c t => exact .cons (Text.Casing.isForm_upper c) (Text.Casing.recased_lowerFrom [] t)

theorem mem_fallbackTitle_iff_of_words (hc : c ≠ ' ') :
    c ∈ id.fallbackTitle ↔ ∃ word ∈ id.words, c ∈ titleWord word := by
  have hjoin : c ∈ Text.join [' '] (id.words.map titleWord) ↔ _ :=
    Text.mem_join_iff (by simpa using hc)
  refine hjoin.trans ⟨?_, fun ⟨word, hword, hmem⟩ => ⟨_, List.mem_map_of_mem hword, hmem⟩⟩
  rintro ⟨part, hpart, hmem⟩
  obtain ⟨word, hword, rfl⟩ := List.mem_map.1 hpart
  exact ⟨word, hword, hmem⟩

/-- Apart from spaces, the blanks of a title are those of the identifier. -/
theorem mem_fallbackTitle_iff (hblank : isBlank c = true) (hc : c ≠ ' ') :
    c ∈ id.fallbackTitle ↔ c ∈ id.text := by
  have hsep : c ≠ '-' ∧ c ≠ '_' := by constructor <;> rintro rfl <;> cases hblank
  rw [mem_fallbackTitle_iff_of_words hc, ← and_iff_left (a := c ∈ id.text) hsep,
    ← exists_mem_words_iff]
  simp only [(recased_titleWord _).mem_iff hblank]

/-- A title has ink when something in the identifier is neither blank nor a separator. -/
theorem hasInk_fallbackTitle_iff : Text.hasInk id.fallbackTitle = true ↔
    ∃ c ∈ id.text, isBlank c = false ∧ c ≠ '-' ∧ c ≠ '_' := by
  have hword : Text.hasInk id.fallbackTitle = true ↔
      ∃ word ∈ id.words, Text.hasInk word = true := by
    have hspace {c : Char} (hc : isBlank c = false) : c ≠ ' ' := by
      rintro rfl
      cases hc
    have hform (word : Text) : Text.hasInk word = true ↔
        ∃ c ∈ titleWord word, isBlank c = false := by
      rw [← (recased_titleWord word).hasInk_eq, Text.hasInk_iff]
    rw [Text.hasInk_iff]
    simp only [hform]
    constructor
    · rintro ⟨c, hc, hink⟩
      obtain ⟨word, hword, hmem⟩ := (mem_fallbackTitle_iff_of_words (hspace hink)).1 hc
      exact ⟨word, hword, c, hmem, hink⟩
    · rintro ⟨word, hword, c, hmem, hink⟩
      exact ⟨c, (mem_fallbackTitle_iff_of_words (hspace hink)).2 ⟨word, hword, hmem⟩, hink⟩
  rw [hword]
  simp only [Text.hasInk_iff]
  constructor
  · rintro ⟨word, hmem, c, hc, hink⟩
    obtain ⟨hin, hno⟩ := exists_mem_words_iff.1 ⟨word, hmem, hc⟩
    exact ⟨c, hin, hink, hno⟩
  · rintro ⟨c, hin, hink, hno⟩
    obtain ⟨word, hmem, hc⟩ := exists_mem_words_iff.2 ⟨hin, hno⟩
    exact ⟨word, hmem, c, hc, hink⟩

end ExampleId

/-- A document without a title has no description either. -/
theorem Heading.description_of_title_eq_none {t : Text} (h : (extract t).title = none) :
    (extract t).description = [] := by
  unfold extract at h ⊢
  generalize Region.ofText t = rs at h
  induction rs with
  | nil => rfl
  | cons r rest ih =>
    cases r with
    | fenced head o body close => exact ih h
    | plain line =>
      rw [ofRegions] at h ⊢
      split at h
      · cases h
      · exact ih h

/-! ## What the check makes of a title -/

/-- The first two lines decide whether there is a title with an empty line under it. -/
theorem SnippetIssue.ofLines_head (title gap description : Text) (rest : List Text) :
    let issue := ofLines (title :: gap :: description :: rest)
    issue ≠ some tooFewLines ∧ (issue = some missingTitle ↔ isComment title = false) ∧
      (issue = some missingBlankAfterTitle ↔ isComment title = true ∧ gap ≠ []) := by
  rw [ofLines]
  cases isComment title with
  | false => simp
  | true =>
    by_cases hgap : gap = []
    · simp only [hgap, Bool.not_true, Bool.false_eq_true, if_false, ne_eq, not_true]
      split
      · split <;> simp
      · split <;> simp
    · simp [hgap]

namespace Artifact

variable {b : Bundle} {first : Text} {more : List Text}

theorem isComment_trim_mark (row : Text) :
    SnippetIssue.isComment (trim (mark ++ row)) = Text.hasInk row := by
  cases hink : Text.hasInk row with
  | true => exact (says_mark hink).1
  | false =>
    have hblank : ∀ c ∈ ' ' :: row, isBlank c = true := by
      rintro c (_ | ⟨_, hc⟩)
      · rfl
      · exact Text.isBlank_of_hasInk_eq_false hink c hc
    have htrim : trim (mark ++ row) = trim ['#'] := Text.trim_append_blanks ['#'] hblank
    rw [htrim]
    rfl

/-- What the check finds in the head of a snippet file with a title of any rows. -/
theorem ofText_of_rows (h : rows b.title = first :: more) (hdescription : b.description = []) :
    let issue := SnippetIssue.ofText (snippetText b)
    issue ≠ some .tooFewLines ∧
      (issue = some .missingTitle ↔ Text.hasInk first = false) ∧
      (issue = some .missingBlankAfterTitle ↔
        Text.hasInk first = true ∧ ∃ second ∈ more.head?, Text.hasInk second = true) := by
  have hrows : (rows b.description).map (fun row => trim (mark ++ row)) = [['#']] := by
    rw [hdescription]
    decide
  intro issue
  have hissue : issue = SnippetIssue.ofLines (trim (mark ++ first) :: (more.map trim ++ [] ::
      ['#'] :: [] :: (rows (blocksText b.snippets)).dropLast.map trim)) := by
    change SnippetIssue.ofLines _ = _
    rw [map_trim_lines_snippetText_of_rows h, hrows, List.singleton_append]
  rw [hissue, ← isComment_trim_mark]
  cases more with
  | nil =>
    have hhead := SnippetIssue.ofLines_head (trim (mark ++ first)) [] ['#']
      ([] :: (rows (blocksText b.snippets)).dropLast.map trim)
    simpa using hhead
  | cons second more =>
    obtain ⟨third, rest, hrest⟩ := List.exists_cons_of_ne_nil (l := more.map trim ++ [] ::
      ['#'] :: [] :: (rows (blocksText b.snippets)).dropLast.map trim) (by simp)
    rw [List.map_cons, List.cons_append, hrest]
    have hhead := SnippetIssue.ofLines_head (trim (mark ++ first)) (trim second) third rest
    rw [Text.trim_ne_nil_iff] at hhead
    simpa using hhead

/-- The title of a document without one has ink and no line breaks when the identifier has no line
breaks and is not made of separators and blanks.  Under such a title the check misses the
description only, or finds it on the fifth line.  With any title, it misses the title when the first
row has no ink, and the empty line under it when the second row has some. -/
theorem ofText_snippetText_untitled {tags : FenceTags} {t : Text}
    (h : (Heading.extract t).title = none) (id : ExampleId) (images : List Reference) :
    let b := Bundle.ofDocument id (Document.ofText tags t) images
    let issue := SnippetIssue.ofText (snippetText b)
    let clean := '\n' ∉ id.text ∧ ∃ c ∈ id.text, isBlank c = false ∧ c ≠ '-' ∧ c ≠ '_'
    b.title = id.fallbackTitle ∧
      ('\n' ∉ b.title ∧ Text.hasInk b.title = true ↔ clean) ∧
      (clean → issue = some .emptyDescription ∨ issue = some .descriptionOnLineFive) ∧
      issue ≠ some .tooFewLines ∧
      ∀ first more, rows b.title = first :: more →
        (issue = some .missingTitle ↔ Text.hasInk first = false) ∧
        (issue = some .missingBlankAfterTitle ↔
          Text.hasInk first = true ∧ ∃ second ∈ more.head?, Text.hasInk second = true) := by
  intro b issue clean
  have htitle : b.title = id.fallbackTitle := by
    change (Heading.extract t).title.getD _ = _
    rw [h]
    rfl
  have hdescription : b.description = [] := Heading.description_of_title_eq_none h
  have hclean : '\n' ∉ b.title ∧ Text.hasInk b.title = true ↔ clean := by
    rw [htitle, ExampleId.mem_fallbackTitle_iff rfl (by decide), ExampleId.hasInk_fallbackTitle_iff]
  refine ⟨htitle, hclean, fun hfit => ?_, ?_, fun first more hrows => ?_⟩
  · obtain ⟨hno, hink⟩ := hclean.2 hfit
    have hissue : issue = _ := ofText_of_description_eq_nil hno hink hdescription
    rw [hissue]
    split
    · exact .inr rfl
    · exact .inl rfl
  · obtain ⟨first, more, hrows⟩ := List.exists_cons_of_ne_nil (Text.rows_ne_nil b.title)
    exact (ofText_of_rows hrows hdescription).1
  · exact (ofText_of_rows hrows hdescription).2

theorem ofText_snippetText_untitled_words : (Heading.extract ['x', '\n']).title = none ∧
    let b := Bundle.ofDocument ⟨Text.ofString "ab-c_d", rfl⟩ (Document.ofText {} ['x', '\n']) []
    let issue := SnippetIssue.ofText (snippetText b)
    b.title = Text.ofString "Ab C D" ∧
      (issue = some .emptyDescription ∨ issue = some .descriptionOnLineFive) := by
  have h : (Heading.extract ['x', '\n']).title = none := by decide +kernel
  obtain ⟨htitle, -, hissue, -⟩ :=
    @ofText_snippetText_untitled {} _ h ⟨Text.ofString "ab-c_d", rfl⟩ []
  refine ⟨h, htitle.trans (by decide +kernel), hissue ?_⟩
  exact ⟨by decide, 'a', by decide, by decide⟩

/-- A file name of separators makes a title without ink, and one with a line break a title of two
rows. -/
theorem title_missing_of_separators : (Heading.extract ['x', '\n']).title = none ∧
    (∃ id, ExampleId.ofPath (Path.ofString "d/-_.md") = .ok id ∧
      SnippetIssue.ofText (snippetText (Bundle.ofDocument id (Document.ofText {} ['x', '\n']) []))
        = some .missingTitle) ∧
    ∃ id, ExampleId.ofPath (Path.ofString "d/a\nb.md") = .ok id ∧
      SnippetIssue.ofText (snippetText (Bundle.ofDocument id (Document.ofText {} ['x', '\n']) []))
        = some .missingBlankAfterTitle := by
  refine ⟨by decide +kernel, ⟨⟨Text.ofString "-_", rfl⟩, rfl, by decide +kernel⟩, ?_⟩
  exact ⟨⟨Text.ofString "a\nb", rfl⟩, rfl, by decide +kernel⟩

end Artifact
end GuideBundles
