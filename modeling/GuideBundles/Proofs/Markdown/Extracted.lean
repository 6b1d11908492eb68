/-
# `Proofs.Markdown.Extracted` — what is read is made of the document

Whatever is read from a document is cut out of it, with pieces left out: no text of a title, a
description, code, a note, a link or an image has a character that the document has not.  A title is
cut out of a single line.
-/
import GuideBundles.Document
import GuideBundles.Proofs.Markdown.Reference
import GuideBundles.Proofs.Markdown.Tiling

namespace GuideBundles

namespace Text

theorem dropEndWhile_sublist (p : Char → Bool) (t : Text) : (dropEndWhile p t).Sublist t := by
  have h := (List.dropWhile_sublist p (l := t.reverse)).reverse
  rwa [List.reverse_reverse] at h

theorem trim_sublist (t : Text) : (trim t).Sublist t :=
  (dropEndWhile_sublist isBlank _).trans (List.dropWhile_sublist isBlank)

/-- A line has no newline but at its end. -/
theorem newline_not_mem_dropBreaks {line : Text} {lines : List Text} (h : FullLines lines)
    (hline : line ∈ lines) : '\n' ∉ dropBreaks line := by
  induction h with
  | nil => cases hline
  | last hne hw =>
    rw [List.mem_singleton.1 hline]
    exact fun hmem => hw ((dropEndWhile_sublist _ _).subset hmem)
  | @cons w rest hw hrest ih =>
    rcases List.mem_cons.1 hline with rfl | hline
    · have hdrop : dropBreaks (w ++ ['\n']) = dropBreaks w := by
        rw [dropBreaks, dropEndWhile_append_singleton]
        rfl
      rw [hdrop]
      exact fun hmem => hw ((dropEndWhile_sublist _ _).subset hmem)
    · exact ih hline

end Text

/-! ## Code and notes -/

namespace Block

theorem subset_of_shows {t : Text} {b : Block} (h : b.Shows t) :
    (match b with
      | prose u _ _ => u
      | code _ u _ _ => u) ⊆ t := by
  have hslice {start stop : Nat} {u : Text} (h : Text.slice? start stop t = some u) : u ⊆ t := by
    obtain ⟨front, back, rfl, -, -⟩ := Text.slice?_eq_some_iff.1 h
    exact fun c hc => List.mem_append_left _ (List.mem_append_right _ hc)
  cases b with
  | prose u start stop => exact hslice h
  | code tag u start stop =>
    obtain ⟨i, j, -, -, h⟩ := h
    exact hslice h

end Block

theorem Note.emptyHeadings_sublist (fresh skipping : Bool) (t : Text) :
    (emptyHeadings fresh skipping t).Sublist t := by
  induction t generalizing fresh skipping with
  | nil => exact .slnil
  | cons c t ih =>
    rw [emptyHeadings]
    by_cases hc : c = '\n'
    · rw [if_pos hc]
      exact (ih true false).cons_cons c
    · rw [if_neg hc]
      by_cases hskip : (if fresh then isHeading (c :: t) else skipping) = true
      · rw [if_pos hskip]
        exact (ih false true).cons c
      · rw [if_neg hskip]
        exact (ih false false).cons_cons c

theorem Note.tidy_subset (t : Text) : tidy t ⊆ t :=
  ((Text.trim_sublist _).trans (emptyHeadings_sublist true false t)).subset

theorem CodeBlock.subset_of_mem_collect {d : Dialect} {pending t : Text} {bs : List Block}
    (hbs : ∀ b ∈ bs, b.Shows t) (hpending : pending ⊆ t) {b : CodeBlock}
    (h : b ∈ collect d pending bs) : b.code ⊆ t ∧ b.note ⊆ t := by
  induction bs generalizing pending with
  | nil => cases h
  | cons first rest ih =>
    have hfirst := Block.subset_of_shows (hbs first List.mem_cons_self)
    have hrest : ∀ b ∈ rest, b.Shows t := fun b hb => hbs b (List.mem_cons_of_mem _ hb)
    cases first with
    | prose u start stop => exact ih hrest hfirst h
    | code tag u start stop =>
      rcases List.mem_cons.1 h with rfl | h
      · exact ⟨hfirst, List.Subset.trans (Note.tidy_subset pending) hpending⟩
      · exact ih hrest (List.nil_subset t) h

theorem CodeBlock.subset_of_mem_extract {tags : List Text} {d : Dialect} {t : Text} {b : CodeBlock}
    (h : b ∈ extract tags d t) : b.code ⊆ t ∧ b.note ⊆ t :=
  subset_of_mem_collect (fun b hb => ((Block.tiles_scan tags t).shows b hb).2) (List.nil_subset t) h

/-! ## Title and description -/

theorem Region.mem_of_plain_mem_ofLines {lines : List Text} {line : Text}
    (h : plain line ∈ ofLines lines) : line ∈ lines := by
  fun_induction ofLines lines with
  | case1 => cases h
  | case2 first rest hopen ih =>
    rcases List.mem_cons.1 h with h | h
    · obtain rfl := plain.inj h
      exact List.mem_cons_self
    · exact List.mem_cons_of_mem _ (ih h)
  | case3 first rest o hopen body hdrop => simp at h
  | case4 first rest o hopen body close after hdrop ih =>
    rcases List.mem_cons.1 h with h | h
    · cases h
    · have hafter : line ∈ rest.dropWhile fun l => !Fence.closes o.ticks l := by
        rw [hdrop]
        exact List.mem_cons_of_mem _ (ih h)
      exact List.mem_cons_of_mem _ ((List.dropWhile_sublist _).subset hafter)

namespace Heading

theorem title?_eq_some_iff {line title : Text} : title? line = some title ↔
    ∃ rest, Text.dropBreaks line = '#' :: ' ' :: rest ∧ Text.hasInk rest = true ∧
      title = Text.trim rest := by
  constructor
  · intro h
    unfold title? at h
    split at h
    · next rest hrest =>
      split at h
      · next hink => exact ⟨rest, hrest, hink, (Option.some.inj h).symm⟩
      · cases h
    · cases h
  · rintro ⟨rest, hrest, hink, rfl⟩
    rw [title?, hrest]
    exact if_pos hink

theorem title_subset {line title : Text} (h : title? line = some title) :
    title ⊆ Text.dropBreaks line := by
  obtain ⟨rest, hrest, -, rfl⟩ := title?_eq_some_iff.1 h
  rw [hrest]
  intro c hc
  have hmem : c ∈ rest := (Text.trim_sublist rest).subset hc
  exact List.mem_cons_of_mem _ (List.mem_cons_of_mem _ hmem)

/-- A title comes from a plain line. -/
theorem exists_of_title_ofRegions {rs : List Region} {title : Text}
    (h : (ofRegions rs).title = some title) :
    ∃ line, .plain line ∈ rs ∧ title? line = some title := by
  induction rs with
  | nil => cases h
  | cons r rest ih =>
    have hrest (h : (ofRegions rest).title = some title) :
        ∃ line, .plain line ∈ r :: rest ∧ title? line = some title := by
      obtain ⟨line, hline, htitle⟩ := ih h
      exact ⟨line, List.mem_cons_of_mem _ hline, htitle⟩
    cases r with
    | fenced head o body close => exact hrest h
    | plain line =>
      rw [ofRegions] at h
      split at h
      · next t ht => exact ⟨line, List.mem_cons_self, ht.trans h⟩
      · exact hrest h

/-- The title of a document is cut out of a line. -/
theorem exists_of_title_extract {t title : Text} (h : (extract t).title = some title) :
    ∃ line ∈ Text.fullLines t, title ⊆ Text.dropBreaks line := by
  obtain ⟨line, hline, htitle⟩ := exists_of_title_ofRegions h
  exact ⟨line, Region.mem_of_plain_mem_ofLines hline, title_subset htitle⟩

/-- So it is a single row. -/
theorem newline_not_mem_title {t title : Text} (h : (extract t).title = some title) :
    '\n' ∉ title := by
  obtain ⟨line, hline, hsub⟩ := exists_of_title_extract h
  exact fun hmem =>
    Text.newline_not_mem_dropBreaks (Text.fullLines_fullLines t) hline (hsub hmem)

theorem title_subset_of_extract {t title : Text} (h : (extract t).title = some title) :
    title ⊆ t := by
  obtain ⟨line, hline, hsub⟩ := exists_of_title_extract h
  intro c hc
  have hmem := (Text.dropEndWhile_sublist _ _).subset (hsub hc)
  rw [← Text.flatten_fullLines t]
  exact List.mem_flatten_of_mem hline hmem

theorem description_ofRegions_subset (rs : List Region) :
    (ofRegions rs).description ⊆ rs.flatMap Region.text := by
  induction rs with
  | nil => exact List.nil_subset _
  | cons r rest ih =>
    have hrest : rest.flatMap Region.text ⊆ (r :: rest).flatMap Region.text := by
      rw [List.flatMap_cons]
      exact List.subset_append_right _ _
    cases r with
    | fenced head o body close => exact List.Subset.trans ih hrest
    | plain line =>
      rw [ofRegions]
      split
      · refine List.Subset.trans (Text.trim_sublist _).subset (List.Subset.trans ?_ hrest)
        intro c hc
        obtain ⟨r, hr, hc⟩ := List.mem_flatMap.1 hc
        exact List.mem_flatMap.2 ⟨r, (List.takeWhile_sublist _).subset hr, hc⟩
      · exact List.Subset.trans ih hrest

theorem description_subset (t : Text) : (extract t).description ⊆ t := by
  have h := description_ofRegions_subset (Region.ofText t)
  rwa [Region.flatMap_text_ofText] at h

end Heading

/-! ## Documents -/

/-- The texts of a reference. -/
def Reference.texts : Reference → List Text
  | link target => [target]
  | image target alt => [target, alt]

/-- All texts that were read from a document. -/
def Document.texts (d : Document) : List Text :=
  d.heading.title.toList ++ d.heading.description ::
    ((d.snippets ++ d.commands).flatMap (fun b => [b.code, b.note]) ++
      (d.links ++ d.images).flatMap Reference.texts)

/-- Each of them is made of characters of the document. -/
theorem Document.subset_of_mem_texts {tags : FenceTags} {t u : Text}
    (h : u ∈ (ofText tags t).texts) : u ⊆ t := by
  rcases List.mem_append.1 h with h | h
  · exact Heading.title_subset_of_extract (Option.mem_toList.1 h)
  rcases List.mem_cons.1 h with rfl | h
  · exact Heading.description_subset t
  rcases List.mem_append.1 h with h | h
  · obtain ⟨b, hb, hu⟩ := List.mem_flatMap.1 h
    have hb : b.code ⊆ t ∧ b.note ⊆ t := by
      rcases List.mem_append.1 hb with hb | hb <;> exact CodeBlock.subset_of_mem_extract hb
    rcases List.mem_cons.1 hu with rfl | hu
    · exact hb.1
    · rw [List.mem_singleton.1 hu]
      exact hb.2
  · obtain ⟨r, hr, hu⟩ := List.mem_flatMap.1 h
    rcases List.mem_append.1 hr with hr | hr
    · obtain ⟨target, htarget, rfl⟩ := List.mem_map.1 hr
      rw [List.mem_singleton.1 hu]
      exact (Link.subset_of_mem_targetsFrom (List.mem_filter.1 htarget).1).1
    · obtain ⟨target, alt, rfl, htarget, halt, -⟩ := Image.subset_of_mem_listFrom hr
      rcases List.mem_cons.1 hu with rfl | hu
      · exact htarget
      · rw [List.mem_singleton.1 hu]
        exact halt

end GuideBundles
