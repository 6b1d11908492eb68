/-
# `Proofs.Markdown.Cursor` — notes follow the code of their own dialect

A dialect has a cursor in the document: the place where its last code block ended.  The note to the
next block is tidied from the text between that cursor and the block, whatever fences of other tags
stand there; `CodeBlock.following_extract` says so.  And what a block covers is all that it needs:
scanned alone it gives the same code again, since a closing line closes without its line end too.
-/
import GuideBundles.Proofs.Markdown.Agreement
import GuideBundles.Proofs.Text.Trim

namespace GuideBundles

/-! ## From cursor to cursor -/

namespace CodeBlock

/-- Code blocks of a document behind a cursor: each one moves the cursor to its end, and the note to
it is made of the text that the cursor goes past up to its start. -/
inductive Following (t : Text) : Nat → List CodeBlock → Prop
  | nil (cursor : Nat) : Following t cursor []
  | cons {cursor : Nat} {b : CodeBlock} {bs : List CodeBlock} {prose : Text} :
      cursor ≤ b.start → b.start < b.stop → Text.slice? cursor b.start t = some prose →
      b.note = Note.tidy prose → Following t b.stop bs → Following t cursor (b :: bs)

/-- The prose that waits for the next code block is what stands between the cursor and the segments
that are still to come, as prose never comes twice in a row. -/
theorem following_collect {segments : List Segment} (h : Segment.Regular segments) (d : Dialect)
    (front pending : Text)
    (hpending : pending = [] ∨ ∀ s ∈ segments.head?, s.isCode = true) :
    Following (front ++ pending ++ segments.flatMap Segment.text) (Text.size front)
      (collect d pending (Block.place (Text.size (front ++ pending)) segments)) := by
  induction segments generalizing front pending with
  | nil => exact .nil _
  | cons s rest ih =>
    cases s with
    | prose u =>
      have hnone : pending = [] := by
        refine hpending.resolve_right fun hcode => ?_
        cases hcode (.prose u) rfl
      subst hnone
      have hrest := ih h.tail front u (.inr ?_)
      · simpa [Segment.text, Block.place, collect] using hrest
      · intro s hs
        have hturn := (List.isChain_cons.1 h.turns).1 s hs
        cases s with
        | prose _ => exact absurd rfl hturn
        | code _ _ _ => rfl
    | code tag body covered =>
      have hcovered : covered ≠ [] := (h.solid _ List.mem_cons_self).text_ne_nil
      have hsize : Text.size covered ≠ 0 := fun hzero => hcovered (Text.size_eq_zero_iff.1 hzero)
      have hrest := ih h.tail (front ++ pending ++ covered) [] (.inl rfl)
      rw [Block.place, collect]
      have hslice : Text.slice? (Text.size front) (Text.size (front ++ pending)) (front ++ pending
          ++ (Segment.code tag body covered :: rest).flatMap Segment.text) = some pending :=
        Text.slice?_append _ _ _
      refine .cons ?_ ?_ hslice rfl ?_
      · simp
      · simp only [Text.size_append]
        omega
      · simpa [Segment.text, Nat.add_assoc] using hrest

/-- The code blocks of a document follow its start. -/
theorem following_extract (tags : List Text) (d : Dialect) (t : Text) :
    Following t 0 (extract tags d t) := by
  have h := following_collect (Block.regular_scan tags t) d [] [] (.inl rfl)
  rwa [Segment.flatMap_text_ofRegions, Region.flatMap_text_ofText] at h

/-- Extracted code is a segment that is code. -/
theorem exists_of_mem_collect {d : Dialect} {pending : Text} {offset : Nat}
    {segments : List Segment} {b : CodeBlock}
    (hb : b ∈ collect d pending (Block.place offset segments)) :
    ∃ before tag covered after, segments = before ++ .code tag b.code covered :: after ∧
      b.dialect = d ∧ b.start = offset + Text.size (before.flatMap Segment.text) ∧
      b.stop = b.start + Text.size covered := by
  induction segments generalizing offset pending with
  | nil => cases hb
  | cons s rest ih =>
    cases s with
    | prose u =>
      obtain ⟨before, tag, covered, after, rfl, hd, hstart, hstop⟩ := ih hb
      refine ⟨.prose u :: before, tag, covered, after, rfl, hd, ?_, hstop⟩
      simpa [Segment.text, Nat.add_assoc] using hstart
    | code tag body covered =>
      rcases List.mem_cons.1 hb with rfl | hb
      · exact ⟨[], tag, covered, rest, rfl, rfl, rfl, rfl⟩
      · obtain ⟨before, tag', covered', after, rfl, hd, hstart, hstop⟩ := ih hb
        refine ⟨.code tag body covered :: before, tag', covered', after, rfl, hd, ?_, hstop⟩
        simpa [Segment.text, Nat.add_assoc] using hstart

end CodeBlock

/-! ## Fences alone -/

namespace Text

theorem trim_dropBreaks (line : Text) : trim (dropBreaks line) = trim line := by
  conv => rhs; rw [← dropBreaks_append_breaks line]
  exact (trim_append_blanks _ fun _ hc => isBlank_of_mem_breaks hc).symm

theorem breaks_dropBreaks (line : Text) : breaks (dropBreaks line) = [] := by
  have h := dropBreaks_append_breaks (dropBreaks line)
  rwa [dropBreaks_dropBreaks, List.append_right_eq_self] at h

end Text

theorem Fence.closes_dropBreaks (ticks : Nat) (line : Text) :
    closes ticks (Text.dropBreaks line) = closes ticks line := by
  rw [closes, Text.trim_dropBreaks, closes]

namespace Region

/-- A fence that stands alone is the fence that it was among other regions, but for the end of its
closing line. -/
theorem ofText_fence {lines : List Text} {rs : List Region} (h : Cut lines rs)
    (hl : Text.FullLines lines) {head : Text} {o : Opening} {body : List Text} {close : Option Text}
    (hr : fenced head o body close ∈ rs) :
    ofText (head ++ body.flatten ++ Text.dropBreaks (close.getD [])) =
      [fenced head o body (close.map Text.dropBreaks)] := by
  induction h with
  | nil => cases hr
  | plain _ _ ih => exact ih hl.tail ((List.mem_cons.1 hr).resolve_left nofun)
  | @closed head' o' body' close' lines rs ho hb hc _ ih =>
    rcases List.mem_cons.1 hr with heq | hr
    · obtain ⟨rfl, rfl, rfl, rfl⟩ := fenced.inj heq
      have hclose : Text.dropBreaks close' ≠ [] := by
        intro hnil
        have hsize := Block.size_dropBreaks_pos (Block.pos_ticks_of_opening ho) hc
        rw [hnil] at hsize
        cases hsize
      have hbreak : '\n' ∉ Text.dropBreaks close' := Text.newline_not_mem_dropBreaks hl (by simp)
      have hlines : Text.FullLines (head :: body ++ [Text.dropBreaks close']) :=
        Text.FullLines.replaceBack hl (List.cons_ne_nil _ _) (.last hclose hbreak)
      have hcut : Cut (head :: body ++ [Text.dropBreaks close'])
          [fenced head o body (some (Text.dropBreaks close'))] :=
        .closed ho hb ((Fence.closes_dropBreaks _ _).trans hc) .nil
      rw [ofText, Text.fullLines_eq_iff.2 ⟨hlines, by simp⟩, ← cut_iff.1 hcut]
      rfl
    · exact ih hl.tail.drop.tail hr
  | unclosed ho hb =>
    obtain ⟨rfl, rfl, rfl, rfl⟩ := fenced.inj (List.mem_singleton.1 hr)
    have hflat : head ++ body.flatten ++ Text.dropBreaks [] = (head :: body).flatten := by
      simp [Text.dropBreaks, Text.dropEndWhile]
    rw [Option.getD_none, hflat, ofText, Text.fullLines_flatten hl, ofLines_unclosed ho hb]
    rfl

end Region

namespace Segment

variable {tags : List Text}

theorem mem_of_code_mem_addProse {t tag body covered : Text} {segments : List Segment}
    (h : code tag body covered ∈ addProse t segments) : code tag body covered ∈ segments := by
  cases segments with
  | nil => cases t <;> simp [addProse] at h
  | cons s rest =>
    cases s with
    | prose u => simpa [addProse] using h
    | code _ _ _ => cases t <;> simpa [addProse] using h

/-- Code comes from a fence with one of the tags. -/
theorem exists_of_code_mem_ofRegions {rs : List Region} {tag body covered : Text}
    (h : code tag body covered ∈ ofRegions tags rs) : ∃ head o lines close,
      .fenced head o lines close ∈ rs ∧ o.tag ∈ tags ∧ body = lines.flatten ∧
      covered = head ++ lines.flatten ++ Text.dropBreaks (close.getD []) := by
  induction rs with
  | nil => cases h
  | cons r rs ih =>
    have hrest (h : code tag body covered ∈ ofRegions tags rs) : ∃ head o lines close,
        .fenced head o lines close ∈ r :: rs ∧ o.tag ∈ tags ∧ body = lines.flatten ∧
        covered = head ++ lines.flatten ++ Text.dropBreaks (close.getD []) := by
      obtain ⟨head, o, lines, close, hmem, hcode⟩ := ih h
      exact ⟨head, o, lines, close, List.mem_cons_of_mem _ hmem, hcode⟩
    cases r with
    | plain line => exact hrest (mem_of_code_mem_addProse h)
    | fenced head o lines close =>
      by_cases ht : o.tag ∈ tags
      · rw [ofRegions, if_pos ht] at h
        rcases List.mem_cons.1 h with heq | h
        · obtain ⟨-, rfl, rfl⟩ := code.inj heq
          exact ⟨head, o, lines, close, List.mem_cons_self, ht, rfl, rfl⟩
        · exact hrest (mem_of_code_mem_addProse h)
      · rw [ofRegions, if_neg ht] at h
        exact hrest (mem_of_code_mem_addProse h)

theorem ofRegions_fence {o : Opening} (ht : o.tag ∈ tags) (head : Text) (body : List Text)
    (close : Option Text) : ofRegions tags [.fenced head o body (close.map Text.dropBreaks)] =
      [code o.tag body.flatten (head ++ body.flatten ++ Text.dropBreaks (close.getD []))] := by
  have hlast : (close.map Text.dropBreaks).getD [] = Text.dropBreaks (close.getD []) := by
    cases close with
    | none => rfl
    | some close => rfl
  rw [ofRegions, if_pos ht, hlast]
  dsimp only
  rw [Text.dropBreaks_dropBreaks, Text.breaks_dropBreaks]
  rfl

end Segment

namespace CodeBlock

/-- What a fence with one of the tags covers is a document with one code block. -/
theorem extract_fence {tags : List Text} {o : Opening} (ht : o.tag ∈ tags) (d : Dialect)
    {t head : Text} {body : List Text} {close : Option Text}
    (h : Region.ofText t = [.fenced head o body (close.map Text.dropBreaks)])
    (hsize : Text.size t = Text.size (head ++ body.flatten ++ Text.dropBreaks (close.getD []))) :
    extract tags d t = [⟨d, body.flatten, [], 0, Text.size t⟩] := by
  rw [extract, Block.scan, h, Segment.ofRegions_fence ht, Block.place, collect, ← hsize,
    Nat.zero_add]
  rfl

/-- Notes follow the cursor of their dialect.  Code blocks come in the order of the document, none
is empty and none overlaps another one, and the note to each is made of the text between the end of
the block before it, or the start of the document, and its own start.  And each block is complete:
the piece of the document from its start to its end, scanned alone, is one block with the same code
and no note. -/
theorem notes_follow_cursor (tags : List Text) (d : Dialect) (t : Text) :
    Following t 0 (extract tags d t) ∧
    ∀ b ∈ extract tags d t, ∃ covered, Text.slice? b.start b.stop t = some covered ∧
      extract tags d covered = [{ b with note := [], start := 0, stop := b.stop - b.start }] := by
  refine ⟨following_extract tags d t, ?_⟩
  intro b hb
  obtain ⟨before, tag, covered, after, hsegments, hd, hstart, hstop⟩ := exists_of_mem_collect hb
  obtain ⟨head, o, body, close, hfence, htag, hcode, rfl⟩ :=
    Segment.exists_of_code_mem_ofRegions (hsegments ▸ List.mem_append_right _ List.mem_cons_self)
  refine ⟨head ++ body.flatten ++ Text.dropBreaks (close.getD []), ?_, ?_⟩
  · have ht : t = before.flatMap Segment.text
        ++ (head ++ body.flatten ++ Text.dropBreaks (close.getD []))
        ++ after.flatMap Segment.text := by
      rw [← Region.flatMap_text_ofText t, ← Segment.flatMap_text_ofRegions tags, hsegments]
      simp [Segment.text]
    rw [Nat.zero_add] at hstart
    rw [hstop, hstart, ← Text.size_append]
    conv => lhs; rw [ht]
    exact Text.slice?_append _ _ _
  · have halone := Region.ofText_fence (Region.cut_ofLines _) (Text.fullLines_fullLines t) hfence
    rw [extract_fence htag d halone rfl, hcode, hd, hstop, Nat.add_sub_cancel_left]

/-- A fence of another tag in a note, and a fence that nothing closes. -/
theorem notes_follow_cursor_unclosed :
    let t := Text.ofString "```python\nx\n```\r\n# Run\n```bash\nls\n```\n```python\ny"
    let tags := [Text.ofString "python"]
    let b : CodeBlock :=
      ⟨.snippet, ['y'], Text.ofString "```bash\nls\n```", 38, 49⟩
    b ∈ extract tags .snippet t ∧ Following t 0 (extract tags .snippet t) ∧
      ∃ covered, Text.slice? b.start b.stop t = some covered ∧
        extract tags .snippet covered = [⟨.snippet, ['y'], [], 0, 11⟩] := by
  intro t tags b
  have hb : b ∈ extract tags .snippet t := by decide +kernel
  obtain ⟨hfollowing, hcomplete⟩ := notes_follow_cursor tags .snippet t
  exact ⟨hb, hfollowing, hcomplete b hb⟩

end CodeBlock

end GuideBundles
