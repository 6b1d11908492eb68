/-
# `Proofs.Markdown.Returns` — what is read does not depend on how lines end

With a carriage return in front of each newline the regions of a document are the same ones, with
the returns in their lines, and so are the segments.  Titles, code, descriptions and alternative
texts get the returns of the document; targets have no blanks and stay as they are.  Only notes lose
some: an emptied heading line loses its return with everything else.
-/
import GuideBundles.Document
import GuideBundles.Proofs.Markdown.Grammar
import GuideBundles.Proofs.Text.Returns

namespace GuideBundles

open Text (dropReturns)

/-! ## Regions -/

namespace Fence

theorem opening?_crlf (line : Text) : opening? (Text.crlf line) = opening? line := by
  have hticks (t : Text) : (Text.crlf t).takeWhile (· == '`') = t.takeWhile (· == '`') :=
    Text.takeWhile_crlf_of_neg (by decide) (by decide) t
  have hinfo (t : Text) : (Text.crlf t).dropWhile (· == '`') = Text.crlf (t.dropWhile (· == '`')) :=
    Text.dropWhile_crlf (by decide) t
  simp only [opening?, Text.trimStart_crlf, hticks, hinfo, Text.trim_crlf, Text.firstWord_crlf,
    Text.mem_crlf_iff (show '`' ≠ '\r' by decide)]

theorem closes_crlf (ticks : Nat) (line : Text) :
    closes ticks (Text.crlf line) = closes ticks line := by
  unfold closes
  rw [Text.trim_crlf]
  by_cases hn : '\n' ∈ Text.trim line
  · have hall (t : Text) (h : '\n' ∈ t) : t.all (· == '`') = false :=
      List.all_eq_false.2 ⟨'\n', h, by decide⟩
    simp only [hall _ hn, hall _ ((Text.mem_crlf_iff (by decide)).2 hn), Bool.and_false]
  · rw [Text.crlf_of_not_mem hn]

end Fence

namespace Region

/-- A region with a carriage return in front of each newline. -/
def crlf : Region → Region
  | plain line => plain (Text.crlf line)
  | fenced head o body close =>
    fenced (Text.crlf head) o (body.map Text.crlf) (close.map Text.crlf)

theorem cut_crlf {lines : List Text} {rs : List Region} (h : Cut lines rs) :
    Cut (lines.map Text.crlf) (rs.map crlf) := by
  have hbody {o : Opening} {body : List Text} (hb : ∀ l ∈ body, Fence.closes o.ticks l = false) :
      ∀ l ∈ body.map Text.crlf, Fence.closes o.ticks l = false := by
    intro l' hl'
    obtain ⟨l, hl, rfl⟩ := List.mem_map.1 hl'
    rw [Fence.closes_crlf, hb l hl]
  induction h with
  | nil => exact .nil
  | plain ho _ ih => exact .plain ((Fence.opening?_crlf _).trans ho) ih
  | closed ho hb hc _ ih =>
    rw [List.map_cons, List.map_append, List.map_cons]
    exact .closed ((Fence.opening?_crlf _).trans ho) (hbody hb)
      ((Fence.closes_crlf _ _).trans hc) ih
  | unclosed ho hb => exact .unclosed ((Fence.opening?_crlf _).trans ho) (hbody hb)

theorem ofText_crlf (t : Text) : ofText (Text.crlf t) = (ofText t).map crlf := by
  rw [ofText, Text.fullLines_crlf]
  exact (cut_iff.1 (cut_crlf (cut_ofLines _))).symm

theorem text_crlf (r : Region) : r.crlf.text = Text.crlf r.text := by
  cases r with
  | plain line => rfl
  | fenced head o body close => cases close <;> simp [crlf, text, Text.crlf_flatten]

end Region

/-! ## Code -/

namespace Segment

/-- A segment with a carriage return in front of each newline. -/
def crlf : Segment → Segment
  | prose t => prose (Text.crlf t)
  | code tag body covered => code tag (Text.crlf body) (Text.crlf covered)

theorem addProse_crlf (t : Text) (segments : List Segment) :
    addProse (Text.crlf t) (segments.map crlf) = (addProse t segments).map crlf := by
  have hempty : (Text.crlf t).isEmpty = t.isEmpty := by
    rw [Bool.eq_iff_iff, List.isEmpty_iff, List.isEmpty_iff, Text.crlf_eq_nil_iff]
  cases segments with
  | nil =>
    simp only [List.map_nil, addProse, hempty]
    split <;> rfl
  | cons s rest =>
    cases s with
    | prose u => simp [addProse, crlf]
    | code tag body covered =>
      simp only [List.map_cons, addProse, crlf, hempty]
      split <;> rfl

theorem ofRegions_crlf (tags : List Text) (rs : List Region) :
    ofRegions tags (rs.map Region.crlf) = (ofRegions tags rs).map crlf := by
  induction rs with
  | nil => rfl
  | cons r rest ih =>
    cases r with
    | plain line =>
      rw [List.map_cons, Region.crlf, ofRegions, ofRegions, ih, addProse_crlf]
    | fenced head o body close =>
      have htext := Region.text_crlf (.fenced head o body close)
      have hlast : (close.map Text.crlf).getD [] = Text.crlf (close.getD []) := by
        cases close <;> rfl
      rw [Region.crlf] at htext
      rw [List.map_cons, Region.crlf, ofRegions, ofRegions, ih]
      by_cases ht : o.tag ∈ tags
      · rw [if_pos ht, if_pos ht]
        simp only [hlast, Text.breaks_crlf, Text.dropBreaks_crlf, addProse_crlf,
          ← Text.crlf_flatten, ← Text.crlf_append]
        rfl
      · rw [if_neg ht, if_neg ht, htext, addProse_crlf]

end Segment

namespace Note

/-- Emptied headings lose their carriage returns, and nothing else does. -/
theorem dropReturns_emptyHeadings_crlf (fresh skipping : Bool) (t : Text) :
    dropReturns (emptyHeadings fresh skipping (Text.crlf t))
      = dropReturns (emptyHeadings fresh skipping t) := by
  induction t generalizing fresh skipping with
  | nil => rfl
  | cons c t ih =>
    by_cases hc : c = '\n'
    · subst hc
      have hnewline (f s : Bool) (u : Text) :
          emptyHeadings f s ('\n' :: u) = '\n' :: emptyHeadings true false u := by
        rw [emptyHeadings, if_pos rfl]
      have hrest := congrArg ('\n' :: ·) (ih true false)
      rw [Text.crlf_newline, emptyHeadings, if_neg (by decide), hnewline, hnewline, hnewline]
      by_cases hskip : (if fresh then isHeading ('\r' :: '\n' :: Text.crlf t) else skipping) = true
      · rw [if_pos hskip]
        exact hrest
      · rw [if_neg hskip]
        exact hrest
    · rw [Text.crlf_cons hc, emptyHeadings, emptyHeadings, if_neg hc, if_neg hc,
        ← Text.crlf_cons hc, isHeading_crlf]
      by_cases hskip : (if fresh then isHeading (c :: t) else skipping) = true
      · rw [if_pos hskip, if_pos hskip]
        exact ih false true
      · have hcons (u : Text) : dropReturns (c :: u) = dropReturns [c] ++ dropReturns u :=
          Text.dropReturns_append [c] u
        rw [if_neg hskip, if_neg hskip]
        exact (hcons _).trans (ih false false ▸ (hcons _).symm)

end Note

namespace CodeBlock

/-- A code block and what it is with a carriage return in front of each newline of the document. -/
structure Alike (b b' : CodeBlock) : Prop where
  dialect : b'.dialect = b.dialect
  code : b'.code = Text.crlf b.code
  note : dropReturns b'.note = dropReturns b.note
  note_nil : b'.note = [] ↔ b.note = []

theorem tidy_crlf (t : Text) :
    dropReturns (Note.tidy (Text.crlf t)) = dropReturns (Note.tidy t) := by
  rw [Note.tidy, Note.tidy, ← Text.trim_dropReturns, ← Text.trim_dropReturns,
    Note.dropReturns_emptyHeadings_crlf]

theorem forall₂_collect (d : Dialect) (segments : List Segment) (pending : Text)
    (offset offset' : Nat) :
    List.Forall₂ Alike (collect d pending (Block.place offset segments))
      (collect d (Text.crlf pending) (Block.place offset' (segments.map Segment.crlf))) := by
  induction segments generalizing pending offset offset' with
  | nil => exact .nil
  | cons s rest ih =>
    cases s with
    | prose t => exact ih t _ _
    | code tag body covered =>
      refine .cons ⟨rfl, rfl, tidy_crlf pending, ?_⟩ (ih [] _ _)
      show Note.tidy (Text.crlf pending) = [] ↔ Note.tidy pending = []
      rw [Note.tidy, Note.tidy, ← Text.dropReturns_trim_eq_nil_iff, ← Note.tidy, tidy_crlf,
        Note.tidy, Text.dropReturns_trim_eq_nil_iff]

/-- The code of a dialect is alike. -/
theorem forall₂_extract (tags : List Text) (d : Dialect) (t : Text) :
    List.Forall₂ Alike (extract tags d t) (extract tags d (Text.crlf t)) := by
  rw [extract, extract, Block.scan, Block.scan, Region.ofText_crlf, Segment.ofRegions_crlf]
  exact forall₂_collect d _ [] 0 0

end CodeBlock

/-! ## Title and description -/

namespace Heading

theorem title?_crlf (line : Text) : title? (Text.crlf line) = (title? line).map Text.crlf := by
  unfold title?
  rw [Text.dropBreaks_crlf]
  match Text.dropBreaks line with
  | [] => rfl
  | [c] => by_cases hc : c = '\n' <;> simp [hc]
  | c :: c' :: t =>
    by_cases hc : c = '#'
    · subst hc
      by_cases hc' : c' = ' '
      · subst hc'
        simp only [Text.crlf_cons (show '#' ≠ '\n' by decide),
          Text.crlf_cons (show ' ' ≠ '\n' by decide), Text.hasInk_crlf, Text.trim_crlf]
        split <;> rfl
      · by_cases hn : c' = '\n' <;> simp [hc', hn]
    · by_cases hn : c = '\n' <;> simp [hc, hn]

theorem isHeadingRegion_crlf (r : Region) : isHeadingRegion r.crlf = isHeadingRegion r := by
  cases r with
  | plain line =>
    rw [Region.crlf, isHeadingRegion, isHeadingRegion, Text.dropBreaks_crlf, isHeading_crlf]
  | fenced head o body close => rfl

theorem textToHeading_crlf (rs : List Region) :
    textToHeading (rs.map Region.crlf) = Text.crlf (textToHeading rs) := by
  induction rs with
  | nil => rfl
  | cons r rest ih =>
    unfold textToHeading at ih ⊢
    rw [List.map_cons, List.takeWhile_cons, List.takeWhile_cons, isHeadingRegion_crlf]
    split
    · rw [List.flatMap_cons, List.flatMap_cons, ih, Region.text_crlf, Text.crlf_append]
    · rfl

theorem ofRegions_crlf (rs : List Region) : ofRegions (rs.map Region.crlf)
    = ⟨(ofRegions rs).title.map Text.crlf, Text.crlf (ofRegions rs).description⟩ := by
  induction rs with
  | nil => rfl
  | cons r rest ih =>
    cases r with
    | fenced head o body close => exact ih
    | plain line =>
      rw [List.map_cons, Region.crlf, ofRegions, ofRegions, title?_crlf, ih, textToHeading_crlf,
        Text.trim_crlf]
      cases title? line <;> rfl

theorem extract_crlf (t : Text) : extract (Text.crlf t)
    = ⟨(extract t).title.map Text.crlf, Text.crlf (extract t).description⟩ := by
  rw [extract, Region.ofText_crlf, ofRegions_crlf]
  rfl

end Heading
end GuideBundles
