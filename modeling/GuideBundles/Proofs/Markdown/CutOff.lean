/-
# `Proofs.Markdown.CutOff` — where extracted code lacks its last newline

The lines of a fence have their newlines as long as another line follows them, and the line that
closes the fence is one.  So code ends with a newline or is empty, unless the document ends inside
its fence and has no newline there: `CodeBlock.newline_missing_iff` says that this is the only case.
-/
import GuideBundles.Proofs.Markdown.Dialects
import GuideBundles.Proofs.Markdown.Locality

namespace GuideBundles

open Text (size endsRow)

namespace Text

theorem endsRow_append {t : Text} (ht : t ≠ []) (s : Text) : endsRow (s ++ t) = endsRow t := by
  obtain ⟨u, c, rfl⟩ : ∃ u c, t = u ++ [c] := ⟨_, _, (List.dropLast_concat_getLast ht).symm⟩
  simp [endsRow, ← List.append_assoc]

/-- Lines that others follow end with a newline. -/
theorem FullLines.endsRow_front {front back : List Text} (h : FullLines (front ++ back))
    (hback : back ≠ []) : endsRow front.flatten = true := by
  induction front with
  | nil => rfl
  | cons line front ih =>
    obtain ⟨next, rest, hnext⟩ : ∃ next rest, front ++ back = next :: rest :=
      List.exists_cons_of_ne_nil (by simp [hback])
    have hline : FullLines (line :: next :: rest) := hnext ▸ h
    obtain ⟨w, rfl⟩ := hline.endsWithNewline
    rw [List.flatten_cons, endsRow_line_append]
    exact ih h.tail

end Text

namespace Region

/-- A region starts where the regions in front of it end. -/
theorem exists_of_mem_placed {offset : Nat} {rs : List Region} {x : Nat × Region}
    (h : x ∈ placed offset rs) :
    ∃ front back, rs = front ++ x.2 :: back ∧ x.1 = offset + size (front.flatMap text) := by
  induction rs generalizing offset with
  | nil => cases h
  | cons r rs ih =>
    rcases List.mem_cons.1 h with rfl | h
    · exact ⟨[], rs, rfl, rfl⟩
    · obtain ⟨front, back, hrs, hstart⟩ := ih h
      exact ⟨r :: front, back, by rw [hrs, List.cons_append], by
        simp [hstart, Nat.add_assoc]⟩

end Region

namespace CodeBlock

/-- Extracted code is a fence among the regions of the document. -/
theorem exists_fence_of_mem_extract {tags : List Text} {d : Dialect} {t : Text} {b : CodeBlock}
    (h : b ∈ extract tags d t) :
    ∃ front head o body close back,
      Region.ofText t = front ++ .fenced head o body close :: back ∧ b.code = body.flatten ∧
      b.start = size (front.flatMap Region.text) ∧
      b.stop = Region.stop (size t) b.start (.fenced head o body close) := by
  have hspot : b.spot ∈ ((Block.scan tags t).filter Block.isCode).map Block.spot := by
    rw [← map_spot_collect d []]
    exact List.mem_map_of_mem h
  rw [Block.filter_isCode_scan] at hspot
  obtain ⟨block, hblock, hsame⟩ := List.mem_map.1 hspot
  obtain ⟨⟨k, r⟩, hplaced, hcode⟩ := List.mem_filterMap.1 hblock
  obtain ⟨front, back, hregions, hstart⟩ := Region.exists_of_mem_placed hplaced
  cases r with
  | plain line => cases hcode
  | fenced head o body close =>
    by_cases ht : o.tag ∈ tags
    · rw [Region.code?_fenced ht] at hcode
      obtain rfl := Option.some.inj hcode
      obtain ⟨htext, hk, hstop⟩ := Spot.mk.inj hsame
      rw [Nat.zero_add] at hstart
      refine ⟨front, head, o, body, close, back, hregions, htext.symm, hk.symm.trans hstart, ?_⟩
      rw [← hstop, ← hk]
    · rw [Region.code?_foreign ht] at hcode
      cases hcode

/-- The document ends inside a block: its last region is a fence that nothing closes, whose lines
are the code of the block, and its last line has no newline. -/
def IsCutOff (t : Text) (b : CodeBlock) : Prop :=
  ∃ front head o body, Region.ofText t = front ++ [.fenced head o body none] ∧
    b.code = body.flatten ∧ b.code ≠ [] ∧ b.start = size (front.flatMap Region.text) ∧
    b.stop = size t ∧ endsRow t = false

/-- The lines of a fence that is closed all have their newlines. -/
theorem endsRow_body {lines : List Text} {rs ss : List Region} {head close : Text} {o : Opening}
    {body : List Text} (h : Region.Cut lines (rs ++ .fenced head o body (some close) :: ss))
    (hl : Text.FullLines lines) : endsRow body.flatten = true := by
  obtain ⟨front, back, rfl, -, -, hback⟩ := h.exists_of_append
  cases hback with
  | closed _ _ _ _ => exact hl.drop.tail.endsRow_front (List.cons_ne_nil _ _)

/-- The lines of a fence that is not closed are the last ones of the document. -/
theorem endsRow_unclosed {t head : Text} {rs ss : List Region} {o : Opening} {body : List Text}
    (h : Region.ofText t = rs ++ .fenced head o body none :: ss) (hbody : body.flatten ≠ []) :
    ss = [] ∧ endsRow t = endsRow body.flatten := by
  have hcut := Region.cut_ofLines (Text.fullLines t)
  rw [← Region.ofText, h] at hcut
  obtain ⟨-, back, -, -, -, hback⟩ := hcut.exists_of_append
  cases hback with
  | unclosed _ _ =>
    refine ⟨rfl, ?_⟩
    have ht : rs.flatMap Region.text ++ head ++ body.flatten = t := by
      rw [← Region.flatMap_text_ofText t, h]
      simp [Region.text]
    rw [← ht, Text.endsRow_append hbody]

/-- Code is empty or ends with a newline, unless the document ends inside its fence and has no
newline there. -/
theorem newline_missing_iff (tags : List Text) (d : Dialect) (t : Text) :
    ∀ b ∈ extract tags d t, endsRow b.code = false ↔ IsCutOff t b := by
  intro b hb
  constructor
  · intro hcode
    have hne : b.code ≠ [] := by
      intro hnil
      rw [hnil] at hcode
      cases hcode
    obtain ⟨front, head, o, body, close, back, hregions, hbody, hstart, hstop⟩ :=
      exists_fence_of_mem_extract hb
    cases close with
    | some close =>
      have hcut := Region.cut_ofLines (Text.fullLines t)
      rw [← Region.ofText, hregions] at hcut
      rw [hbody, endsRow_body hcut (Text.fullLines_fullLines t)] at hcode
      cases hcode
    | none =>
      obtain ⟨rfl, hend⟩ := endsRow_unclosed hregions (hbody ▸ hne)
      refine ⟨front, head, o, body, hregions, hbody, hne, hstart, hstop, ?_⟩
      rw [hend, ← hbody, hcode]
  · rintro ⟨front, head, o, body, hregions, hbody, hne, -, -, hend⟩
    rw [hbody, ← (endsRow_unclosed hregions (hbody ▸ hne)).2, hend]

/-- Two blocks, the second of which the document ends in: its code lacks the newline, and the code
of the first one does not. -/
theorem newline_missing_iff_unclosed :
    let t := Text.ofString "```python\nx\n```\n```python\ny\nz"
    let first : CodeBlock := ⟨.snippet, Text.ofString "x\n", [], 0, 15⟩
    let second : CodeBlock := ⟨.snippet, Text.ofString "y\nz", [], 16, 29⟩
    extract [Text.ofString "python"] .snippet t = [first, second] ∧
      ¬ IsCutOff t first ∧ IsCutOff t second := by
  intro t first second
  have hextract : extract [Text.ofString "python"] .snippet t = [first, second] := by
    decide +kernel
  have hmissing := newline_missing_iff [Text.ofString "python"] .snippet t
  rw [hextract] at hmissing
  refine ⟨hextract, fun hcut => ?_, (hmissing second (by simp)).1 (by decide +kernel)⟩
  exact absurd ((hmissing first (by simp)).2 hcut) (by decide +kernel)

/-- The code of a fence that is never closed is the rest of the document as it stands. -/
theorem newline_missing_of_unclosed :
    extract [Text.ofString "python"] .snippet (Text.ofString "```python\nx") =
      [⟨.snippet, ['x'], [], 0, 11⟩] ∧ endsRow ['x'] = false := by
  decide +kernel

end CodeBlock
end GuideBundles
