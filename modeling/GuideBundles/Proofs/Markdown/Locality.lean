/-
# `Proofs.Markdown.Locality` — what a scan finds in one place does not depend on others

When every fence of a text is closed and its last line has an end, whatever stands behind it is
scanned as if it stood alone: `Region.Cut.append` says so of regions, and `Block.scan_local` of the
code that a scan finds.  The other way round, `Region.Cut.exists_of_append` says that all regions in
front of another one are closed, so a fence of a foreign tag can be given other lines, and the code
of the document stays the same.
-/
import GuideBundles.Proofs.Markdown.Grammar
import GuideBundles.Proofs.Text.Trim

namespace GuideBundles

/-! ## Regions side by side -/

namespace Region

/-- Whether a region is no fence without a closing line. -/
def isClosed : Region → Bool
  | plain _ => true
  | fenced _ _ _ close => close.isSome

theorem Cut.append {front back : List Text} {rs ss : List Region} (h : Cut front rs)
    (hclosed : ∀ r ∈ rs, r.isClosed = true) (hback : Cut back ss) :
    Cut (front ++ back) (rs ++ ss) := by
  induction h with
  | nil => exact hback
  | plain ho _ ih => exact .plain ho (ih fun r hr => hclosed r (List.mem_cons_of_mem _ hr))
  | closed ho hb hc _ ih =>
    have hrest := ih fun r hr => hclosed r (List.mem_cons_of_mem _ hr)
    simpa using Cut.closed ho hb hc hrest
  | unclosed _ _ => cases hclosed _ List.mem_cons_self

/-- Only the last region may lack its closing line, and the regions in front of another one are the
regions of the lines in front of it. -/
theorem Cut.exists_of_append {lines : List Text} {rs : List Region} {r : Region} {ss : List Region}
    (h : Cut lines (rs ++ r :: ss)) : ∃ front back, lines = front ++ back ∧ Cut front rs ∧
      (∀ s ∈ rs, s.isClosed = true) ∧ Cut back (r :: ss) := by
  induction rs generalizing lines with
  | nil => exact ⟨[], lines, rfl, .nil, nofun, h⟩
  | cons first rs ih =>
    rw [List.cons_append] at h
    generalize hregions : rs ++ r :: ss = regions at h
    cases h with
    | plain ho hrest =>
      obtain ⟨front, back, rfl, hfront, hclosed, hback⟩ := ih (hregions ▸ hrest)
      exact ⟨_ :: front, back, rfl, .plain ho hfront, by simpa [isClosed] using hclosed, hback⟩
    | @closed head o body close _ _ ho hb hc hrest =>
      obtain ⟨front, back, rfl, hfront, hclosed, hback⟩ := ih (hregions ▸ hrest)
      exact ⟨head :: (body ++ close :: front), back, by simp, .closed ho hb hc hfront,
        by simpa [isClosed] using hclosed, hback⟩
    | unclosed _ _ => exact absurd hregions (by simp)

theorem ofText_append {s : Text} (hs : Text.endsRow s = true)
    (hclosed : ∀ r ∈ ofText s, r.isClosed = true) (t : Text) :
    ofText (s ++ t) = ofText s ++ ofText t := by
  rw [ofText, Text.fullLines_append hs]
  exact (cut_iff.1 ((cut_ofLines _).append hclosed (cut_ofLines _))).symm

/-! ## Regions in their places -/

theorem placed_append (offset : Nat) (rs ss : List Region) : placed offset (rs ++ ss) =
    placed offset rs ++ placed (offset + Text.size (rs.flatMap text)) ss := by
  induction rs generalizing offset with
  | nil => rfl
  | cons r rs ih => simp [placed, ih, Nat.add_assoc]

theorem placed_shift (n offset : Nat) (rs : List Region) :
    placed (n + offset) rs = (placed offset rs).map fun r => (n + r.1, r.2) := by
  induction rs generalizing offset with
  | nil => rfl
  | cons r rs ih => rw [placed, placed, Nat.add_assoc, ih, List.map_cons]

theorem map_snd_placed (offset : Nat) (rs : List Region) :
    (placed offset rs).map Prod.snd = rs := by
  induction rs generalizing offset with
  | nil => rfl
  | cons r rs ih => rw [placed, List.map_cons, ih]

end Region

/-! ## Their code -/

namespace Block

/-- A block `n` bytes further back. -/
def shift (n : Nat) : Block → Block
  | prose t start stop => prose t (n + start) (n + stop)
  | code tag t start stop => code tag t (n + start) (n + stop)

/-- Tag and text of a block that is code. -/
def content? : Block → Option (Text × Text)
  | prose .. => none
  | code tag t .. => some (tag, t)

end Block

namespace Region

/-- Tag and text of the code that a region is. -/
def content? (tags : List Text) : Region → Option (Text × Text)
  | plain _ => none
  | fenced _ o body _ => if tags.contains o.tag then some (o.tag, body.flatten) else none

variable (tags : List Text)

/-- Only a fence that is not closed ends where the document does. -/
theorem code?_of_closed {r : Region} (h : r.isClosed = true) (size size' offset : Nat) :
    r.code? tags size offset = r.code? tags size' offset := by
  cases r with
  | plain line => rfl
  | fenced head o body close =>
    cases close with
    | none => cases h
    | some close => rfl

theorem code?_shift (n size offset : Nat) (r : Region) :
    r.code? tags (n + size) (n + offset) = (r.code? tags size offset).map (Block.shift n) := by
  cases r with
  | plain line => rfl
  | fenced head o body close =>
    by_cases ht : o.tag ∈ tags
    · rw [code?_fenced ht, code?_fenced ht]
      cases close with
      | none => rfl
      | some close => simp [Block.shift, stop, Nat.add_assoc]
    · rw [code?_foreign ht, code?_foreign ht]
      rfl

theorem bind_content?_code? (size offset : Nat) (r : Region) :
    (r.code? tags size offset).bind Block.content? = r.content? tags := by
  cases r with
  | plain line => rfl
  | fenced head o body close =>
    rw [code?, content?]
    split <;> rfl

theorem codes_append (size offset : Nat) (rs ss : List Region) :
    codes tags size offset (rs ++ ss) = codes tags size offset rs ++
      codes tags size (offset + Text.size (rs.flatMap text)) ss := by
  rw [codes, placed_append, List.filterMap_append]
  rfl

theorem codes_of_closed {rs : List Region} (h : ∀ r ∈ rs, r.isClosed = true)
    (size size' offset : Nat) : codes tags size offset rs = codes tags size' offset rs := by
  refine List.filterMap_congr fun r hr => code?_of_closed tags (h r.2 ?_) size size' r.1
  rw [← map_snd_placed offset rs]
  exact List.mem_map_of_mem hr

/-- Code moves along with the place where the regions start and with the end of the document. -/
theorem codes_shift (n size offset : Nat) (rs : List Region) :
    codes tags (n + size) (n + offset) rs = (codes tags size offset rs).map (Block.shift n) := by
  rw [codes, placed_shift, List.filterMap_map, codes, List.map_filterMap]
  exact List.filterMap_congr fun r _ => code?_shift tags n size r.1 r.2

/-- Tags and texts of code have nothing to do with offsets. -/
theorem filterMap_content?_codes (size offset : Nat) (rs : List Region) :
    (codes tags size offset rs).filterMap Block.content? = rs.filterMap (content? tags) := by
  conv => rhs; rw [← map_snd_placed offset rs]
  rw [codes, List.filterMap_filterMap, List.filterMap_map]
  exact List.filterMap_congr fun r _ => bind_content?_code? tags size r.1 r.2

variable {tags}

theorem content?_foreign {o : Opening} (ht : o.tag ∉ tags) (head : Text) (body : List Text)
    (close : Option Text) : (fenced head o body close).content? tags = none :=
  if_neg fun h => ht (List.contains_iff_mem.1 h)

end Region

/-! ## Scans -/

namespace Block

theorem filterMap_content?_scan (tags : List Text) (t : Text) :
    (scan tags t).filterMap content? = (Region.ofText t).filterMap (Region.content? tags) := by
  have hcode : ((scan tags t).filter isCode).filterMap content? =
      (scan tags t).filterMap content? := by
    rw [List.filterMap_filter]
    refine List.filterMap_congr fun b _ => ?_
    cases b with
    | prose _ _ _ => rfl
    | code _ _ _ _ => rfl
  rw [← hcode, filter_isCode_scan, Region.filterMap_content?_codes]

/-- The code behind a text in which all is closed is the code of what stands there, moved. -/
theorem filter_isCode_scan_append {s : Text} (hs : Text.endsRow s = true)
    (hclosed : ∀ r ∈ Region.ofText s, r.isClosed = true) (tags : List Text) (t : Text) :
    (scan tags (s ++ t)).filter isCode =
      (scan tags s).filter isCode ++ ((scan tags t).filter isCode).map (shift (Text.size s)) := by
  simp only [filter_isCode_scan]
  rw [Region.ofText_append hs hclosed, Region.codes_append, Region.flatMap_text_ofText,
    Region.codes_of_closed tags hclosed _ (Text.size s), Text.size_append, ← Region.codes_shift,
    Nat.zero_add, Nat.add_zero]

end Block

/-- A fence that is closed may have any other lines that do not close it. -/
theorem Region.ofText_of_body {t : Text} {before after : List Region} {head close : Text}
    {o : Opening} {body : List Text}
    (h : ofText t = before ++ fenced head o body (some close) :: after) {u : Text}
    (hend : Text.endsRow u = true)
    (hopen : ∀ l ∈ Text.fullLines u, Fence.closes o.ticks l = false) :
    ofText (before.flatMap text ++ (head ++ u ++ close) ++ after.flatMap text) =
      before ++ fenced head o (Text.fullLines u) (some close) :: after := by
  have hcut : Cut (Text.fullLines t) (before ++ fenced head o body (some close) :: after) :=
    h ▸ cut_ofLines _
  obtain ⟨front, back, hlines, hfront, hclosed, hback⟩ := hcut.exists_of_append
  cases hback with
  | @closed _ _ _ _ rest _ ho hb hc hrest =>
    have hfull : Text.FullLines (front ++ ([head] ++ (body ++ close :: rest))) :=
      hlines ▸ Text.fullLines_fullLines t
    -- The lines of the fence go, and the others keep their ends.
    have hnew : Text.FullLines (front ++ [head] ++ (Text.fullLines u ++ close :: rest)) := by
      refine (List.append_assoc .. ▸ hfull : Text.FullLines (front ++ [head] ++ _)).replaceBack
        (by simp) ?_
      refine (Text.fullLines_fullLines u).append (by rwa [Text.flatten_fullLines]) ?_
      exact hfull.drop.drop.drop
    have hflat : (front ++ [head] ++ (Text.fullLines u ++ close :: rest)).flatten =
        before.flatMap text ++ (head ++ u ++ close) ++ after.flatMap text := by
      rw [cut_iff.1 hfront, cut_iff.1 hrest, flatMap_text_ofLines, flatMap_text_ofLines]
      simp
    rw [ofText, Text.fullLines_eq_iff.2 ⟨hnew, hflat⟩]
    have hregions := hfront.append hclosed (Cut.closed ho hopen hc hrest)
    rw [List.append_assoc]
    exact (cut_iff.1 hregions).symm

namespace Block

/-- Scanning is local.  Behind a text that is empty or ends with a newline, and in which every fence
is closed, a scan finds the code that it finds in the rest alone, with all offsets moved by the size
of that text.  And the lines of a closed fence whose tag is not among the tags can be replaced by
any others that have their ends and do not close it: the code keeps its tags and texts. -/
theorem scan_local (tags : List Text) :
    (∀ s t : Text, Text.endsRow s = true → (∀ r ∈ Region.ofText s, r.isClosed = true) →
      (scan tags (s ++ t)).filter isCode =
        (scan tags s).filter isCode ++ ((scan tags t).filter isCode).map (shift (Text.size s))) ∧
    ∀ (t : Text) (before after : List Region) (head close : Text) (o : Opening) (body : List Text),
      Region.ofText t = before ++ .fenced head o body (some close) :: after → o.tag ∉ tags →
      t = before.flatMap Region.text ++ (head ++ body.flatten ++ close) ++
          after.flatMap Region.text ∧
      ∀ u : Text, Text.endsRow u = true →
        (∀ l ∈ Text.fullLines u, Fence.closes o.ticks l = false) →
        (scan tags (before.flatMap Region.text ++ (head ++ u ++ close) ++
            after.flatMap Region.text)).filterMap content? = (scan tags t).filterMap content? := by
  refine ⟨fun s t hs hclosed => filter_isCode_scan_append hs hclosed tags t, ?_⟩
  intro t before after head close o body hregions htag
  constructor
  · rw [← Region.flatMap_text_ofText t, hregions]
    simp [Region.text]
  · intro u hend hopen
    rw [filterMap_content?_scan, filterMap_content?_scan, Region.ofText_of_body hregions hend hopen,
      hregions, List.filterMap_append, List.filterMap_append,
      List.filterMap_cons_none (Region.content?_foreign htag ..),
      List.filterMap_cons_none (Region.content?_foreign htag ..)]

/-- A fence inside a fence of another tag, which then gets lines that look like the start of a third
one, and code behind them. -/
theorem scan_local_nested :
    let head := Text.ofString "````text\n"
    let close := Text.ofString "````\n"
    let s := head ++ Text.ofString "```python\n" ++ close
    let t := Text.ofString "```python\nx\n```\n"
    let u := Text.ofString "```\n```python\n"
    let tags := [Text.ofString "python"]
    (Text.endsRow s = true ∧ (∀ r ∈ Region.ofText s, r.isClosed = true) ∧
      (scan tags (s ++ t)).filter isCode =
        (scan tags s).filter isCode ++ ((scan tags t).filter isCode).map (shift (Text.size s))) ∧
    ∃ after, Region.ofText (s ++ t) = [] ++ .fenced head ⟨4, Text.ofString "text"⟩
        [Text.ofString "```python\n"] (some close) :: after ∧
      Text.ofString "text" ∉ tags ∧
      (Text.endsRow u = true ∧ ∀ l ∈ Text.fullLines u, Fence.closes 4 l = false) ∧
      (scan tags ([] ++ (head ++ u ++ close) ++ after.flatMap Region.text)).filterMap content? =
        [(Text.ofString "python", ['x', '\n'])] := by
  intro head close s t u tags
  have htag : Text.ofString "text" ∉ tags := by decide +kernel
  have hs : Text.endsRow s = true := by decide +kernel
  have hclosed : ∀ r ∈ Region.ofText s, r.isClosed = true := by decide +kernel
  have hu : Text.endsRow u = true := by decide +kernel
  have hopen : ∀ l ∈ Text.fullLines u, Fence.closes 4 l = false := by decide +kernel
  have hregions : Region.ofText (s ++ t) = [] ++ .fenced head ⟨4, Text.ofString "text"⟩
      [Text.ofString "```python\n"] (some close) :: [.fenced (Text.ofString "```python\n")
        ⟨3, Text.ofString "python"⟩ [['x', '\n']] (some (Text.ofString "```\n"))] := by
    decide +kernel
  have hcode : (scan tags (s ++ t)).filterMap content? =
      [(Text.ofString "python", ['x', '\n'])] := by decide +kernel
  obtain ⟨happend, hbody⟩ := scan_local tags
  refine ⟨⟨hs, hclosed, happend s t hs hclosed⟩, _, hregions, htag, ⟨hu, hopen⟩, ?_⟩
  exact ((hbody _ _ _ _ _ _ _ hregions htag).2 u hu hopen).trans hcode

end Block

end GuideBundles
