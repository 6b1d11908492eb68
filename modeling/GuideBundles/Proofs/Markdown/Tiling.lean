/-
# `Proofs.Markdown.Tiling` — the blocks of a scan tile the document

`Block.Tiles` says that blocks lie side by side from the first byte of a document to its last,
that prose and code take turns, and that each block shows what the document has in its place.
`tiles_scan` says that the blocks of every scan do.

The work is done on segments, which have no place yet: `Segment.Regular` is what the cutting keeps,
and `Block.place` only counts bytes.  That two code blocks never meet needs the lines: a closing
line that anything follows ends with a newline, which is prose.
-/
import Mathlib.Data.List.Chain
import GuideBundles.Proofs.Markdown.Grammar
import GuideBundles.Proofs.Text.Slice

namespace GuideBundles

namespace Segment

/-! ## Regular segments -/

/-- Whether a segment is code. -/
def isCode : Segment → Bool
  | prose _ => false
  | code .. => true

/-- A segment covers something, and code lies in what it covers. -/
def Solid : Segment → Prop
  | prose t => t ≠ []
  | code _ body covered => covered ≠ [] ∧ body <:+: covered

theorem Solid.text_ne_nil {s : Segment} (h : s.Solid) : s.text ≠ [] := by
  cases s with
  | prose _ => exact h
  | code _ _ _ => exact h.1

/-- Solid segments in which prose and code take turns. -/
structure Regular (segments : List Segment) : Prop where
  solid : ∀ s ∈ segments, s.Solid
  turns : segments.IsChain fun a b => a.isCode ≠ b.isCode

theorem regular_nil : Regular [] := ⟨by simp, .nil⟩

theorem Regular.tail {s : Segment} {rest : List Segment} (h : Regular (s :: rest)) :
    Regular rest :=
  ⟨fun a ha => h.solid a (List.mem_cons_of_mem _ ha), h.turns.of_cons⟩

/-- A solid segment may stand in front of segments of which the first is of the other kind. -/
theorem Regular.cons {s : Segment} {rest : List Segment} (hs : s.Solid) (hr : Regular rest)
    (hne : ∀ a ∈ rest.head?, s.isCode ≠ a.isCode) : Regular (s :: rest) := by
  refine ⟨fun a ha => ?_, List.isChain_cons.2 ⟨hne, hr.turns⟩⟩
  rcases List.mem_cons.1 ha with rfl | ha
  · exact hs
  · exact hr.solid a ha

theorem Regular.addProse {segments : List Segment} (h : Regular segments) (t : Text) :
    Regular (addProse t segments) := by
  cases segments with
  | nil =>
    cases t with
    | nil => exact h
    | cons c t => exact h.cons (s := .prose (c :: t)) (by simp [Solid]) (by simp)
  | cons s rest =>
    cases s with
    | prose u =>
      have hu : u ≠ [] := h.solid _ List.mem_cons_self
      refine h.tail.cons (s := .prose (t ++ u)) (by simp [Solid, hu]) ?_
      exact (List.isChain_cons.1 h.turns).1
    | code tag body covered =>
      cases t with
      | nil => exact h
      | cons c t => exact h.cons (s := .prose (c :: t)) (by simp [Solid]) (by simp [isCode])

/-- What begins with some prose begins with prose. -/
theorem isCode_head_addProse {t : Text} {segments : List Segment} (h : t ≠ [] ∨ segments = []) :
    ∀ a ∈ (addProse t segments).head?, a.isCode = false := by
  cases segments with
  | nil => cases t <;> simp [addProse, isCode]
  | cons s rest =>
    have ht : t ≠ [] := h.resolve_right (by simp)
    cases s with
    | prose u => simp [addProse, isCode]
    | code tag body covered =>
      cases t with
      | nil => exact absurd rfl ht
      | cons c t => simp [addProse, isCode]

@[simp] theorem flatMap_text_addProse (t : Text) (segments : List Segment) :
    (addProse t segments).flatMap text = t ++ segments.flatMap text := by
  cases segments with
  | nil => cases t <;> simp [addProse, text]
  | cons s rest =>
    cases s with
    | prose u => simp [addProse, text]
    | code tag body covered => cases t <;> simp [addProse, text]

/-- No text is lost between the segments. -/
theorem flatMap_text_ofRegions (tags : List Text) (rs : List Region) :
    (ofRegions tags rs).flatMap text = rs.flatMap Region.text := by
  induction rs with
  | nil => rfl
  | cons r rs ih =>
    cases r with
    | plain line => simp [ofRegions, Region.text, ih]
    | fenced head o body close =>
      by_cases ht : o.tag ∈ tags
      · rw [ofRegions, if_pos ht]
        simp only [List.flatMap_cons, flatMap_text_addProse, text, Region.text, ih,
          List.append_assoc]
        rw [← List.append_assoc (Text.dropBreaks _), Text.dropBreaks_append_breaks]
      · rw [ofRegions, if_neg ht]
        simp [ih]

theorem breaks_ne_nil (w : Text) : Text.breaks (w ++ ['\n']) ≠ [] := by
  simp [Text.breaks, Text.isBreak]

/-- Code covers its opening line, and with it everything inside. -/
theorem solid_code {head : Text} (hh : head ≠ []) (tag : Text) (body : List Text) (last : Text) :
    (code tag body.flatten (head ++ body.flatten ++ last)).Solid :=
  ⟨by simp [hh], head, last, rfl⟩

/-- The segments of a document are regular. -/
theorem regular_ofRegions (tags : List Text) {lines : List Text} {rs : List Region}
    (h : Region.Cut lines rs) (hl : Text.FullLines lines) : Regular (ofRegions tags rs) := by
  induction h with
  | nil => exact regular_nil
  | plain _ _ ih => exact (ih hl.tail).addProse _
  | @closed head o body close lines rs _ _ _ hcut ih =>
    have hclose : Text.FullLines (close :: lines) := hl.tail.drop
    have ih := ih hclose.tail
    by_cases ht : o.tag ∈ tags
    · rw [ofRegions, if_pos ht]
      refine Regular.cons (solid_code hl.head_ne_nil o.tag body _) (ih.addProse _) ?_
      -- The newline that ends the closing line keeps the next fence away from this one.
      have hbreak : Text.breaks close ≠ [] ∨ ofRegions tags rs = [] := by
        cases lines with
        | nil =>
          cases hcut
          exact .inr rfl
        | cons next lines =>
          obtain ⟨w, rfl⟩ := hclose.endsWithNewline
          exact .inl (breaks_ne_nil w)
      intro a ha
      rw [isCode_head_addProse hbreak a ha]
      simp [isCode]
    · rw [ofRegions, if_neg ht]
      exact ih.addProse _
  | @unclosed head o body _ _ =>
    by_cases ht : o.tag ∈ tags
    · rw [ofRegions, if_pos ht]
      refine Regular.cons (solid_code hl.head_ne_nil o.tag body _) (regular_nil.addProse _) ?_
      simp [ofRegions, Text.breaks, addProse]
    · rw [ofRegions, if_neg ht]
      exact regular_nil.addProse _

/-! ## Segments in their places -/

/-- A segment as a block that starts at a byte offset. -/
def block (offset : Nat) : Segment → Block
  | prose t => .prose t offset (offset + Text.size t)
  | code tag body covered => .code tag body offset (offset + Text.size covered)

end Segment

namespace Block

theorem place_cons (offset : Nat) (s : Segment) (rest : List Segment) :
    place offset (s :: rest) = s.block offset :: place (offset + Text.size s.text) rest := by
  cases s <;> rfl

@[simp] theorem start_block (offset : Nat) (s : Segment) : (s.block offset).start = offset := by
  cases s <;> rfl

@[simp] theorem stop_block (offset : Nat) (s : Segment) :
    (s.block offset).stop = offset + Text.size s.text := by
  cases s <;> rfl

@[simp] theorem isCode_block (offset : Nat) (s : Segment) :
    (s.block offset).isCode = s.isCode := by
  cases s <;> rfl

theorem head?_place (offset : Nat) (segments : List Segment) :
    (place offset segments).head? = segments.head?.map (Segment.block offset) := by
  cases segments with
  | nil => rfl
  | cons s rest => simp [place_cons]

theorem place_eq_nil_iff {offset : Nat} {segments : List Segment} :
    place offset segments = [] ↔ segments = [] := by
  cases segments with
  | nil => simp [place]
  | cons s rest => simp [place_cons]

theorem stop_of_mem_getLast?_place {offset : Nat} {segments : List Segment} {b : Block}
    (hb : b ∈ (place offset segments).getLast?) :
    b.stop = offset + Text.size (segments.flatMap Segment.text) := by
  induction segments generalizing offset with
  | nil => simp [place] at hb
  | cons s rest ih =>
    rw [place_cons] at hb
    cases rest with
    | nil =>
      obtain rfl : s.block offset = b := by simpa [place] using hb
      simp
    | cons r rest =>
      rw [place_cons, List.getLast?_cons_cons, ← place_cons] at hb
      simp [ih hb, Nat.add_assoc]

theorem isChain_place {offset : Nat} {segments : List Segment}
    (h : segments.IsChain fun a b => a.isCode ≠ b.isCode) :
    (place offset segments).IsChain fun a b => a.stop = b.start ∧ a.isCode ≠ b.isCode := by
  induction segments generalizing offset with
  | nil => exact .nil
  | cons s rest ih =>
    obtain ⟨hs, hr⟩ := List.isChain_cons.1 h
    rw [place_cons]
    refine List.isChain_cons.2 ⟨fun b hb => ?_, ih hr⟩
    obtain ⟨r, hmem, rfl⟩ := Option.map_eq_some_iff.1 ((head?_place _ rest).symm.trans hb)
    simpa using hs r hmem

/-- A block that has a place shows a segment, behind the text of the segments before it. -/
theorem exists_of_mem_place {offset : Nat} {segments : List Segment} {b : Block}
    (hb : b ∈ place offset segments) : ∃ before s after, segments = before ++ s :: after ∧
      b = s.block (offset + Text.size (before.flatMap Segment.text)) := by
  induction segments generalizing offset with
  | nil => simp [place] at hb
  | cons s rest ih =>
    rw [place_cons] at hb
    rcases List.mem_cons.1 hb with rfl | hb
    · exact ⟨[], s, rest, rfl, by simp⟩
    · obtain ⟨before, r, after, rfl, rfl⟩ := ih hb
      exact ⟨s :: before, r, after, rfl, by simp [Nat.add_assoc]⟩

/-! ## Tiles -/

/-- A block shows what a document has in its place: prose all of it, and code a piece of it. -/
def Shows (t : Text) : Block → Prop
  | prose u start stop => Text.slice? start stop t = some u
  | code _ u start stop => ∃ i j, start ≤ i ∧ j ≤ stop ∧ Text.slice? i j t = some u

/-- Blocks tile a document. -/
structure Tiles (t : Text) (bs : List Block) : Prop where
  nil_iff : bs = [] ↔ t = []
  first : ∀ b ∈ bs.head?, b.start = 0
  next : bs.IsChain fun a b => a.stop = b.start ∧ a.isCode ≠ b.isCode
  last : ∀ b ∈ bs.getLast?, b.stop = Text.size t
  shows : ∀ b ∈ bs, b.start < b.stop ∧ b.Shows t
  /-- The pieces between the offsets of the blocks make up the document. -/
  whole : ∃ pieces : List Text, bs.map (fun b => Text.slice? b.start b.stop t) = pieces.map some ∧
    pieces.flatten = t

theorem lt_of_solid {s : Segment} (h : s.Solid) (offset : Nat) :
    (s.block offset).start < (s.block offset).stop := by
  have : Text.size s.text ≠ 0 := fun h0 => h.text_ne_nil (Text.size_eq_zero_iff.1 h0)
  simp only [start_block, stop_block]
  omega

theorem shows_block {s : Segment} (h : s.Solid) (front back : Text) :
    (s.block (Text.size front)).Shows (front ++ s.text ++ back) := by
  cases s with
  | prose u => simpa [Shows, Segment.block, Segment.text] using Text.slice?_append front u back
  | code tag body covered =>
    obtain ⟨-, before, after, rfl⟩ := h
    refine ⟨Text.size (front ++ before), Text.size (front ++ before ++ body), ?_, ?_, ?_⟩
    · simp
    · simp only [Text.size_append]
      omega
    · have := Text.slice?_append (front ++ before) body (after ++ back)
      simpa [Segment.text] using this

/-- The pieces at the places of segments are the texts of the segments. -/
theorem map_slice?_place (front : Text) (segments : List Segment) :
    (place (Text.size front) segments).map
        (fun b => Text.slice? b.start b.stop (front ++ segments.flatMap Segment.text)) =
      (segments.map Segment.text).map some := by
  induction segments generalizing front with
  | nil => rfl
  | cons s rest ih =>
    have hs := Text.slice?_append front s.text (rest.flatMap Segment.text)
    have hr := ih (front ++ s.text)
    simp only [List.append_assoc, Text.size_append] at hs hr
    simp only [place_cons, List.map_cons, List.flatMap_cons, start_block, stop_block, hs, hr]

theorem tiles_place {segments : List Segment} (h : Segment.Regular segments) :
    Tiles (segments.flatMap Segment.text) (place 0 segments) where
  nil_iff := by
    rw [place_eq_nil_iff, List.flatMap_eq_nil_iff]
    constructor
    · rintro rfl
      simp
    · intro hnil
      cases segments with
      | nil => rfl
      | cons s rest =>
        have hs := h.solid s List.mem_cons_self
        exact absurd (hnil s List.mem_cons_self) hs.text_ne_nil
  first := by
    intro b hb
    obtain ⟨s, -, rfl⟩ := Option.map_eq_some_iff.1 ((head?_place 0 segments).symm.trans hb)
    exact start_block 0 s
  next := isChain_place h.turns
  last := by
    intro b hb
    simpa using stop_of_mem_getLast?_place hb
  shows := by
    intro b hb
    obtain ⟨before, s, after, rfl, rfl⟩ := exists_of_mem_place hb
    have hs := h.solid s (by simp)
    refine ⟨lt_of_solid hs _, ?_⟩
    simpa using shows_block hs (before.flatMap Segment.text) (after.flatMap Segment.text)
  whole := ⟨segments.map Segment.text, by simpa using map_slice?_place [] segments,
    by rw [List.flatMap_def]⟩

theorem regular_scan (tags : List Text) (t : Text) :
    Segment.Regular (Segment.ofRegions tags (Region.ofText t)) :=
  Segment.regular_ofRegions tags (Region.cut_ofLines _) (Text.fullLines_fullLines t)

/-- No block of a scan is empty. -/
theorem start_lt_stop_of_mem_scan {tags : List Text} {t : Text} {b : Block}
    (hb : b ∈ scan tags t) : b.start < b.stop := by
  obtain ⟨before, s, after, hs, rfl⟩ := exists_of_mem_place hb
  exact lt_of_solid ((regular_scan tags t).solid s (by simp [hs])) _

/-- The blocks of a scan tile the document: they lie side by side, prose and code take turns, and
no byte is lost or shown twice. -/
theorem tiles_scan (tags : List Text) (t : Text) : Tiles t (scan tags t) := by
  have h := tiles_place (regular_scan tags t)
  rwa [Segment.flatMap_text_ofRegions, Region.flatMap_text_ofText] at h

end Block
end GuideBundles
