/-
# `Proofs.Markdown.ProseLines` — the lines outside all fences

The lines outside all fences can be found by going through a document line by line, with nothing to
remember but the number of backticks of the fence that is open.  `Fence.proseLines` does so, without
a look at tags and without making blocks.

Title and description can be read off these lines: `Heading.exists_line_of_title` says from which of
them the title comes, and where the description ends.
-/
import Mathlib.Data.List.DropRight
import GuideBundles.Markdown.Heading
import GuideBundles.Proofs.Markdown.Grammar
import GuideBundles.Proofs.Text.Slice

namespace GuideBundles

/-! ## Lines with their offsets -/

namespace Text

/-- Lines with the byte offsets at which they start, the first one at `offset`. -/
def numbered (offset : Nat) : List Text → List (Nat × Text)
  | [] => []
  | line :: rest => (offset, line) :: numbered (offset + size line) rest

theorem numbered_append (offset : Nat) (front back : List Text) : numbered offset (front ++ back) =
    numbered offset front ++ numbered (offset + size front.flatten) back := by
  induction front generalizing offset with
  | nil => rfl
  | cons line front ih => simp [numbered, ih, Nat.add_assoc]

/-- A line starts where the lines before it end, and it ends before the last of them does. -/
theorem bounds_of_mem_numbered {offset : Nat} {lines : List Text} {x : Nat × Text}
    (h : x ∈ numbered offset lines) :
    x.2 ∈ lines ∧ offset ≤ x.1 ∧ x.1 + size x.2 ≤ offset + size lines.flatten := by
  induction lines generalizing offset with
  | nil => cases h
  | cons line rest ih =>
    rcases List.mem_cons.1 h with rfl | h
    · simp
    · obtain ⟨hmem, hstart, hstop⟩ := ih h
      refine ⟨List.mem_cons_of_mem _ hmem, by omega, ?_⟩
      rw [List.flatten_cons, size_append]
      omega

theorem dropBreaks_dropBreaks (line : Text) : dropBreaks (dropBreaks line) = dropBreaks line :=
  List.rdropWhile_idempotent isBreak line

theorem isBlank_of_isBreak {c : Char} (h : isBreak c = true) : isBlank c = true := by
  rcases Bool.or_eq_true_iff.1 h with h | h
  · rw [beq_iff_eq.1 h]
    rfl
  · rw [beq_iff_eq.1 h]
    rfl

theorem isBlank_of_mem_breaks {line : Text} {c : Char} (h : c ∈ breaks line) : isBlank c = true :=
  isBlank_of_isBreak (List.mem_takeWhile_imp (List.mem_reverse.1 h))

/-- The breaks of a line are blanks in front of what follows. -/
theorem trim_breaks_append (line t : Text) : trim (breaks line ++ t) = trim t := by
  rw [trim, trim, trimStart, trimStart,
    List.dropWhile_append_of_pos fun _ hc => isBlank_of_mem_breaks hc]

end Text

/-! ## The tracker -/

namespace Fence

open Text (size dropBreaks numbered)

/-- The lines outside all fences, with their byte offsets and without their ends, from a byte offset
on; a fence with the given number of backticks may be open. -/
def proseFrom : Option Nat → Nat → List Text → List (Nat × Text)
  | _, _, [] => []
  | some ticks, offset, line :: rest =>
    proseFrom (if closes ticks line then none else some ticks) (offset + size line) rest
  | none, offset, line :: rest =>
    match opening? line with
    | some o => proseFrom (some o.ticks) (offset + size line) rest
    | none => (offset, dropBreaks line) :: proseFrom none (offset + size line) rest

/-- The lines of a document outside all fences. -/
def proseLines (t : Text) : List (Nat × Text) := proseFrom none 0 (Text.fullLines t)

theorem proseFrom_plain {line : Text} (h : opening? line = none) (offset : Nat)
    (lines : List Text) : proseFrom none offset (line :: lines) =
      (offset, dropBreaks line) :: proseFrom none (offset + size line) lines := by
  rw [proseFrom, h]

theorem proseFrom_head {head : Text} {o : Opening} (h : opening? head = some o) (offset : Nat)
    (lines : List Text) : proseFrom none offset (head :: lines) =
      proseFrom (some o.ticks) (offset + size head) lines := by
  rw [proseFrom, h]

/-- In an open fence, lines that do not close it are passed over. -/
theorem proseFrom_body {ticks : Nat} {body : List Text} (hb : ∀ l ∈ body, closes ticks l = false)
    (offset : Nat) (lines : List Text) : proseFrom (some ticks) offset (body ++ lines) =
      proseFrom (some ticks) (offset + size body.flatten) lines := by
  induction body generalizing offset with
  | nil => rfl
  | cons l body ih =>
    rw [List.cons_append, proseFrom, hb l List.mem_cons_self, if_neg (by simp),
      ih fun l hl => hb l (List.mem_cons_of_mem _ hl)]
    simp [Nat.add_assoc]

/-- A fence is passed over from its opening line to its closing line. -/
theorem proseFrom_closed {head : Text} {o : Opening} {body : List Text} {close : Text}
    (ho : opening? head = some o) (hb : ∀ l ∈ body, closes o.ticks l = false)
    (hc : closes o.ticks close = true) (offset : Nat) (lines : List Text) :
    proseFrom none offset (head :: (body ++ close :: lines)) =
      proseFrom none (offset + size (Region.fenced head o body (some close)).text) lines := by
  rw [proseFrom_head ho, proseFrom_body hb, proseFrom, hc, if_pos rfl]
  simp [Region.text, Nat.add_assoc]

theorem proseFrom_unclosed {head : Text} {o : Opening} {body : List Text}
    (ho : opening? head = some o) (hb : ∀ l ∈ body, closes o.ticks l = false) (offset : Nat) :
    proseFrom none offset (head :: body) = [] := by
  have h := proseFrom_body hb (offset + size head) []
  rw [List.append_nil] at h
  rw [proseFrom_head ho, h, proseFrom]

/-- No line starts before the offset where the lines do. -/
theorem le_of_mem_proseFrom {offset : Nat} {lines : List Text} {rs : List Region}
    (h : Region.Cut lines rs) {x : Nat × Text} (hx : x ∈ proseFrom none offset lines) :
    offset ≤ x.1 := by
  induction h generalizing offset with
  | nil => cases hx
  | plain ho _ ih =>
    rw [proseFrom_plain ho] at hx
    rcases List.mem_cons.1 hx with rfl | hx
    · exact Nat.le_refl _
    · have := ih hx
      omega
  | closed ho hb hc _ ih =>
    rw [proseFrom_closed ho hb hc] at hx
    have := ih hx
    omega
  | unclosed ho hb =>
    rw [proseFrom_unclosed ho hb] at hx
    cases hx

end Fence

/-! ## Title and description among these lines -/

namespace Heading

open Text (size dropBreaks slice?)

/-- Where a description ends in a document of `size` bytes: where the first heading among the lines
after the title starts, or with the document. -/
def stop (size : Nat) (after : List (Nat × Text)) : Nat :=
  match after.find? fun x => isHeading x.2 with
  | some x => x.1
  | none => size

theorem stop_cons_of_isHeading {line : Text} (h : isHeading line = true) (size offset : Nat)
    (after : List (Nat × Text)) : stop size ((offset, line) :: after) = offset := by
  simp [stop, h]

theorem stop_cons_of_not_isHeading {line : Text} (h : isHeading line = false) (size offset : Nat)
    (after : List (Nat × Text)) : stop size ((offset, line) :: after) = stop size after := by
  simp [stop, h]

theorem title?_dropBreaks (line : Text) : title? (dropBreaks line) = title? line := by
  rw [title?, Text.dropBreaks_dropBreaks, title?]

theorem textToHeading_cons_of_not {r : Region} (h : isHeadingRegion r = false) (rs : List Region) :
    textToHeading (r :: rs) = r.text ++ textToHeading rs := by
  rw [textToHeading, List.takeWhile_cons_of_pos (by simp [h]), List.flatMap_cons]
  rfl

/-- The text up to the first heading region ends where the tracker finds the first heading. -/
theorem stop_proseFrom {lines : List Text} {rs : List Region} (h : Region.Cut lines rs)
    (offset : Nat) : stop (offset + size lines.flatten) (Fence.proseFrom none offset lines) =
      offset + size (textToHeading rs) := by
  induction h generalizing offset with
  | nil => rfl
  | @plain line lines rs ho _ ih =>
    rw [Fence.proseFrom_plain ho]
    cases hline : isHeading (dropBreaks line) with
    | true =>
      rw [stop_cons_of_isHeading hline, textToHeading,
        List.takeWhile_cons_of_neg (by simp [isHeadingRegion, hline])]
      rfl
    | false =>
      rw [stop_cons_of_not_isHeading hline, textToHeading_cons_of_not (r := .plain line) hline,
        List.flatten_cons, Text.size_append, Text.size_append, ← Nat.add_assoc, ih, Nat.add_assoc]
      rfl
  | @closed head o body close lines rs ho hb hc _ ih =>
    have hflat : (head :: (body ++ close :: lines)).flatten =
        (Region.fenced head o body (some close)).text ++ lines.flatten := by simp [Region.text]
    rw [Fence.proseFrom_closed ho hb hc, textToHeading_cons_of_not rfl, hflat, Text.size_append,
      Text.size_append, ← Nat.add_assoc, ih, Nat.add_assoc]
  | @unclosed head o body ho hb =>
    rw [Fence.proseFrom_unclosed ho hb, textToHeading_cons_of_not rfl]
    simp [stop, textToHeading, Region.text]

theorem textToHeading_prefix {lines : List Text} {rs : List Region} (h : Region.Cut lines rs) :
    textToHeading rs <+: lines.flatten := by
  rw [← Region.flatMap_text_ofLines, ← Region.cut_iff.1 h, textToHeading]
  conv => rhs; rw [← List.takeWhile_append_dropWhile (p := fun r => !isHeadingRegion r) (l := rs)]
  rw [List.flatMap_append]
  exact List.prefix_append _ _

/-- A title comes from the first line outside all fences that gives one, and the description is what
stands between the text of that line and the first heading behind it outside all fences. -/
theorem exists_line_of_title {lines : List Text} {rs : List Region} (h : Region.Cut lines rs)
    (front : Text) {title : Text} (htitle : (ofRegions rs).title = some title) :
    ∃ before offset line after text,
      Fence.proseFrom none (size front) lines = before ++ (offset, line) :: after ∧
      (∀ x ∈ before, title? x.2 = none) ∧ title? line = some title ∧
      slice? (offset + size line) (stop (size (front ++ lines.flatten)) after)
        (front ++ lines.flatten) = some text ∧
      (ofRegions rs).description = Text.trim text := by
  induction h generalizing front with
  | nil => cases htitle
  | @plain line lines rs ho hcut ih =>
    rw [Fence.proseFrom_plain ho]
    cases hline : title? line with
    | none =>
      have hrest : ofRegions (.plain line :: rs) = ofRegions rs := by rw [ofRegions, hline]
      rw [hrest] at htitle ⊢
      obtain ⟨before, offset, line', after, text, hlines, hbefore, htitle', hslice, hdesc⟩ :=
        ih (front ++ line) htitle
      rw [Text.size_append] at hlines
      rw [List.append_assoc] at hslice
      refine ⟨(size front, dropBreaks line) :: before, offset, line', after, text, ?_, ?_, htitle',
        hslice, hdesc⟩
      · rw [hlines, List.cons_append]
      · intro x hx
        rcases List.mem_cons.1 hx with rfl | hx
        · rw [title?_dropBreaks, hline]
        · exact hbefore x hx
    | some title' =>
      have hhere : ofRegions (.plain line :: rs) = ⟨some title', Text.trim (textToHeading rs)⟩ := by
        rw [ofRegions, hline]
      rw [hhere] at htitle ⊢
      obtain rfl := Option.some.inj htitle
      obtain ⟨back, hback⟩ := textToHeading_prefix hcut
      -- The line end of the title stands in front of the description, and it is trimmed away.
      refine ⟨[], size front, dropBreaks line, _, Text.breaks line ++ textToHeading rs, rfl, nofun,
        ?_, ?_, ?_⟩
      · rw [title?_dropBreaks, hline]
      · have hwhole : front ++ (line :: lines).flatten = front ++ dropBreaks line
            ++ (Text.breaks line ++ textToHeading rs) ++ back := by
          conv => lhs; rw [List.flatten_cons, ← Text.dropBreaks_append_breaks line, ← hback]
          simp only [List.append_assoc]
        have hstop : stop (size (front ++ (line :: lines).flatten))
            (Fence.proseFrom none (size front + size line) lines) =
              size (front ++ dropBreaks line ++ (Text.breaks line ++ textToHeading rs)) := by
          have hsize := congrArg size (Text.dropBreaks_append_breaks line)
          have hend := stop_proseFrom hcut (size front + size line)
          simp only [Text.size_append, List.flatten_cons, ← Nat.add_assoc] at hsize hend ⊢
          omega
        rw [hstop, hwhole, ← Text.size_append]
        exact Text.slice?_append _ _ _
      · rw [Text.trim_breaks_append]
  | @closed head o body close lines rs ho hb hc _ ih =>
    have hrest : ofRegions (.fenced head o body (some close) :: rs) = ofRegions rs := by
      rw [ofRegions]
    have hflat : (head :: (body ++ close :: lines)).flatten =
        (Region.fenced head o body (some close)).text ++ lines.flatten := by simp [Region.text]
    rw [hrest] at htitle ⊢
    rw [Fence.proseFrom_closed ho hb hc, hflat, ← Text.size_append, ← List.append_assoc]
    exact ih _ htitle
  | unclosed ho hb =>
    rw [ofRegions, ofRegions] at htitle
    cases htitle

end Heading

end GuideBundles
