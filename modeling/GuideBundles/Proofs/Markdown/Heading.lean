/-
# `Proofs.Markdown.Heading` — title and description are read off the outer lines

An outer line is a line of a document that lies outside all fences, whatever their tags are.
`Heading.extract_outer` says what title and description are in terms of these lines and of byte
offsets alone: the first outer line that gives a title gives the title, and the description is the
piece of the document from the end of that line to the next outer line that is a heading, or to the
end of the document.
-/
import GuideBundles.Proofs.Markdown.Agreement
import GuideBundles.Proofs.Markdown.Note
import GuideBundles.Proofs.Text.Trim

namespace GuideBundles

open Text (size dropBreaks numbered slice?)

/-! ## Outer lines -/

namespace Region

/-- Whether a region is a fence. -/
def isFence : Region → Bool
  | plain _ => false
  | fenced .. => true

/-- Whether a line with its byte offset lies outside all fences among regions with theirs. -/
def outside (rs : List (Nat × Region)) (x : Nat × Text) : Bool :=
  rs.all fun r => !r.2.isFence || decide (x.1 + size x.2 ≤ r.1 ∨ r.1 + size r.2.text ≤ x.1)

variable {lines : List Text} {rs : List Region} {offset : Nat}

theorem le_of_mem_placed {r : Nat × Region} (h : r ∈ placed offset rs) : offset ≤ r.1 := by
  induction rs generalizing offset with
  | nil => cases h
  | cons first rs ih =>
    rcases List.mem_cons.1 h with rfl | h
    · exact Nat.le_refl _
    · have := ih h
      omega

/-- A line in front of all regions lies outside. -/
theorem outside_of_le (x : Nat × Text) (h : x.1 + size x.2 ≤ offset) (rs : List Region) :
    outside (placed offset rs) x = true := by
  refine List.all_eq_true.2 fun r hr => ?_
  have := le_of_mem_placed hr
  rw [Bool.or_eq_true, decide_eq_true_eq]
  exact .inr (.inl (by omega))

/-- A plain line does not matter to others. -/
theorem outside_plain (line : Text) (rs : List Region) (offset : Nat) :
    outside (placed offset (plain line :: rs)) = outside (placed (offset + size line) rs) := rfl

/-- What a line starts behind does not matter to it. -/
theorem outside_cons_of_le {r : Region} {x : Nat × Text} (h : offset + size r.text ≤ x.1)
    (rs : List Region) : outside (placed offset (r :: rs)) x =
      outside (placed (offset + size r.text) rs) x := by
  rw [placed, outside, List.all_cons, decide_eq_true (.inr h), Bool.or_true, Bool.true_and]
  rfl

/-- No line of a fence lies outside it. -/
theorem outside_fence {r : Region} (hr : r.isFence = true) {x : Nat × Text}
    (hx : x ∈ numbered offset lines) (hflat : lines.flatten = r.text) (hne : x.2 ≠ [])
    (rs : List Region) : outside (placed offset (r :: rs)) x = false := by
  obtain ⟨-, hstart, hend⟩ := Text.bounds_of_mem_numbered hx
  have := Text.size_eq_zero_iff.not.2 hne
  rw [hflat] at hend
  rw [placed, outside, List.all_cons, hr, decide_eq_false (by dsimp only; omega)]
  rfl

end Region

/-- The lines of a document that lie outside all fences, with their byte offsets and their ends. -/
def outerLines (t : Text) : List (Nat × Text) :=
  (numbered 0 (Text.fullLines t)).filter (Region.outside (Region.placed 0 (Region.ofText t)))

namespace Region

variable {lines : List Text} {rs : List Region} {offset : Nat}

/-- The tracker finds the outer lines. -/
theorem proseFrom_eq_outside (h : Cut lines rs) (hne : ∀ l ∈ lines, l ≠ []) :
    Fence.proseFrom none offset lines =
      ((numbered offset lines).filter (outside (placed offset rs))).map
        fun x => (x.1, dropBreaks x.2) := by
  induction h generalizing offset with
  | nil => rfl
  | @plain line lines rs ho _ ih =>
    have hhere : outside (placed (offset + size line) rs) (offset, line) = true :=
      outside_of_le (offset, line) (Nat.le_refl _) rs
    rw [Fence.proseFrom_plain ho, numbered, outside_plain, List.filter_cons_of_pos hhere,
      List.map_cons, ih fun l hl => hne l (List.mem_cons_of_mem _ hl)]
  | @closed head o body close lines rs ho hb hc _ ih =>
    have hsplit : head :: (body ++ close :: lines) = (head :: body ++ [close]) ++ lines := by simp
    have hflat : (head :: body ++ [close]).flatten = (fenced head o body (some close)).text := by
      simp [text]
    have hfence : (numbered offset (head :: body ++ [close])).filter
        (outside (placed offset (fenced head o body (some close) :: rs))) = [] := by
      refine List.filter_eq_nil_iff.2 fun x hx => ?_
      have hmem := (Text.bounds_of_mem_numbered hx).1
      rw [outside_fence rfl hx hflat (hne _ (hsplit ▸ List.mem_append_left _ hmem))]
      simp
    rw [Fence.proseFrom_closed ho hb hc, hsplit, Text.numbered_append, List.filter_append, hfence,
      List.nil_append, hflat, ih fun l hl => hne l (hsplit ▸ List.mem_append_right _ hl)]
    congr 1
    refine List.filter_congr fun x hx => ?_
    exact (outside_cons_of_le (Text.bounds_of_mem_numbered hx).2.1 rs).symm
  | @unclosed head o body ho hb =>
    have hflat : (head :: body).flatten = (fenced head o body none).text := by simp [text]
    rw [Fence.proseFrom_unclosed ho hb, List.filter_eq_nil_iff.2 fun x hx => ?_]
    · rfl
    · have hmem := (Text.bounds_of_mem_numbered hx).1
      rw [outside_fence rfl hx hflat (hne _ hmem)]
      simp

end Region

theorem proseLines_eq_outerLines (t : Text) :
    Fence.proseLines t = (outerLines t).map fun x => (x.1, dropBreaks x.2) :=
  Region.proseFrom_eq_outside (Region.cut_ofLines _) (Text.fullLines_fullLines t).ne_nil

/-! ## Title and description -/

namespace Heading

/-- A line that gives a title: a number sign, a space and something that is not blank. -/
def GivesTitle (line : Text) : Prop :=
  ∃ rest, dropBreaks line = '#' :: ' ' :: rest ∧ Text.hasInk rest = true

theorem title?_eq_none_iff {line : Text} : title? line = none ↔ ¬ GivesTitle line := by
  constructor
  · rintro h ⟨rest, hrest, hink⟩
    rw [title?_eq_some_iff.2 ⟨rest, hrest, hink, rfl⟩] at h
    cases h
  · intro h
    cases htitle : title? line with
    | none => rfl
    | some title =>
      obtain ⟨rest, hrest, hink, -⟩ := title?_eq_some_iff.1 htitle
      exact absurd ⟨rest, hrest, hink⟩ h

/-- Regions have no heading if none of the lines outside all fences gives a title. -/
theorem ofRegions_eq_none_iff {lines : List Text} {rs : List Region} (h : Region.Cut lines rs)
    (offset : Nat) : ofRegions rs = ⟨none, []⟩ ↔
      ∀ x ∈ Fence.proseFrom none offset lines, title? x.2 = none := by
  induction h generalizing offset with
  | nil => exact ⟨fun _ => List.forall_mem_nil _, fun _ => rfl⟩
  | @plain line lines rs ho _ ih =>
    rw [Fence.proseFrom_plain ho, List.forall_mem_cons, title?_dropBreaks, ofRegions]
    cases htitle : title? line with
    | none => simpa using ih _
    | some title => simp
  | closed ho hb hc _ ih =>
    rw [Fence.proseFrom_closed ho hb hc, ofRegions]
    exact ih _
  | unclosed ho hb =>
    rw [Fence.proseFrom_unclosed ho hb]
    exact ⟨fun _ => List.forall_mem_nil _, fun _ => rfl⟩

/-- A description ends at the first heading behind the title. -/
theorem stop_eq (size : Nat) (after : List (Nat × Text)) : stop size after =
    ((after.dropWhile fun x => !isHeading x.2).head?.map Prod.fst).getD size := by
  rw [stop, List.find?_eq_head?_dropWhile_not]
  cases (after.dropWhile fun x => !isHeading x.2).head? with
  | none => rfl
  | some x => rfl

theorem stop_map_dropBreaks (size : Nat) (after : List (Nat × Text)) :
    stop size (after.map fun x => (x.1, dropBreaks x.2)) = stop size after := by
  induction after with
  | nil => rfl
  | cons x after ih =>
    rw [List.map_cons]
    cases hx : isHeading x.2 with
    | true =>
      rw [stop_cons_of_isHeading ((isHeading_dropBreaks _).trans hx), stop_cons_of_isHeading hx]
    | false =>
      rw [stop_cons_of_not_isHeading ((isHeading_dropBreaks _).trans hx), ih,
        stop_cons_of_not_isHeading hx]

/-- Without a title there is no description. -/
theorem ofRegions_of_title {rs : List Region} (h : (ofRegions rs).title = none) :
    ofRegions rs = ⟨none, []⟩ := by
  induction rs with
  | nil => rfl
  | cons r rs ih =>
    cases r with
    | fenced head o body close => exact ih h
    | plain line =>
      rw [ofRegions] at h ⊢
      split at h
      · cases h
      · exact ih h

/-- Title and description among the outer lines. -/
theorem exists_outer_of_title {t title : Text} (h : (extract t).title = some title) :
    ∃ before offset line after piece, outerLines t = before ++ (offset, line) :: after ∧
      (∀ x ∈ before, ¬ GivesTitle x.2) ∧ title? line = some title ∧
      slice? (offset + size (dropBreaks line)) (stop (size t) after) t = some piece ∧
      (extract t).description = Text.trim piece := by
  obtain ⟨front, offset, line, behind, piece, hlines, hfront, hline, hslice, hdesc⟩ :=
    exists_line_of_title (Region.cut_ofLines _) [] h
  change Fence.proseLines t = _ at hlines
  rw [proseLines_eq_outerLines, List.map_eq_append_iff] at hlines
  obtain ⟨before, rest, houter, rfl, hrest⟩ := hlines
  obtain ⟨⟨start, full⟩, after, rfl, hfull, rfl⟩ := List.map_eq_cons_iff.1 hrest
  obtain ⟨rfl, rfl⟩ := Prod.mk.inj hfull
  rw [List.nil_append, Text.flatten_fullLines, stop_map_dropBreaks] at hslice
  rw [title?_dropBreaks] at hline
  refine ⟨before, start, full, after, piece, houter, ?_, hline, hslice, hdesc⟩
  intro x hx
  rw [← title?_eq_none_iff, ← title?_dropBreaks]
  exact hfront _ (List.mem_map_of_mem hx)

/-- A document has neither title nor description if no outer line gives a title.  Otherwise the
first outer line that does gives the title, which is not empty, trimmed and a single row; and the
description is trimmed from the piece of the document that reaches from the end of the text of that
line to the first outer line behind it that starts with number signs and a space or a tab, or to the
end of the document, with all fences in between. -/
theorem extract_outer (t : Text) :
    (extract t = ⟨none, []⟩ ↔ ∀ x ∈ outerLines t, ¬ GivesTitle x.2) ∧
    ((∃ x ∈ outerLines t, GivesTitle x.2) → ∃ before offset line middle back rest piece,
      outerLines t = before ++ (offset, line) :: (middle ++ back) ∧
      (∀ x ∈ before, ¬ GivesTitle x.2) ∧
      dropBreaks line = '#' :: ' ' :: rest ∧ Text.hasInk rest = true ∧
      (∀ x ∈ middle, ¬ StartsHeading x.2) ∧ (∀ x ∈ back.head?, StartsHeading x.2) ∧
      slice? (offset + size (dropBreaks line)) ((back.head?.map Prod.fst).getD (size t)) t =
        some piece ∧
      extract t = ⟨some (Text.trim rest), Text.trim piece⟩ ∧
      Text.trim rest ≠ [] ∧ Text.trim (Text.trim rest) = Text.trim rest ∧
      '\n' ∉ Text.trim rest) := by
  have hcut : Region.Cut (Text.fullLines t) (Region.ofText t) := Region.cut_ofLines _
  have hnone : extract t = ⟨none, []⟩ ↔ ∀ x ∈ outerLines t, ¬ GivesTitle x.2 := by
    rw [extract, ofRegions_eq_none_iff hcut 0, ← Fence.proseLines, proseLines_eq_outerLines,
      List.forall_mem_map]
    simp only [title?_dropBreaks, title?_eq_none_iff]
  refine ⟨hnone, ?_⟩
  rintro ⟨x, hx, hgives⟩
  cases htitle : (extract t).title with
  | none => exact absurd hgives (hnone.1 (ofRegions_of_title htitle) x hx)
  | some title =>
    obtain ⟨before, offset, line, after, piece, houter, hbefore, hline, hslice, hdesc⟩ :=
      exists_outer_of_title htitle
    obtain ⟨rest, hrest, hink, rfl⟩ := title?_eq_some_iff.1 hline
    have hdropped := List.head?_dropWhile_not (fun x : Nat × Text => !isHeading x.2) after
    refine ⟨before, offset, line, after.takeWhile fun x => !isHeading x.2,
      after.dropWhile fun x => !isHeading x.2, rest, piece, ?_, hbefore, hrest, hink, ?_, ?_, ?_,
      ?_, Text.trim_ne_nil hink, Text.trim_trim rest, newline_not_mem_title htitle⟩
    · rw [houter, List.takeWhile_append_dropWhile]
    · intro y hy
      have hkept := List.mem_takeWhile_imp (p := fun x : Nat × Text => !isHeading x.2) hy
      rw [← isHeading_iff]
      simpa using hkept
    · intro y hy
      rw [hy] at hdropped
      rw [← isHeading_iff]
      simpa using hdropped
    · rwa [← stop_eq]
    · rw [← htitle, ← hdesc]

/-- A number sign in a fence and one without a title come first, and the description goes on past a
fence with another one. -/
theorem extract_outer_fenced :
    let t := Text.ofString "```\n# No\n```\n# \n# A \r\nx\n~~~\n```sh\n## y\n```\n##\tB\n"
    (∃ x ∈ outerLines t, GivesTitle x.2) ∧
      ∃ before offset line middle back rest piece,
        outerLines t = before ++ (offset, line) :: (middle ++ back) ∧
        dropBreaks line = '#' :: ' ' :: rest ∧ Text.trim rest = ['A'] ∧
        extract t = ⟨some (Text.trim rest), Text.trim piece⟩ ∧
        Text.trim piece = Text.ofString "x\n~~~\n```sh\n## y\n```" := by
  intro t
  have hgives : ∃ x ∈ outerLines t, GivesTitle x.2 :=
    ⟨(16, Text.ofString "# A \r\n"), by decide +kernel, ['A', ' '], by decide +kernel,
      by decide +kernel⟩
  have hextract : extract t = ⟨some ['A'], Text.ofString "x\n~~~\n```sh\n## y\n```"⟩ := by
    decide +kernel
  obtain ⟨before, offset, line, middle, back, rest, piece, houter, -, hline, -, -, -, -, heading,
    -, -, -⟩ := (extract_outer t).2 hgives
  obtain ⟨htitle, hdesc⟩ := Heading.mk.inj (heading.symm.trans hextract)
  exact ⟨hgives, before, offset, line, middle, back, rest, piece, houter, hline,
    Option.some.inj htitle, heading, hdesc⟩

end Heading

end GuideBundles
