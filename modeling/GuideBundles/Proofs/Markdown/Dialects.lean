/-
# `Proofs.Markdown.Dialects` — a dialect does not see the fences of another

A scan for more tags returns more code, and among it all the code of a scan for fewer tags, at the
same offsets: which fences open and close does not depend on the tags.  Since no tag belongs to
both dialects of settings that are fit for a run, no byte of a document is extracted twice.
-/
import Mathlib.Data.List.Pairwise
import GuideBundles.Document
import GuideBundles.Proofs.Markdown.Tiling

namespace GuideBundles

/-! ## More tags -/

namespace Block

/-- Whether a block is code with one of `tags`. -/
def isTagged (tags : List Text) : Block → Bool
  | prose .. => false
  | code tag .. => tags.contains tag

theorem isCode_of_isTagged {tags : List Text} {b : Block} (h : b.isTagged tags = true) :
    b.isCode = true := by
  cases b with
  | prose _ _ _ => cases h
  | code _ _ _ _ => rfl

/-- A region is code for fewer tags when it is code for more of them and has one of the fewer. -/
theorem code?_of_subset {A B : List Text} (h : A ⊆ B) (size offset : Nat) (r : Region) :
    r.code? A size offset = (r.code? B size offset).filter (isTagged A) := by
  cases r with
  | plain line => rfl
  | fenced head o body close =>
    by_cases hA : o.tag ∈ A
    · rw [Region.code?_fenced hA, Region.code?_fenced (h hA)]
      simp [Option.filter, isTagged, hA]
    · rw [Region.code?_foreign hA]
      by_cases hB : o.tag ∈ B
      · rw [Region.code?_fenced hB]
        simp [Option.filter, isTagged, hA]
      · rw [Region.code?_foreign hB]
        rfl

/-- The code of a scan for fewer tags is the code with these tags in a scan for more. -/
theorem filter_isCode_scan_of_subset {A B : List Text} (h : A ⊆ B) (t : Text) :
    (scan A t).filter isCode = (scan B t).filter (isTagged A) := by
  have hB : (scan B t).filter (isTagged A) = ((scan B t).filter isCode).filter (isTagged A) := by
    rw [List.filter_filter]
    refine List.filter_congr fun b _ => ?_
    cases hb : b.isTagged A with
    | false => rfl
    | true => rw [isCode_of_isTagged hb]; rfl
  rw [hB, filter_isCode_scan, filter_isCode_scan, Region.codes, Region.codes,
    List.filter_filterMap]
  simp only [code?_of_subset h]

end Block

/-! ## Spots -/

/-- A piece of text with the byte offsets of the block that it stands in. -/
structure Spot where
  text : Text
  start : Nat
  stop : Nat

/-- One of two spots ends before the other one starts. -/
def Spot.Apart (a b : Spot) : Prop := a.stop ≤ b.start ∨ b.stop ≤ a.start

instance : Std.Symm Spot.Apart := ⟨fun _ _ => Or.symm⟩

namespace Block

/-- A block without its tag. -/
def spot (b : Block) : Spot :=
  match b with
  | prose t start stop => ⟨t, start, stop⟩
  | code _ t start stop => ⟨t, start, stop⟩

@[simp] theorem start_spot (b : Block) : b.spot.start = b.start := by cases b <;> rfl

@[simp] theorem stop_spot (b : Block) : b.spot.stop = b.stop := by cases b <;> rfl

theorem le_start_of_mem_place {offset : Nat} {segments : List Segment} {b : Block}
    (hb : b ∈ place offset segments) : offset ≤ b.start := by
  obtain ⟨before, s, after, -, rfl⟩ := exists_of_mem_place hb
  simp

theorem pairwise_apart_place (offset : Nat) (segments : List Segment) :
    (place offset segments).Pairwise fun a b => a.spot.Apart b.spot := by
  induction segments generalizing offset with
  | nil => exact .nil
  | cons s rest ih =>
    rw [place_cons]
    refine List.pairwise_cons.2 ⟨fun b hb => .inl ?_, ih _⟩
    simpa using le_start_of_mem_place hb

theorem pairwise_apart_scan (tags : List Text) (t : Text) :
    (scan tags t).Pairwise fun a b => a.spot.Apart b.spot :=
  pairwise_apart_place 0 _

/-- Different blocks of a scan lie apart. -/
theorem apart_of_mem_scan {tags : List Text} {t : Text} {a b : Block} (ha : a ∈ scan tags t)
    (hb : b ∈ scan tags t) (hne : a ≠ b) : a.spot.Apart b.spot := by
  have : Std.Symm fun a b : Block => a.spot.Apart b.spot := ⟨fun _ _ => Or.symm⟩
  exact (pairwise_apart_scan tags t).forall ha hb hne

/-- Code with tags that have none in common lies apart. -/
theorem pairwise_apart_tagged {A B : List Text} (h : ∀ tag ∈ A, tag ∉ B) (tags : List Text)
    (t : Text) : ((scan tags t).filter (isTagged A) ++ (scan tags t).filter (isTagged B)).Pairwise
      fun a b => a.spot.Apart b.spot := by
  have hone (C : List Text) :=
    (pairwise_apart_scan tags t).sublist (List.filter_sublist (p := isTagged C))
  refine List.pairwise_append.2 ⟨hone A, hone B, fun a ha b hb => ?_⟩
  obtain ⟨ha, hA⟩ := List.mem_filter.1 ha
  obtain ⟨hb, hB⟩ := List.mem_filter.1 hb
  refine apart_of_mem_scan ha hb fun hab => ?_
  subst hab
  cases a with
  | prose _ _ _ => cases hA
  | code tag _ _ _ => exact h tag (by simpa [isTagged] using hA) (by simpa [isTagged] using hB)

end Block

namespace CodeBlock

/-- Extracted code without its note. -/
def spot (b : CodeBlock) : Spot := ⟨b.code, b.start, b.stop⟩

theorem map_spot_collect (d : Dialect) (pending : Text) (bs : List Block) :
    (collect d pending bs).map spot = (bs.filter Block.isCode).map Block.spot := by
  induction bs generalizing pending with
  | nil => rfl
  | cons b bs ih =>
    cases b with
    | prose t start stop => exact ih t
    | code tag t start stop => exact congrArg (⟨t, start, stop⟩ :: ·) (ih [])

/-- The code extracted for a dialect is the code with its tags in a scan for more tags. -/
theorem map_spot_extract {tags all : List Text} (h : tags ⊆ all) (d : Dialect) (t : Text) :
    (extract tags d t).map spot =
      ((Block.scan all t).filter (Block.isTagged tags)).map Block.spot := by
  rw [extract, map_spot_collect, Block.filter_isCode_scan_of_subset h]

end CodeBlock

/-! ## Two dialects -/

namespace Document

/-- What a document gives for two dialects is what one scan for the tags of both finds, told apart
by the tags; the spots of all this code lie apart, and none of them is empty. -/
theorem spots_ofText {tags : FenceTags} (h : ∀ tag ∈ tags.snippet, tag ∉ tags.command)
    (t : Text) :
    let blocks := Block.scan (tags.snippet ++ tags.command) t
    let d := ofText tags t
    d.snippets.map CodeBlock.spot =
        (blocks.filter (Block.isTagged tags.snippet)).map Block.spot ∧
      d.commands.map CodeBlock.spot =
        (blocks.filter (Block.isTagged tags.command)).map Block.spot ∧
      ((d.snippets ++ d.commands).map CodeBlock.spot).Pairwise Spot.Apart ∧
      ∀ p ∈ (d.snippets ++ d.commands).map CodeBlock.spot, p.start < p.stop := by
  intro blocks d
  have hs : d.snippets.map CodeBlock.spot =
      (blocks.filter (Block.isTagged tags.snippet)).map Block.spot :=
    CodeBlock.map_spot_extract (List.subset_append_left _ _) .snippet t
  have hc : d.commands.map CodeBlock.spot =
      (blocks.filter (Block.isTagged tags.command)).map Block.spot :=
    CodeBlock.map_spot_extract (List.subset_append_right _ _) .command t
  refine ⟨hs, hc, ?_, fun p hp => ?_⟩
  · rw [List.map_append, hs, hc, ← List.map_append, List.pairwise_map]
    exact Block.pairwise_apart_tagged h _ t
  · rw [List.map_append, hs, hc, ← List.map_append] at hp
    obtain ⟨b, hb, rfl⟩ := List.mem_map.1 hp
    have hb : b ∈ blocks := by
      rcases List.mem_append.1 hb with hb | hb <;> exact (List.mem_filter.1 hb).1
    simpa using Block.start_lt_stop_of_mem_scan hb

/-- Dialects are independent: a scan for fewer tags finds the code with these tags that a scan for
more tags finds, and with settings that are fit for a run the two dialects divide between them
what one scan for the tags of both finds, no byte of it twice. -/
theorem dialects_independent :
    (∀ (A B : List Text) (t : Text), A ⊆ B →
      (Block.scan A t).filter Block.isCode = (Block.scan B t).filter (Block.isTagged A)) ∧
    ∀ (s : Settings) (t : Text), s.validate = .ok () →
      let blocks := Block.scan (s.tags.snippet ++ s.tags.command) t
      let d := ofText s.tags t
      d.snippets.map CodeBlock.spot =
          (blocks.filter (Block.isTagged s.tags.snippet)).map Block.spot ∧
        d.commands.map CodeBlock.spot =
          (blocks.filter (Block.isTagged s.tags.command)).map Block.spot ∧
        ((d.snippets ++ d.commands).map CodeBlock.spot).Pairwise Spot.Apart ∧
        ∀ p ∈ (d.snippets ++ d.commands).map CodeBlock.spot, p.start < p.stop :=
  ⟨fun _ _ t h => Block.filter_isCode_scan_of_subset h t,
    fun s t h => spots_ofText (s.validate_eq_ok_iff.1 h).2.2.1 t⟩

/-- A snippet fence inside a command fence, and the settings that are there by default. -/
theorem dialects_independent_nested :
    let python := Text.ofString "python"
    let bash := Text.ofString "bash"
    let t := Text.ofString "````bash\n```python\n````\n```python\nx\n```\n"
    let s : Settings := {}
    ([python] ⊆ [bash, python] ∧ s.validate = .ok ()) ∧
      (Block.scan [python] t).filter Block.isCode =
        (Block.scan [bash, python] t).filter (Block.isTagged [python]) ∧
      (((ofText s.tags t).snippets ++ (ofText s.tags t).commands).map CodeBlock.spot).Pairwise
        Spot.Apart :=
  have hsub : [Text.ofString "python"] ⊆ [Text.ofString "bash", Text.ofString "python"] := by
    simp
  ⟨⟨hsub, rfl⟩, dialects_independent.1 _ _ _ hsub, (dialects_independent.2 {} _ rfl).2.2.1⟩

end Document
end GuideBundles
