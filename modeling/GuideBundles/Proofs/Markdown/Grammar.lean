/-
# `Proofs.Markdown.Grammar` — fences have a grammar, and scanning follows it

`Region.Cut` says which regions lines may fall into: plain lines, fences with their first closing
line, and a fence that no line closes, which has to be the last region.  It does not say how to
find them.  `cut_iff` says that lines fall into regions in one way only, the way in which
`Region.ofLines` finds them.

The code that a scan is to return is read off the regions by `Region.codes`: one block for each
fence with a tag of the dialect, from its opening line to the end of its closing line.
`filter_isCode_scan` says that the scan returns these blocks and no others.
-/
import Mathlib.Data.List.TakeWhile
import GuideBundles.Markdown.Block
import GuideBundles.Proofs.Text.Lines

namespace GuideBundles

namespace Region

/-! ## The grammar -/

/-- How lines fall into regions. -/
inductive Cut : List Text → List Region → Prop
  | nil : Cut [] []
  | plain {line : Text} {lines : List Text} {rs : List Region} :
      Fence.opening? line = none → Cut lines rs → Cut (line :: lines) (plain line :: rs)
  | closed {head : Text} {o : Opening} {body : List Text} {close : Text} {lines : List Text}
      {rs : List Region} :
      Fence.opening? head = some o → (∀ l ∈ body, Fence.closes o.ticks l = false) →
      Fence.closes o.ticks close = true → Cut lines rs →
      Cut (head :: (body ++ close :: lines)) (fenced head o body (some close) :: rs)
  | unclosed {head : Text} {o : Opening} {body : List Text} :
      Fence.opening? head = some o → (∀ l ∈ body, Fence.closes o.ticks l = false) →
      Cut (head :: body) [fenced head o body none]

theorem ofLines_plain {line : Text} (h : Fence.opening? line = none) (lines : List Text) :
    ofLines (line :: lines) = plain line :: ofLines lines := by
  rw [ofLines, h]

/-- What an opened fence cuts off depends on the first line that closes it. -/
theorem ofLines_closed {head : Text} {o : Opening} {body : List Text} {close : Text}
    (ho : Fence.opening? head = some o) (hb : ∀ l ∈ body, Fence.closes o.ticks l = false)
    (hc : Fence.closes o.ticks close = true) (lines : List Text) :
    ofLines (head :: (body ++ close :: lines)) =
      fenced head o body (some close) :: ofLines lines := by
  have hb' : ∀ l ∈ body, (!Fence.closes o.ticks l) = true := fun l hl => by simp [hb l hl]
  have htake : (body ++ close :: lines).takeWhile (fun l => !Fence.closes o.ticks l) = body := by
    rw [List.takeWhile_append_of_pos hb']
    simp [hc]
  have hdrop : (body ++ close :: lines).dropWhile (fun l => !Fence.closes o.ticks l) =
      close :: lines := by
    rw [List.dropWhile_append_of_pos hb']
    simp [hc]
  rw [ofLines, ho]
  simp only [htake]
  split
  · next h => cases hdrop.symm.trans h
  · next h => cases hdrop.symm.trans h; rfl

theorem ofLines_unclosed {head : Text} {o : Opening} {body : List Text}
    (ho : Fence.opening? head = some o) (hb : ∀ l ∈ body, Fence.closes o.ticks l = false) :
    ofLines (head :: body) = [fenced head o body none] := by
  have hb' : ∀ l ∈ body, (!Fence.closes o.ticks l) = true := fun l hl => by simp [hb l hl]
  have htake : body.takeWhile (fun l => !Fence.closes o.ticks l) = body :=
    List.takeWhile_eq_self_iff.2 hb'
  have hdrop : body.dropWhile (fun l => !Fence.closes o.ticks l) = [] :=
    List.dropWhile_eq_nil_iff.2 hb'
  rw [ofLines, ho]
  simp only [htake]
  split
  · rfl
  · next h => cases hdrop.symm.trans h

/-- The regions that are found are regions that the lines fall into. -/
theorem cut_ofLines (lines : List Text) : Cut lines (ofLines lines) := by
  fun_induction ofLines lines with
  | case1 => exact .nil
  | case2 line rest h ih => exact .plain h ih
  | case3 line rest o h body hd =>
    have hall : ∀ l ∈ rest, Fence.closes o.ticks l = false := by
      simpa using List.dropWhile_eq_nil_iff.1 hd
    have hbody : body = rest := List.takeWhile_eq_self_iff.2 (by simpa using hall)
    rw [hbody]
    exact .unclosed h hall
  | case4 line rest o h body close after hd ih =>
    have hrest : rest = body ++ close :: after := by
      rw [← hd]
      exact List.takeWhile_append_dropWhile.symm
    have hbody : ∀ l ∈ body, Fence.closes o.ticks l = false := fun l hl => by
      simpa using List.mem_takeWhile_imp hl
    have hclose : Fence.closes o.ticks close = true := by
      have := List.head_dropWhile_not (fun l => !Fence.closes o.ticks l) (l := rest) (by simp [hd])
      simpa [hd] using this
    rw [hrest]
    exact .closed h hbody hclose ih

/-- Lines fall into regions in one way only. -/
theorem cut_iff {lines : List Text} {rs : List Region} : Cut lines rs ↔ rs = ofLines lines := by
  constructor
  · intro h
    induction h with
    | nil => rw [ofLines]
    | plain ho _ ih => rw [ofLines_plain ho, ih]
    | closed ho hb hc _ ih => rw [ofLines_closed ho hb hc, ih]
    | unclosed ho hb => rw [ofLines_unclosed ho hb]
  · rintro rfl
    exact cut_ofLines lines

/-! ## The code among the regions -/

/-- Regions with the byte offsets at which they start, the first one at `offset`. -/
def placed (offset : Nat) : List Region → List (Nat × Region)
  | [] => []
  | r :: rs => (offset, r) :: placed (offset + Text.size r.text) rs

/-- Where a region at a byte offset ends as a block: after the closing line without its breaks, or
with the document. -/
def stop (size offset : Nat) : Region → Nat
  | plain line => offset + Text.size line
  | fenced head _ body (some close) =>
    offset + Text.size (head ++ body.flatten ++ Text.dropBreaks close)
  | fenced _ _ _ none => size

/-- The code block that a region at a byte offset is, in a document of `size` bytes: it is a fence
with one of `tags`. -/
def code? (tags : List Text) (size offset : Nat) : Region → Option Block
  | plain _ => none
  | fenced head o body close =>
    if tags.contains o.tag then
      some (.code o.tag body.flatten offset (stop size offset (fenced head o body close)))
    else none

/-- The code blocks among the regions of a document. -/
def codes (tags : List Text) (size offset : Nat) (rs : List Region) : List Block :=
  (placed offset rs).filterMap fun r => r.2.code? tags size r.1

theorem code?_fenced {tags : List Text} {o : Opening} (ht : o.tag ∈ tags) (size offset : Nat)
    (head : Text) (body : List Text) (close : Option Text) :
    (fenced head o body close).code? tags size offset =
      some (.code o.tag body.flatten offset (stop size offset (fenced head o body close))) :=
  if_pos (List.contains_iff_mem.2 ht)

theorem code?_foreign {tags : List Text} {o : Opening} (ht : o.tag ∉ tags) (size offset : Nat)
    (head : Text) (body : List Text) (close : Option Text) :
    (fenced head o body close).code? tags size offset = none :=
  if_neg fun h => ht (List.contains_iff_mem.1 h)

theorem codes_cons_of_none {tags : List Text} {size offset : Nat} {r : Region}
    (h : r.code? tags size offset = none) (rs : List Region) :
    codes tags size offset (r :: rs) = codes tags size (offset + Text.size r.text) rs :=
  List.filterMap_cons_none h

theorem codes_cons_of_some {tags : List Text} {size offset : Nat} {r : Region} {b : Block}
    (h : r.code? tags size offset = some b) (rs : List Region) :
    codes tags size offset (r :: rs) = b :: codes tags size (offset + Text.size r.text) rs :=
  List.filterMap_cons_some h

end Region

namespace Block

theorem filter_isCode_place_code (tag body covered : Text) (segments : List Segment)
    (offset : Nat) :
    (place offset (.code tag body covered :: segments)).filter isCode =
      code tag body offset (offset + Text.size covered) ::
        (place (offset + Text.size covered) segments).filter isCode := rfl

/-- Prose in front of segments moves their code, and adds none. -/
theorem filter_isCode_place_addProse (t : Text) (segments : List Segment) (offset : Nat) :
    (place offset (Segment.addProse t segments)).filter isCode =
      (place (offset + Text.size t) segments).filter isCode := by
  cases segments with
  | nil =>
    cases t with
    | nil => rfl
    | cons c t => rfl
  | cons s rest =>
    cases s with
    | prose u => simp [Segment.addProse, place, isCode, Nat.add_assoc]
    | code tag body covered =>
      cases t with
      | nil => rfl
      | cons c t => rfl

/-- The code of a scan that starts at `offset` is the code among the regions. -/
theorem filter_isCode_place {tags : List Text} {lines : List Text} {rs : List Region}
    (h : Region.Cut lines rs) {offset size : Nat} (hs : offset + Text.size lines.flatten = size) :
    (place offset (Segment.ofRegions tags rs)).filter isCode =
      Region.codes tags size offset rs := by
  induction h generalizing offset with
  | nil => rfl
  | @plain line lines rs _ _ ih =>
    have hs' : offset + Text.size line + Text.size lines.flatten = size := by
      simpa [Nat.add_assoc] using hs
    rw [Segment.ofRegions, filter_isCode_place_addProse, Region.codes_cons_of_none rfl]
    exact ih hs'
  | @closed head o body close lines rs _ _ _ _ ih =>
    have hs' : offset + Text.size (Region.fenced head o body (some close)).text
        + Text.size lines.flatten = size := by
      simpa [Region.text, Nat.add_assoc] using hs
    by_cases ht : o.tag ∈ tags
    · -- The breaks of the closing line are no part of the block; they start the prose after it.
      have hclose : offset + Text.size (head ++ body.flatten ++ Text.dropBreaks close)
          + Text.size (Text.breaks close)
          = offset + Text.size (Region.fenced head o body (some close)).text := by
        have := congrArg Text.size (Text.dropBreaks_append_breaks close)
        simp only [Region.text, Option.getD_some, Text.size_append] at this ⊢
        omega
      rw [Segment.ofRegions, if_pos ht, filter_isCode_place_code, filter_isCode_place_addProse,
        Region.codes_cons_of_some (Region.code?_fenced ht ..), Option.getD_some, hclose, ih hs',
        Region.stop]
    · rw [Segment.ofRegions, if_neg ht, filter_isCode_place_addProse,
        Region.codes_cons_of_none (Region.code?_foreign ht ..), ih hs']
  | @unclosed head o body _ _ =>
    have hs' : offset + Text.size (head ++ body.flatten) = size := by simpa using hs
    by_cases ht : o.tag ∈ tags
    · rw [Segment.ofRegions, if_pos ht, filter_isCode_place_code,
        Region.codes_cons_of_some (Region.code?_fenced ht ..)]
      simp [Segment.ofRegions, Segment.addProse, place, Region.codes, Region.placed, Region.stop,
        Text.breaks, Text.dropBreaks, Text.dropEndWhile, ← hs']
    · rw [Segment.ofRegions, if_neg ht, filter_isCode_place_addProse,
        Region.codes_cons_of_none (Region.code?_foreign ht ..)]
      rfl

/-- The code that a scan returns is the code among the regions of the document. -/
theorem filter_isCode_scan (tags : List Text) (t : Text) :
    (scan tags t).filter isCode = Region.codes tags (Text.size t) 0 (Region.ofText t) :=
  filter_isCode_place (Region.cut_ofLines (Text.fullLines t)) (by simp)

/-- A document has one list of lines, these fall into regions in one way, and the code that a scan
returns is one block for each region that is a fence with one of the tags: in the order of the
document, with the lines inside as its text, from the opening line to the end of the closing line
without its breaks or, where there is none, to the end of the document. -/
theorem scan_code_of_unique_cut (tags : List Text) (t : Text) :
    ∃ lines rs, (∀ ls, Text.FullLines ls ∧ ls.flatten = t ↔ ls = lines) ∧
      (∀ rs', Region.Cut lines rs' ↔ rs' = rs) ∧
      (scan tags t).filter isCode = Region.codes tags (Text.size t) 0 rs := by
  refine ⟨Text.fullLines t, Region.ofText t, fun ls => ?_, fun rs' => ?_, ?_⟩
  · rw [← Text.fullLines_eq_iff, eq_comm]
  · exact Region.cut_iff
  · exact filter_isCode_scan tags t

end Block
end GuideBundles
