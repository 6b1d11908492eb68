/-
# `Proofs.Markdown.Agreement` — two ways of following fences agree

The tracker that finds the lines outside all fences looks at no tags and makes no blocks, yet it
agrees with a scan: none of its lines starts in code, whatever the tags are, and when all tags count
as code, its lines are just the lines that start outside of it.  So no heading that matters is part
of code.
-/
import GuideBundles.Proofs.Markdown.Extracted
import GuideBundles.Proofs.Markdown.ProseLines

namespace GuideBundles

/-! ## Agreement with a scan -/

namespace Block

/-- Whether a block is code and a byte offset lies in it. -/
def covers (k : Nat) (b : Block) : Bool := b.isCode && decide (b.start ≤ k ∧ k < b.stop)

/-- Whether a byte offset lies in the code among blocks. -/
def inCode (blocks : List Block) (k : Nat) : Bool := blocks.any (covers k)

theorem inCode_filter_isCode (blocks : List Block) (k : Nat) :
    inCode (blocks.filter isCode) k = inCode blocks k := by
  rw [inCode, List.any_filter, inCode]
  congr 1
  funext b
  cases b <;> rfl

theorem inCode_cons_of_stop_le {b : Block} {k : Nat} (h : b.stop ≤ k) (blocks : List Block) :
    inCode (b :: blocks) k = inCode blocks k := by
  rw [inCode, List.any_cons, covers, decide_eq_false (by omega), Bool.and_false, Bool.false_or]
  rfl

theorem le_start_of_mem_codes {tags : List Text} {size offset : Nat} {rs : List Region} {b : Block}
    (h : b ∈ Region.codes tags size offset rs) : offset ≤ b.start := by
  induction rs generalizing offset with
  | nil => cases h
  | cons r rs ih =>
    cases hr : r.code? tags size offset with
    | none =>
      rw [Region.codes_cons_of_none hr] at h
      have := ih h
      omega
    | some b' =>
      rw [Region.codes_cons_of_some hr] at h
      rcases List.mem_cons.1 h with rfl | h
      · cases r with
        | plain line => cases hr
        | fenced head o body close =>
          rw [Region.code?] at hr
          split at hr
          · obtain rfl := Option.some.inj hr
            exact Nat.le_refl _
          · cases hr
      · have := ih h
        omega

/-- No code lies in front of the offset where it starts. -/
theorem inCode_codes_of_lt {tags : List Text} {size offset k : Nat} (rs : List Region)
    (h : k < offset) : inCode (Region.codes tags size offset rs) k = false := by
  refine List.any_eq_false.2 ?_
  intro b hb
  have := le_start_of_mem_codes hb
  simp only [covers, Bool.and_eq_true, decide_eq_true_eq, not_and]
  omega

variable {tags : List Text} {size offset : Nat} {lines : List Text} {rs : List Region}

/-- A closing line has more to it than its line end. -/
theorem size_dropBreaks_pos {ticks : Nat} {close : Text} (hticks : 0 < ticks)
    (h : Fence.closes ticks close = true) : 0 < Text.size (Text.dropBreaks close) := by
  obtain ⟨hlength, hall⟩ := Bool.and_eq_true_iff.1 h
  have hne : Text.trim close ≠ [] :=
    List.ne_nil_of_length_pos (Nat.lt_of_lt_of_le hticks (of_decide_eq_true hlength))
  obtain ⟨c, hc⟩ := List.exists_mem_of_ne_nil _ hne
  have htick : Text.isBreak c = false := by
    rw [beq_iff_eq.1 (List.all_eq_true.1 hall c hc)]
    rfl
  refine Nat.pos_of_ne_zero fun hzero => ?_
  have hbreaks := Text.dropBreaks_append_breaks close
  rw [Text.size_eq_zero_iff.1 hzero, List.nil_append] at hbreaks
  have hmem : c ∈ Text.breaks close := hbreaks.symm ▸ (Text.trim_sublist close).subset hc
  rw [List.mem_takeWhile_imp (List.mem_reverse.1 hmem)] at htick
  cases htick

/-- A fence that is closed is behind what comes after it. -/
theorem stop_closed_le (size offset : Nat) (head : Text) (o : Opening) (body : List Text)
    (close : Text) : Region.stop size offset (.fenced head o body (some close)) ≤
      offset + Text.size (Region.fenced head o body (some close)).text := by
  have := congrArg Text.size (Text.dropBreaks_append_breaks close)
  simp only [Region.stop, Region.text, Option.getD_some, Text.size_append] at this ⊢
  omega

/-- No line outside all fences starts in code. -/
theorem inCode_of_mem_proseFrom (h : Region.Cut lines rs) (hne : ∀ l ∈ lines, l ≠ [])
    {x : Nat × Text} (hx : x ∈ Fence.proseFrom none offset lines) :
    inCode (Region.codes tags size offset rs) x.1 = false := by
  induction h generalizing offset with
  | nil => cases hx
  | @plain line lines rs ho _ ih =>
    rw [Fence.proseFrom_plain ho] at hx
    rw [Region.codes_cons_of_none rfl]
    rcases List.mem_cons.1 hx with rfl | hx
    · have hsize : Text.size line ≠ 0 := fun h =>
        hne line List.mem_cons_self (Text.size_eq_zero_iff.1 h)
      refine inCode_codes_of_lt rs ?_
      simp only [Region.text]
      omega
    · exact ih (fun l hl => hne l (List.mem_cons_of_mem _ hl)) hx
  | @closed head o body close lines rs ho hb hc hcut ih =>
    rw [Fence.proseFrom_closed ho hb hc] at hx
    have hrest := ih (fun l hl => hne l (by simp [hl])) hx
    have hstart := Fence.le_of_mem_proseFrom hcut hx
    by_cases ht : o.tag ∈ tags
    · rw [Region.codes_cons_of_some (Region.code?_fenced ht ..), inCode_cons_of_stop_le]
      · exact hrest
      · exact (stop_closed_le size offset head o body close).trans hstart
    · rw [Region.codes_cons_of_none (Region.code?_foreign ht ..)]
      exact hrest
  | unclosed ho hb =>
    rw [Fence.proseFrom_unclosed ho hb] at hx
    cases hx

theorem pos_ticks_of_opening {line : Text} {o : Opening} (h : Fence.opening? line = some o) :
    0 < o.ticks := by
  unfold Fence.opening? at h
  dsimp only at h
  split at h
  · cases h
  · next hticks =>
    obtain rfl := Option.some.inj h
    show 0 < List.length _
    omega

/-- All lines of a fence start in its block. -/
theorem covers_of_mem_numbered {tag : Text} {text : Text} {ls : List Text} {stop : Nat}
    {x : Nat × Text} (hx : x ∈ Text.numbered offset ls) (hstop : x.1 < stop) :
    covers x.1 (.code tag text offset stop) = true := by
  obtain ⟨-, hstart, -⟩ := Text.bounds_of_mem_numbered hx
  simp [covers, isCode, Block.start, Block.stop, hstart, hstop]

/-- No line of a fence that is closed starts outside its block: not even the closing line, which
ends only after some backticks. -/
theorem filter_inCode_closed {head : Text} {o : Opening} {body : List Text} {close : Text}
    (ho : 0 < o.ticks) (hc : Fence.closes o.ticks close = true) (size offset : Nat)
    (blocks : List Block) : ((Text.numbered offset (head :: body ++ [close])).filter fun x =>
      !inCode (.code o.tag body.flatten offset
        (Region.stop size offset (.fenced head o body (some close))) :: blocks) x.1) = [] := by
  refine List.filter_eq_nil_iff.2 fun x hx => ?_
  have hclose := size_dropBreaks_pos ho hc
  have hstop : x.1 < Region.stop size offset (.fenced head o body (some close)) := by
    have hbefore : x.1 ≤ offset + Text.size (head :: body).flatten := by
      have hx' := hx
      rw [Text.numbered_append] at hx'
      rcases List.mem_append.1 hx' with hx' | hx'
      · obtain ⟨-, -, hend⟩ := Text.bounds_of_mem_numbered hx'
        omega
      · rw [List.mem_singleton.1 hx']
    rw [List.flatten_cons] at hbefore
    rw [Region.stop, Text.size_append]
    omega
  rw [inCode, List.any_cons, covers_of_mem_numbered hx hstop]
  simp

/-- When all fences are code, the lines outside all fences are the lines that do not start in
code. -/
theorem proseFrom_eq_filter (h : Region.Cut lines rs) (hne : ∀ l ∈ lines, l ≠ [])
    (hs : offset + Text.size lines.flatten = size)
    (htags : ∀ head o body close, .fenced head o body close ∈ rs → o.tag ∈ tags) :
    Fence.proseFrom none offset lines = ((Text.numbered offset lines).filter fun x =>
      !inCode (Region.codes tags size offset rs) x.1).map fun x => (x.1, Text.dropBreaks x.2) := by
  induction h generalizing offset with
  | nil => rfl
  | @plain line lines rs ho _ ih =>
    have hfree : inCode (Region.codes tags size (offset + Text.size line) rs) offset = false := by
      refine inCode_codes_of_lt rs ?_
      have := Text.size_eq_zero_iff.not.2 (hne line List.mem_cons_self)
      omega
    rw [Fence.proseFrom_plain ho, Region.codes_cons_of_none rfl, Text.numbered,
      List.filter_cons_of_pos (by simp [Region.text, hfree]), List.map_cons,
      ih (fun l hl => hne l (List.mem_cons_of_mem _ hl)) (by simpa [Nat.add_assoc] using hs)
        fun _ _ _ _ hr => htags _ _ _ _ (List.mem_cons_of_mem _ hr)]
    rfl
  | @closed head o body close lines rs ho hb hc _ ih =>
    have ht : o.tag ∈ tags := htags _ _ _ _ List.mem_cons_self
    have hsplit : head :: (body ++ close :: lines) = (head :: body ++ [close]) ++ lines := by simp
    have hflat : (head :: body ++ [close]).flatten =
        (Region.fenced head o body (some close)).text := by simp [Region.text]
    have hs' : offset + Text.size (Region.fenced head o body (some close)).text
        + Text.size lines.flatten = size := by
      rw [hsplit, List.flatten_append, hflat, Text.size_append] at hs
      omega
    have hrest := ih (fun l hl => hne l (by simp [hl])) hs'
      fun _ _ _ _ hr => htags _ _ _ _ (List.mem_cons_of_mem _ hr)
    have hbehind : ∀ x ∈ Text.numbered
        (offset + Text.size (Region.fenced head o body (some close)).text) lines,
          Region.stop size offset (.fenced head o body (some close)) ≤ x.1 := by
      intro x hx
      obtain ⟨-, hstart, -⟩ := Text.bounds_of_mem_numbered hx
      exact (stop_closed_le size offset head o body close).trans hstart
    rw [Fence.proseFrom_closed ho hb hc, Region.codes_cons_of_some (Region.code?_fenced ht ..),
      hsplit, Text.numbered_append, hflat, List.filter_append,
      filter_inCode_closed (pos_ticks_of_opening ho) hc, List.nil_append, hrest]
    congr 1
    refine List.filter_congr fun x hx => ?_
    rw [inCode_cons_of_stop_le (hbehind x hx)]
  | @unclosed head o body ho hb =>
    have ht : o.tag ∈ tags := htags _ _ _ _ List.mem_cons_self
    rw [Fence.proseFrom_unclosed ho hb, Region.codes_cons_of_some (Region.code?_fenced ht ..),
      List.filter_eq_nil_iff.2 ?_, List.map_nil]
    intro x hx
    obtain ⟨hmem, -, hend⟩ := Text.bounds_of_mem_numbered hx
    have := Text.size_eq_zero_iff.not.2 (hne _ hmem)
    rw [inCode, List.any_cons, covers_of_mem_numbered hx (by rw [Region.stop]; omega)]
    simp

end Block

/-! ## As a whole -/

/-- No line of a text is empty. -/
theorem Text.FullLines.ne_nil {lines : List Text} (h : FullLines lines) : ∀ l ∈ lines, l ≠ [] := by
  induction h with
  | nil => exact nofun
  | last hne _ => simpa using hne
  | cons _ _ ih => simpa using ih

namespace Block

open Fence (proseLines)
open Heading (title?)

/-- The two ways of following fences agree.  Whatever the tags are, no line outside all fences
starts in code; and when all fences have one of the tags, these lines are just the lines of the
document that do not start in code, with their byte offsets.  In particular the title comes from a
line that does not start in code, and so does the heading that ends the description, if there is
one. -/
theorem proseLines_agree (tags : List Text) (t : Text) :
    (∀ x ∈ proseLines t, inCode (scan tags t) x.1 = false) ∧
    ((∀ head o body close, .fenced head o body close ∈ Region.ofText t → o.tag ∈ tags) →
      proseLines t = ((Text.numbered 0 (Text.fullLines t)).filter fun x =>
        !inCode (scan tags t) x.1).map fun x => (x.1, Text.dropBreaks x.2)) ∧
    ∀ title, (Heading.extract t).title = some title → ∃ before offset line after text,
      proseLines t = before ++ (offset, line) :: after ∧
      (∀ x ∈ before, title? x.2 = none) ∧ title? line = some title ∧
      Text.slice? (offset + Text.size line) (Heading.stop (Text.size t) after) t = some text ∧
      (Heading.extract t).description = Text.trim text ∧
      inCode (scan tags t) offset = false ∧
      ∀ x, after.find? (fun x => isHeading x.2) = some x → inCode (scan tags t) x.1 = false := by
  have hcut : Region.Cut (Text.fullLines t) (Region.ofText t) := Region.cut_ofLines _
  have hne := (Text.fullLines_fullLines t).ne_nil
  have hcode (k : Nat) : inCode (scan tags t) k =
      inCode (Region.codes tags (Text.size t) 0 (Region.ofText t)) k := by
    rw [← filter_isCode_scan, inCode_filter_isCode]
  have hprose : ∀ x ∈ proseLines t, inCode (scan tags t) x.1 = false := by
    intro x hx
    rw [hcode]
    exact inCode_of_mem_proseFrom hcut hne hx
  refine ⟨hprose, ?_, ?_⟩
  · intro htags
    simp only [hcode]
    exact proseFrom_eq_filter hcut hne (by rw [Nat.zero_add, Text.flatten_fullLines]) htags
  · intro title htitle
    obtain ⟨before, offset, line, after, text, hlines, hbefore, hline, hslice, hdesc⟩ :=
      Heading.exists_line_of_title hcut [] htitle
    rw [List.nil_append, Text.flatten_fullLines] at hslice
    change proseLines t = _ at hlines
    refine ⟨before, offset, line, after, text, hlines, hbefore, hline, hslice, hdesc, ?_, ?_⟩
    · exact hprose (offset, line) (by rw [hlines]; simp)
    · intro x hx
      exact hprose x (by rw [hlines]; simp [List.mem_of_find?_eq_some hx])

/-- A fence inside a fence, and a title in front of both. -/
theorem proseLines_agree_nested :
    let t := Text.ofString "# A\n````bash\n```python\n````\n## B\n"
    let tags := [Text.ofString "bash"]
    (∀ head o body close, .fenced head o body close ∈ Region.ofText t → o.tag ∈ tags) ∧
      (Heading.extract t).title = some ['A'] ∧
      (((Text.numbered 0 (Text.fullLines t)).filter fun x => !inCode (scan tags t) x.1).map
        fun x => (x.1, Text.dropBreaks x.2)) =
          [(0, Text.ofString "# A"), (28, Text.ofString "## B")] ∧
      ∃ offset line, (offset, line) ∈ proseLines t ∧ title? line = some ['A'] ∧
        inCode (scan tags t) offset = false := by
  intro t tags
  have hregions : Region.ofText t = [.plain (Text.ofString "# A\n"),
      .fenced (Text.ofString "````bash\n") ⟨4, Text.ofString "bash"⟩ [Text.ofString "```python\n"]
        (some (Text.ofString "````\n")), .plain (Text.ofString "## B\n")] := by decide +kernel
  have htags : ∀ head o body close, .fenced head o body close ∈ Region.ofText t → o.tag ∈ tags := by
    intro head o body close hmem
    rw [hregions] at hmem
    obtain ⟨-, rfl, -, -⟩ : _ ∧ _ ∧ _ ∧ _ := by simpa using hmem
    exact List.mem_singleton_self _
  have htitle : (Heading.extract t).title = some ['A'] := by decide +kernel
  obtain ⟨-, hlines, hfirst⟩ := proseLines_agree tags t
  obtain ⟨before, offset, line, after, -, hsplit, -, hline, -, -, hout, -⟩ := hfirst _ htitle
  refine ⟨htags, htitle, ?_, offset, line, by rw [hsplit]; simp, hline, hout⟩
  rw [← hlines htags]
  decide +kernel

end Block

end GuideBundles
