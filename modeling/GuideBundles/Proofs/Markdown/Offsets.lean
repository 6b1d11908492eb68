/-
# `Proofs.Markdown.Offsets` — scanning a document by byte offsets

A scan can go through a document line by line and remember nothing but byte offsets: where the prose
that waits began, where the open fence began, and where its lines did.  When a fence is closed it
cuts the document at these offsets, and there is an answer only if each of them is a boundary and
none is behind its end.  `Block.scanByOffset?_eq` says that there always is an answer, and that it
is the scan.
-/
import GuideBundles.Proofs.Markdown.Tiling
import GuideBundles.Proofs.Text.Offsets

namespace GuideBundles

open Text (size dropBreaks slice?)

/-! ## Opening lines -/

theorem Text.size_takeWhile_of_lt {d : Char} (hd : d.utf8Size = 1) (t : Text) :
    size (t.takeWhile (· == d)) = (t.takeWhile (· == d)).length := by
  induction t with
  | nil => rfl
  | cons c t ih =>
    rw [List.takeWhile_cons]
    split
    · next hc =>
      obtain rfl : c = d := beq_iff_eq.1 hc
      rw [size_cons, ih, hd, List.length_cons, Nat.add_comm]
    · rfl

namespace Fence

/-- The opening that a line is: its backticks are counted in bytes, and the line is cut behind them.
There is no answer if it cannot be cut there. -/
def openingByOffset? (line : Text) : Option (Option Opening) :=
  let t := Text.trimStart line
  let ticks := ((Text.bytes t).takeWhile (· == '`'.toUInt8)).length
  if ticks < 3 then some none
  else (slice? ticks (size t) t).map fun rest =>
    let info := Text.trim rest
    if '`' ∈ info then none else some ⟨ticks, Text.firstWord info⟩

/-- A line can always be cut behind its backticks. -/
theorem openingByOffset?_eq (line : Text) : openingByOffset? line = some (opening? line) := by
  have hticks := Text.length_takeWhile_bytes (d := '`') (by decide) (Text.trimStart line)
  have hslice : slice? ((Text.trimStart line).takeWhile (· == '`')).length
      (size (Text.trimStart line)) (Text.trimStart line)
        = some ((Text.trimStart line).dropWhile (· == '`')) := by
    refine Text.slice?_eq_some_iff.2 ⟨(Text.trimStart line).takeWhile (· == '`'), [], ?_, ?_, ?_⟩
    · rw [List.append_nil, List.takeWhile_append_dropWhile]
    · exact Text.size_takeWhile_of_lt (by decide) _
    · rw [List.takeWhile_append_dropWhile]
  rw [openingByOffset?, opening?]
  simp only [hticks, hslice, Option.map_some]
  split
  · next hfew => rw [if_pos (.inl hfew)]
  · next hfew =>
    split
    · next hmem => rw [if_pos (.inr hmem)]
    · next hmem => rw [if_neg (by simp [hfew, hmem])]

end Fence

/-! ## The scan -/

namespace Block

/-- A fence that a scan is in: what its opening line says, whether its tag is one of those looked
for, and the offsets where it and its lines start. -/
structure OpenFence where
  opening : Opening
  matched : Bool
  start : Nat
  bodyStart : Nat

/-- What a scan remembers: the blocks that it has made, where the prose behind them starts, where
the next line starts, and the fence that is open. -/
structure ScanState where
  blocks : List Block
  proseStart : Nat
  offset : Nat
  fence : Option OpenFence

/-- Blocks with the prose between two offsets of a document, if there is any between them. -/
def pushProse? (t : Text) (start stop : Nat) (blocks : List Block) : Option (List Block) :=
  if start < stop then (slice? start stop t).map fun u => blocks ++ [.prose u start stop]
  else some blocks

/-- Blocks with the fence whose lines end at one offset and which itself ends at another, and with
the prose in front of it. -/
def pushFence? (t : Text) (s : ScanState) (f : OpenFence) (bodyStop stop : Nat) :
    Option (List Block) := do
  let blocks ← pushProse? t s.proseStart f.start s.blocks
  let body ← slice? f.bodyStart bodyStop t
  some (blocks ++ [.code f.opening.tag body f.start stop])

/-- What a scan remembers after one more line. -/
def step? (tags : List Text) (t : Text) (s : ScanState) (line : Text) : Option ScanState :=
  let next := s.offset + size line
  match s.fence with
  | none => (Fence.openingByOffset? line).map fun opening =>
    { s with
      offset := next
      fence := opening.map fun o => ⟨o, tags.contains o.tag, s.offset, next⟩ }
  | some f =>
    if !Fence.closes f.opening.ticks line then some { s with offset := next }
    else if !f.matched then some { s with offset := next, fence := none }
    else
      let stop := s.offset + size (dropBreaks line)
      (pushFence? t s f s.offset stop).map fun blocks => ⟨blocks, stop, next, none⟩

/-- The blocks of a document that ends here. -/
def finish? (t : Text) (s : ScanState) : Option (List Block) :=
  match s.fence with
  | none => pushProse? t s.proseStart (size t) s.blocks
  | some f =>
    if !f.matched then pushProse? t s.proseStart (size t) s.blocks
    else (pushFence? t s f (size t) (size t)).bind (pushProse? t (size t) (size t))

/-- The blocks of a document, cut out of it by byte offsets. -/
def scanByOffset? (tags : List Text) (t : Text) : Option (List Block) :=
  ((Text.fullLines t).foldlM (step? tags t) ⟨[], 0, 0, none⟩).bind (finish? t)

end Block

/-! ## It is always answered -/

theorem Segment.addProse_addProse (s u : Text) (segments : List Segment) :
    addProse s (addProse u segments) = addProse (s ++ u) segments := by
  cases segments with
  | nil =>
    cases u with
    | nil => rw [List.append_nil]; rfl
    | cons c u => simp [addProse]
  | cons first rest =>
    cases first with
    | prose v => simp [addProse]
    | code tag body covered =>
      cases u with
      | nil => rw [List.append_nil]; rfl
      | cons c u => simp [addProse]

namespace Block

variable {tags : List Text} {t : Text}

theorem place_append (offset : Nat) (front back : List Segment) : place offset (front ++ back) =
    place offset front ++ place (offset + size (front.flatMap Segment.text)) back := by
  induction front generalizing offset with
  | nil => rfl
  | cons s front ih =>
    cases s <;> simp [place, Segment.text, ih, Nat.add_assoc]

/-- Prose in front of code is a block of its own. -/
theorem place_addProse_code (offset : Nat) (u tag body covered : Text) (rest : List Segment) :
    place offset (Segment.addProse u (.code tag body covered :: rest)) =
      place offset (Segment.addProse u []) ++
        .code tag body (offset + size u) (offset + size u + size covered) ::
          place (offset + size u + size covered) rest := by
  have hcode : Segment.addProse u (.code tag body covered :: rest) =
      Segment.addProse u [] ++ .code tag body covered :: rest := by
    cases u <;> rfl
  rw [hcode, place_append, Segment.flatMap_text_addProse, List.flatMap_nil, List.append_nil, place]

/-- Prose that stands between two offsets is cut out between them. -/
theorem pushProse?_eq {done pending back : Text} (ht : done ++ pending ++ back = t)
    (blocks : List Block) : pushProse? t (size done) (size (done ++ pending)) blocks =
      some (blocks ++ place (size done) (Segment.addProse pending [])) := by
  cases pending with
  | nil => simp [pushProse?, Segment.addProse, place]
  | cons c u =>
    have hlt : size done < size (done ++ c :: u) := by
      have := c.utf8Size_pos
      rw [Text.size_append, Text.size_cons]
      omega
    rw [pushProse?, if_pos hlt, ← ht, Text.slice?_append]
    simp [Segment.addProse, place]

/-- A fence is cut out between the offsets that were remembered, behind the prose in front of it. -/
theorem pushFence?_eq {done pending head body rest : Text} {s : ScanState} {f : OpenFence}
    (ht : done ++ pending ++ head ++ body ++ rest = t) (hprose : s.proseStart = size done)
    (hstart : f.start = size (done ++ pending))
    (hbody : f.bodyStart = size (done ++ pending ++ head)) (stop : Nat) :
    pushFence? t s f (size (done ++ pending ++ head ++ body)) stop =
      some (s.blocks ++ place (size done) (Segment.addProse pending []) ++
        [.code f.opening.tag body (size (done ++ pending)) stop]) := by
  have hpush : pushProse? t (size done) (size (done ++ pending)) s.blocks =
      some (s.blocks ++ place (size done) (Segment.addProse pending [])) :=
    pushProse?_eq (by simpa using ht) s.blocks
  have hslice : slice? (size (done ++ pending ++ head)) (size (done ++ pending ++ head ++ body)) t =
      some body := by
    rw [← ht]
    exact Text.slice?_append _ _ _
  rw [pushFence?, hprose, hstart, hbody, hpush, hslice]
  rfl

/-- Lines that do not close a fence only move the offset. -/
theorem foldlM_body {f : OpenFence} {body : List Text}
    (hb : ∀ l ∈ body, Fence.closes f.opening.ticks l = false) (blocks : List Block)
    (proseStart offset : Nat) :
    body.foldlM (step? tags t) ⟨blocks, proseStart, offset, some f⟩ =
      some ⟨blocks, proseStart, offset + size body.flatten, some f⟩ := by
  induction body generalizing offset with
  | nil => rfl
  | cons l body ih =>
    have hl : step? tags t ⟨blocks, proseStart, offset, some f⟩ l =
        some ⟨blocks, proseStart, offset + size l, some f⟩ := by
      simp [step?, hb l List.mem_cons_self]
    rw [List.foldlM_cons, hl, Option.bind_eq_bind, Option.bind_some,
      ih fun l hl => hb l (List.mem_cons_of_mem _ hl)]
    simp [Nat.add_assoc]

/-- The line that closes a fence ends it, and with it a block if its tag is looked for. -/
theorem step?_close {f : OpenFence} {close : Text}
    (hc : Fence.closes f.opening.ticks close = true) (blocks : List Block)
    (proseStart offset : Nat) :
    step? tags t ⟨blocks, proseStart, offset, some f⟩ close =
      if f.matched then
        (pushFence? t ⟨blocks, proseStart, offset, some f⟩ f offset
          (offset + size (dropBreaks close))).map fun blocks =>
            ⟨blocks, offset + size (dropBreaks close), offset + size close, none⟩
      else some ⟨blocks, proseStart, offset + size close, none⟩ := by
  cases hm : f.matched <;> simp [step?, hc, hm]

/-- A document that ends in a fence ends the block too; there is no prose behind it. -/
theorem finish?_open (f : OpenFence) (blocks : List Block) (proseStart offset : Nat) :
    finish? t ⟨blocks, proseStart, offset, some f⟩ =
      if f.matched then pushFence? t ⟨blocks, proseStart, offset, some f⟩ f (size t) (size t)
      else pushProse? t proseStart (size t) blocks := by
  have hnone : pushProse? t (size t) (size t) = some := by
    funext blocks
    exact if_neg (Nat.lt_irrefl _)
  cases hm : f.matched <;> simp [finish?, hm, hnone]

/-! ### The lines of one region

Each lemma takes a scan that has read some text, `done` into blocks and `pending` not yet, over the
lines of a region. -/

variable {done pending head close rest : Text} {o : Opening} {body : List Text}

theorem step?_plain {line : Text} (ho : Fence.opening? line = none) (blocks : List Block) :
    step? tags t ⟨blocks, size done, size (done ++ pending), none⟩ line =
      some ⟨blocks, size done, size (done ++ (pending ++ line)), none⟩ := by
  rw [step?, Fence.openingByOffset?_eq, ho, ← List.append_assoc, Text.size_append _ line]
  rfl

theorem foldlM_open (ho : Fence.opening? head = some o)
    (hb : ∀ l ∈ body, Fence.closes o.ticks l = false) (blocks : List Block) (proseStart : Nat) :
    (head :: body).foldlM (step? tags t) ⟨blocks, proseStart, size (done ++ pending), none⟩ =
      some ⟨blocks, proseStart, size (done ++ pending ++ head ++ body.flatten),
        some ⟨o, tags.contains o.tag, size (done ++ pending), size (done ++ pending ++ head)⟩⟩ := by
  have hhead : step? tags t ⟨blocks, proseStart, size (done ++ pending), none⟩ head =
      some ⟨blocks, proseStart, size (done ++ pending ++ head),
        some ⟨o, tags.contains o.tag, size (done ++ pending), size (done ++ pending ++ head)⟩⟩ := by
    rw [step?, Fence.openingByOffset?_eq, ho, Text.size_append _ head]
    rfl
  rw [List.foldlM_cons, hhead, Option.bind_eq_bind, Option.bind_some, foldlM_body hb,
    ← Text.size_append]

/-- A closed fence that is looked for becomes a block, behind the prose in front of it; the line
break behind it waits. -/
theorem foldlM_closed_of_mem (ho : Fence.opening? head = some o)
    (hb : ∀ l ∈ body, Fence.closes o.ticks l = false) (hc : Fence.closes o.ticks close = true)
    (htag : o.tag ∈ tags)
    (ht : done ++ pending ++ head ++ body.flatten ++ (close ++ rest) = t) (blocks : List Block) :
    (head :: (body ++ [close])).foldlM (step? tags t)
        ⟨blocks, size done, size (done ++ pending), none⟩ =
      some ⟨blocks ++ place (size done) (Segment.addProse pending []) ++
          [.code o.tag body.flatten (size (done ++ pending))
            (size (done ++ pending ++ head ++ body.flatten ++ dropBreaks close))],
        size (done ++ pending ++ head ++ body.flatten ++ dropBreaks close),
        size (done ++ pending ++ head ++ body.flatten ++ dropBreaks close ++ Text.breaks close),
        none⟩ := by
  rw [List.append_assoc _ (dropBreaks close), Text.dropBreaks_append_breaks,
    Text.size_append _ close, Text.size_append _ (dropBreaks close), ← List.cons_append,
    List.foldlM_append, foldlM_open ho hb,
    Option.bind_eq_bind, Option.bind_some, List.foldlM_cons, step?_close hc,
    if_pos (List.contains_iff_mem.2 htag), pushFence?_eq ht rfl rfl rfl]
  rfl

/-- Any other closed fence waits with the prose around it. -/
theorem foldlM_closed_of_not_mem (ho : Fence.opening? head = some o)
    (hb : ∀ l ∈ body, Fence.closes o.ticks l = false) (hc : Fence.closes o.ticks close = true)
    (htag : o.tag ∉ tags) (blocks : List Block) :
    (head :: (body ++ [close])).foldlM (step? tags t)
        ⟨blocks, size done, size (done ++ pending), none⟩ =
      some ⟨blocks, size done,
        size (done ++ (pending ++ (Region.fenced head o body (some close)).text)), none⟩ := by
  rw [← List.cons_append, List.foldlM_append, foldlM_open ho hb, Option.bind_eq_bind,
    Option.bind_some, List.foldlM_cons, step?_close hc,
    if_neg fun h => htag (List.contains_iff_mem.1 h)]
  simp [Region.text, Nat.add_assoc]

/-- A fence that is not closed is cut out up to the end of the document. -/
theorem finish?_unclosed (ho : Fence.opening? head = some o)
    (hb : ∀ l ∈ body, Fence.closes o.ticks l = false)
    (ht : done ++ pending ++ head ++ body.flatten = t) (blocks : List Block) :
    ((head :: body).foldlM (step? tags t) ⟨blocks, size done, size (done ++ pending), none⟩).bind
        (finish? t) =
      some (blocks ++ place (size done)
        (Segment.addProse pending (Segment.ofRegions tags [.fenced head o body none]))) := by
  have hstop : size t = size (done ++ pending ++ head ++ body.flatten) := by rw [ht]
  rw [foldlM_open ho hb, Option.bind_some, finish?_open, hstop]
  by_cases htag : o.tag ∈ tags
  · have hfence : done ++ pending ++ head ++ body.flatten ++ [] = t := by simpa using ht
    rw [if_pos (List.contains_iff_mem.2 htag), pushFence?_eq hfence rfl rfl rfl,
      Segment.ofRegions, if_pos htag, place_addProse_code]
    simp [Segment.ofRegions, Segment.addProse, place, Text.breaks, Text.dropBreaks,
      Text.dropEndWhile, Nat.add_assoc]
  · have hregion : done ++ pending ++ head ++ body.flatten =
        done ++ (pending ++ (head ++ body.flatten)) := by simp
    have hprose : done ++ (pending ++ (head ++ body.flatten)) ++ [] = t := by simpa using ht
    rw [if_neg fun h => htag (List.contains_iff_mem.1 h), hregion, pushProse?_eq hprose,
      Segment.ofRegions, if_neg htag, Segment.addProse_addProse]
    simp [Region.text, Segment.ofRegions]

/-! ### All lines -/

/-- What was read makes up the text in front of the lines that are left: blocks for a part of it,
and prose that waits behind them. -/
theorem scan_lines {lines : List Text} {rs : List Region} (h : Region.Cut lines rs)
    {done pending : Text} (ht : done ++ pending ++ lines.flatten = t) (blocks : List Block) :
    (lines.foldlM (step? tags t) ⟨blocks, size done, size (done ++ pending), none⟩).bind
        (finish? t) =
      some (blocks ++
        place (size done) (Segment.addProse pending (Segment.ofRegions tags rs))) := by
  induction h generalizing done pending blocks with
  | nil =>
    have hstop : size t = size (done ++ pending) := by rw [← ht, List.flatten_nil, List.append_nil]
    show pushProse? t (size done) (size t) blocks = _
    rw [hstop, pushProse?_eq ht]
    rfl
  | plain ho _ ih =>
    rw [List.foldlM_cons, step?_plain ho, Option.bind_eq_bind, Option.bind_some,
      ih (by simpa using ht), Segment.ofRegions, Segment.addProse_addProse]
  | @closed head o body close lines rs ho hb hc _ ih =>
    have hlines : head :: (body ++ close :: lines) = head :: (body ++ [close]) ++ lines := by simp
    rw [hlines, List.foldlM_append]
    by_cases htag : o.tag ∈ tags
    · have hfence : done ++ pending ++ head ++ body.flatten ++ (close ++ lines.flatten) = t := by
        simpa using ht
      have hrest : done ++ pending ++ head ++ body.flatten ++ dropBreaks close ++ Text.breaks close
          ++ lines.flatten = t := by
        rw [List.append_assoc _ (dropBreaks close), Text.dropBreaks_append_breaks, ← hfence]
        simp
      rw [foldlM_closed_of_mem ho hb hc htag hfence, Option.bind_eq_bind, Option.bind_some,
        ih hrest,
        Segment.ofRegions, if_pos htag, place_addProse_code]
      simp [Nat.add_assoc]
    · rw [foldlM_closed_of_not_mem ho hb hc htag, Option.bind_eq_bind, Option.bind_some,
        ih (by simpa [Region.text] using ht), Segment.ofRegions, if_neg htag,
        Segment.addProse_addProse]
  | unclosed ho hb => exact finish?_unclosed ho hb (by simpa using ht) blocks

/-- Whatever the document is, all offsets are boundaries, and the blocks are those of the scan. -/
theorem scanByOffset?_eq (tags : List Text) (t : Text) :
    scanByOffset? tags t = some (scan tags t) := by
  have h : ((Text.fullLines t).foldlM (step? tags t) ⟨[], size [], size ([] ++ []), none⟩).bind
      (finish? t) = some ([] ++ place (size [])
        (Segment.addProse [] (Segment.ofRegions tags (Region.ofText t)))) :=
    scan_lines (Region.cut_ofLines (Text.fullLines t)) (Text.flatten_fullLines t) []
  have hnil (segments : List Segment) : Segment.addProse [] segments = segments := by
    cases segments with
    | nil => rfl
    | cons s rest => cases s <;> rfl
  rwa [hnil, List.nil_append] at h

end Block
end GuideBundles
