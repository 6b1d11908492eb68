/-
# `Proofs.Markdown.Cuts` — a document can be cut wherever it is read

Everything that is read from a document can be read by byte offsets and line numbers: the
description is cut out between two of them, and a link looks at the byte before it.  Each such step
has an answer only if the offsets are boundaries inside the text, none behind its end, and the line
or the byte is there; without one nothing is read at all.  `Document.ofTextByOffset?_eq` says that
every document is read, whatever its characters are, and that what is read is what it says.
-/
import GuideBundles.Proofs.Markdown.Heading
import GuideBundles.Proofs.Markdown.Offsets

namespace GuideBundles

open Text (size dropBreaks slice?)

/-! ## Title and description -/

namespace Fence

/-- The lines outside all fences, where opening lines are read by offsets. -/
def proseByOffset? : Option Nat → Nat → List Text → Option (List (Nat × Text))
  | _, _, [] => some []
  | some ticks, offset, line :: rest =>
    proseByOffset? (if closes ticks line then none else some ticks) (offset + size line) rest
  | none, offset, line :: rest =>
    (openingByOffset? line).bind fun opening =>
      match opening with
      | some o => proseByOffset? (some o.ticks) (offset + size line) rest
      | none =>
        (proseByOffset? none (offset + size line) rest).map ((offset, dropBreaks line) :: ·)

theorem proseByOffset?_eq (ticks : Option Nat) (offset : Nat) (lines : List Text) :
    proseByOffset? ticks offset lines = some (proseFrom ticks offset lines) := by
  induction lines generalizing ticks offset with
  | nil => cases ticks <;> rfl
  | cons line rest ih =>
    cases ticks with
    | some ticks => exact ih _ _
    | none =>
      rw [proseByOffset?, openingByOffset?_eq, Option.bind_some]
      cases ho : opening? line with
      | some o =>
        rw [proseFrom_head ho]
        exact ih _ _
      | none =>
        rw [proseFrom_plain ho, ih]
        rfl

end Fence

namespace Heading

/-- The number of the first line that gives a title, with the title; the first line has the given
number. -/
def titleFrom? (i : Nat) : List (Nat × Text) → Option (Nat × Text)
  | [] => none
  | x :: rest =>
    match title? x.2 with
    | some title => some (i, title)
    | none => titleFrom? (i + 1) rest

/-- Title and description of a document.  The line of the title is looked up by its number, the
lines behind it are those from the next number on, and the description is cut out between the end of
that line and the first heading among these. -/
def extractByOffset? (t : Text) : Option Heading := do
  let lines ← Fence.proseByOffset? none 0 (Text.fullLines t)
  match titleFrom? 0 lines with
  | none => some ⟨none, []⟩
  | some (i, title) =>
    let line ← lines[i]?
    let behind ← if i + 1 ≤ lines.length then some (lines.drop (i + 1)) else none
    let body ← slice? (min (line.1 + size line.2) (size t)) (stop (size t) behind) t
    some ⟨some title, Text.trim body⟩

theorem titleFrom?_eq_none {lines : List (Nat × Text)} (h : ∀ x ∈ lines, title? x.2 = none)
    (i : Nat) : titleFrom? i lines = none := by
  induction lines generalizing i with
  | nil => rfl
  | cons x rest ih =>
    rw [titleFrom?, h x List.mem_cons_self]
    exact ih (fun y hy => h y (List.mem_cons_of_mem _ hy)) _

theorem titleFrom?_append {before after : List (Nat × Text)} {x : Nat × Text} {title : Text}
    (h : ∀ y ∈ before, title? y.2 = none) (hx : title? x.2 = some title) (i : Nat) :
    titleFrom? i (before ++ x :: after) = some (i + before.length, title) := by
  induction before generalizing i with
  | nil =>
    rw [List.nil_append, titleFrom?, hx]
    rfl
  | cons y before ih =>
    rw [List.cons_append, titleFrom?, h y List.mem_cons_self]
    simp only
    rw [ih (fun z hz => h z (List.mem_cons_of_mem _ hz)), List.length_cons]
    congr 2
    omega

/-- The line of the title is there, and the description can be cut out behind it. -/
theorem extractByOffset?_eq (t : Text) : extractByOffset? t = some (extract t) := by
  rw [extractByOffset?, Fence.proseByOffset?_eq, Option.bind_eq_bind, Option.bind_some]
  cases htitle : (extract t).title with
  | none =>
    have hnone : extract t = ⟨none, []⟩ := ofRegions_of_title htitle
    have hlines := (ofRegions_eq_none_iff (Region.cut_ofLines (Text.fullLines t)) 0).1 hnone
    rw [titleFrom?_eq_none hlines, hnone]
  | some title =>
    obtain ⟨before, offset, line, after, piece, hlines, hbefore, hline, hslice, hdesc⟩ :=
      exists_line_of_title (Region.cut_ofLines (Text.fullLines t)) [] htitle
    rw [Text.size_nil] at hlines
    rw [List.nil_append, Text.flatten_fullLines] at hslice
    have hinside : offset + size line ≤ size t := by
      obtain ⟨hle, hsize, -, -⟩ := Text.isSome_slice?_iff.1 (Option.isSome_of_eq_some hslice)
      omega
    have hheading : extract t = ⟨some title, Text.trim piece⟩ := by
      rw [← htitle, ← hdesc]
      rfl
    have hfirst : titleFrom? 0 (before ++ (offset, line) :: after) =
        some (0 + before.length, title) := titleFrom?_append hbefore hline 0
    rw [Nat.zero_add] at hfirst
    have hthere : (before ++ (offset, line) :: after)[before.length]? = some (offset, line) := by
      simp
    have hnumber : before.length + 1 ≤ (before ++ (offset, line) :: after).length := by simp
    have hbehind : (before ++ (offset, line) :: after).drop (before.length + 1) = after := by simp
    simp only [hlines, hfirst, hthere, if_pos hnumber, hbehind, Nat.min_eq_left hinside, hslice,
      hheading, Option.bind_eq_bind, Option.bind_some]

end Heading

/-! ## Links -/

namespace Link

/-- The targets of all link forms of a text after its first `skip` characters, each with the byte
offset at which its form starts. -/
def formsFrom (skip offset : Nat) : Text → List (Nat × Text)
  | [] => []
  | c :: t =>
    match skip with
    | skip + 1 => formsFrom skip (offset + c.utf8Size) t
    | 0 =>
      match read? (c :: t) with
      | some (target, rest) =>
        (offset, target) :: formsFrom (t.length - rest.length) (offset + c.utf8Size) t
      | none => formsFrom 0 (offset + c.utf8Size) t

/-- Whether the byte before an offset is an exclamation mark; at the start of a text it is not. -/
def isMarkedAt? (t : Text) (offset : Nat) : Option Bool :=
  if offset = 0 then some false else (Text.bytes t)[offset - 1]?.map (· == '!'.toUInt8)

/-- The targets of the forms without a mark before them. -/
def unmarked? (t : Text) : List (Nat × Text) → Option (List Text)
  | [] => some []
  | (offset, target) :: rest => do
    let marked ← isMarkedAt? t offset
    let targets ← unmarked? t rest
    some (if marked then targets else target :: targets)

/-- The links of a text, told by the byte before each. -/
def extractByOffset? (t : Text) : Option (List Reference) :=
  (unmarked? t (formsFrom 0 0 t)).map fun targets => (targets.filter Url.isWeb).map Reference.link

/-- The byte before a link is there, and it is that of an exclamation mark if the character is
one. -/
theorem isMarkedAt?_append (front back : Text) :
    isMarkedAt? (front ++ back) (size front) = some (decide (front.getLast? = some '!')) := by
  by_cases hnil : front = []
  · subst hnil
    rfl
  · have hpos : size front ≠ 0 := mt Text.size_eq_zero_iff.1 hnil
    obtain ⟨b, hb, hmark⟩ := Text.exists_byte_before (d := '!') (by decide) hnil back
    rw [isMarkedAt?, if_neg hpos, hb, Option.map_some, Option.some.injEq, Bool.beq_eq_decide_eq,
      decide_eq_decide]
    exact hmark

theorem unmarked?_forms {front t : Text} {last : Char}
    (hlast : front.getLast? = some '!' ↔ last = '!') (skip : Nat) :
    unmarked? (front ++ t) (formsFrom skip (size front) t) = some (targetsFrom skip last t) := by
  induction t generalizing front last skip with
  | nil => rfl
  | cons c t ih =>
    have hnext (skip : Nat) :
        unmarked? (front ++ c :: t) (formsFrom skip (size front + c.utf8Size) t)
          = some (targetsFrom skip c t) := by
      have h : unmarked? (front ++ [c] ++ t) (formsFrom skip (size (front ++ [c])) t) =
          some (targetsFrom skip c t) := ih (by simp) skip
      simpa using h
    cases skip with
    | succ skip => exact hnext skip
    | zero =>
      rw [formsFrom, targetsFrom]
      cases hread : read? (c :: t) with
      | none => exact hnext 0
      | some x =>
        obtain ⟨target, rest⟩ := x
        simp only [unmarked?, isMarkedAt?_append, hnext, hlast]
        by_cases hbang : last = '!' <;> simp [hbang]

theorem extractByOffset?_eq (t : Text) : extractByOffset? t = some (extract t) := by
  have h : unmarked? ([] ++ t) (formsFrom 0 (size []) t) = some (targetsFrom 0 '\n' t) :=
    unmarked?_forms (by simp) 0
  rw [Text.size_nil, List.nil_append] at h
  rw [extractByOffset?, extract, h, Option.map_some]

end Link

/-! ## Documents -/

/-- The code blocks of one dialect, from blocks that were cut out by offsets. -/
def CodeBlock.extractByOffset? (tags : List Text) (d : Dialect) (t : Text) :
    Option (List CodeBlock) :=
  (Block.scanByOffset? tags t).map (collect d [])

namespace Document

/-- What a text says, read by byte offsets. -/
def ofTextByOffset? (tags : FenceTags) (t : Text) : Option Document := do
  let heading ← Heading.extractByOffset? t
  let snippets ← CodeBlock.extractByOffset? tags.snippet .snippet t
  let commands ← CodeBlock.extractByOffset? tags.command .command t
  let links ← Link.extractByOffset? t
  some ⟨heading, snippets, commands, links, Image.extract t⟩

/-- Every document can be read by byte offsets, with any tags: all offsets at which it is cut are
boundaries of the text, none behind its end, and each line and byte that is asked for is there.  And
then what is read is what the document says. -/
theorem ofTextByOffset?_eq (tags : FenceTags) (t : Text) :
    ofTextByOffset? tags t = some (ofText tags t) ∧
      ∀ start stop u, (slice? start stop u).isSome = true ↔
        start ≤ stop ∧ stop ≤ size u ∧ Text.IsBoundary start u ∧ Text.IsBoundary stop u := by
  refine ⟨?_, fun _ _ _ => Text.isSome_slice?_iff⟩
  have hcode (tags : List Text) (d : Dialect) :
      CodeBlock.extractByOffset? tags d t = some (CodeBlock.extract tags d t) := by
    rw [CodeBlock.extractByOffset?, Block.scanByOffset?_eq]
    rfl
  rw [ofTextByOffset?, Heading.extractByOffset?_eq, hcode, hcode, Link.extractByOffset?_eq]
  rfl

/-- Blanks of several bytes stand around the fences, a character of four bytes stands before the
link, and the last line is the title. -/
example : (ofTextByOffset? ⟨[['p']], []⟩
    (Text.ofString "\u3000```p\nx\n\u00a0```\u2003\n😀[a](http://b)\n# T")).map (fun d =>
      (d.heading, d.snippets, d.links)) = some (⟨some ['T'], []⟩,
        [⟨.snippet, ['x', '\n'], [], 0, 18⟩], [.link (Text.ofString "http://b")]) := by
  decide +kernel

end Document
end GuideBundles
