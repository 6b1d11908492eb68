/-
# `Markdown.Fence` — fence lines and the regions they cut a document into

A fence opens with a line of at least three backticks, whose first word after them is its tag, and
it closes with a line of at least as many backticks and nothing else.  A document is a sequence of
plain lines and fenced regions; only the last region may lack its closing line.
-/
import GuideBundles.Text.Blank

namespace GuideBundles

/-- What the opening line of a fence says. -/
structure Opening where
  ticks : Nat
  tag : Text
deriving DecidableEq

namespace Fence

/-- The opening that a line is, if it is one.  A backtick after the first run means inline code. -/
def opening? (line : Text) : Option Opening :=
  let t := Text.trimStart line
  let ticks := (t.takeWhile (· == '`')).length
  let info := Text.trim (t.dropWhile (· == '`'))
  if ticks < 3 ∨ '`' ∈ info then none else some ⟨ticks, Text.firstWord info⟩

/-- Whether a line closes a fence that was opened with `ticks` backticks. -/
def closes (ticks : Nat) (line : Text) : Bool :=
  let t := Text.trim line
  decide (ticks ≤ t.length) && t.all (· == '`')

end Fence

/-- A plain line, or a fenced region with its opening line, the lines inside and its closing line,
which is missing when the document ends first. -/
inductive Region where
  | plain (line : Text)
  | fenced (head : Text) (opening : Opening) (body : List Text) (close : Option Text)
deriving DecidableEq

namespace Region

/-- The text that a region covers. -/
def text : Region → Text
  | plain line => line
  | fenced head _ body close => head ++ body.flatten ++ close.getD []

/-- The regions of a list of lines. -/
def ofLines : List Text → List Region
  | [] => []
  | line :: rest =>
    match Fence.opening? line with
    | none => plain line :: ofLines rest
    | some o =>
      let body := rest.takeWhile fun l => !Fence.closes o.ticks l
      match _h : rest.dropWhile fun l => !Fence.closes o.ticks l with
      | [] => [fenced line o body none]
      | close :: after => fenced line o body (some close) :: ofLines after
termination_by lines => lines.length
decreasing_by
  · simp
  · have := (List.dropWhile_suffix fun l => !Fence.closes o.ticks l : _ <:+ rest).length_le
    rw [_h] at this
    simp only [List.length_cons] at this ⊢
    omega

/-- The regions of a document. -/
def ofText (t : Text) : List Region := ofLines (Text.fullLines t)

/-- No text is lost between the regions. -/
theorem flatMap_text_ofLines (lines : List Text) :
    (ofLines lines).flatMap text = lines.flatten := by
  fun_induction ofLines lines with
  | case1 => rfl
  | case2 line rest h ih => simp [text, ih]
  | case3 line rest o h body hd =>
    have := List.takeWhile_append_dropWhile (p := fun l => !Fence.closes o.ticks l) (l := rest)
    rw [hd] at this
    simp only [List.append_nil] at this
    simp [text, body, this]
  | case4 line rest o h body close after hd ih =>
    have := List.takeWhile_append_dropWhile (p := fun l => !Fence.closes o.ticks l) (l := rest)
    rw [hd] at this
    simp only [List.flatMap_cons, text, Option.getD_some, ih, List.flatten_cons]
    rw [← this]
    simp [body]

@[simp] theorem flatMap_text_ofText (t : Text) : (ofText t).flatMap text = t := by
  rw [ofText, flatMap_text_ofLines, Text.flatten_fullLines]

end Region
end GuideBundles
