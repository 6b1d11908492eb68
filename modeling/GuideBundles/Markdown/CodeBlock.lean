/-
# `Markdown.CodeBlock` — code of one dialect with the prose in front of it

The prose in front of a code block is kept as a note to it.  Heading lines, which start with number
signs and a blank, are emptied in a note and not taken out, so the spacing around them stays.
-/
import GuideBundles.Markdown.Block
import GuideBundles.Failure

namespace GuideBundles

/-- Whether a line starts with number signs that a space or a tab follows. -/
def isHeading (line : Text) : Bool :=
  match line with
  | '#' :: t =>
    match t.dropWhile (· == '#') with
    | ' ' :: _ => true
    | '\t' :: _ => true
    | _ => false
  | _ => false

namespace Note

/-- Prose with its heading lines emptied.  `fresh` says that a line starts here, `skipping` that the
rest of this line goes. -/
def emptyHeadings (fresh skipping : Bool) : Text → Text
  | [] => []
  | c :: t =>
    if c = '\n' then c :: emptyHeadings true false t
    else if (if fresh then isHeading (c :: t) else skipping) then emptyHeadings false true t
    else c :: emptyHeadings false false t

/-- Prose as a note: without heading lines and without blanks at its ends. -/
def tidy (prose : Text) : Text := Text.trim (emptyHeadings true false prose)

end Note

/-- A fenced block of one dialect, with the note to it and its byte offsets. -/
structure CodeBlock where
  dialect : Dialect
  code : Text
  note : Text
  start : Nat
  stop : Nat
deriving DecidableEq

namespace CodeBlock

/-- The code among blocks, with a note of the prose right before it; `pending` is that prose
for the first block. -/
def collect (d : Dialect) (pending : Text) : List Block → List CodeBlock
  | [] => []
  | .prose t _ _ :: rest => collect d t rest
  | .code _ code start stop :: rest =>
    ⟨d, code, Note.tidy pending, start, stop⟩ :: collect d [] rest

/-- The code blocks of one dialect in a document.  Fences of other tags are part of the
notes. -/
def extract (tags : List Text) (d : Dialect) (t : Text) : List CodeBlock :=
  collect d [] (Block.scan tags t)

end CodeBlock
end GuideBundles
