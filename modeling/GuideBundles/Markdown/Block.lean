/-
# `Markdown.Block` — a document as alternating prose and code

For a list of tags, the fenced regions with one of these tags are code and everything else is
prose, fences with other tags included.  Neighbouring prose is one block, and the newline after a
closing fence already belongs to the prose that follows.  Blocks carry their byte offsets.
-/
import GuideBundles.Markdown.Fence

namespace GuideBundles

/-- A piece of a document before it has a place: prose, or code with the text inside its fence and
the text that it covers. -/
inductive Segment where
  | prose (text : Text)
  | code (tag : Text) (body : Text) (covered : Text)
deriving DecidableEq

/-- A block of a document, with the byte offsets where it starts and ends. -/
inductive Block where
  | prose (text : Text) (start stop : Nat)
  | code (tag : Text) (text : Text) (start stop : Nat)
deriving DecidableEq

namespace Segment

/-- The text that a segment covers. -/
def text : Segment → Text
  | prose t => t
  | code _ _ covered => covered

/-- Prose in front of segments, joined with prose that they start with. -/
def addProse (t : Text) : List Segment → List Segment
  | prose u :: rest => prose (t ++ u) :: rest
  | rest => if t.isEmpty then rest else prose t :: rest

/-- The segments of regions, for the fences with one of `tags`. -/
def ofRegions (tags : List Text) : List Region → List Segment
  | [] => []
  | .fenced head o body close :: rest =>
    if o.tag ∈ tags then
      let last := close.getD []
      code o.tag body.flatten (head ++ body.flatten ++ Text.dropBreaks last)
        :: addProse (Text.breaks last) (ofRegions tags rest)
    else addProse (Region.fenced head o body close).text (ofRegions tags rest)
  | .plain line :: rest => addProse line (ofRegions tags rest)

end Segment

namespace Block

def start : Block → Nat
  | prose _ s _ => s
  | code _ _ s _ => s

def stop : Block → Nat
  | prose _ _ e => e
  | code _ _ _ e => e

/-- Whether a block is code. -/
def isCode : Block → Bool
  | prose .. => false
  | code .. => true

/-- Segments as blocks, from a byte offset on. -/
def place (offset : Nat) : List Segment → List Block
  | [] => []
  | .prose t :: rest => prose t offset (offset + Text.size t) :: place (offset + Text.size t) rest
  | .code tag body covered :: rest =>
    code tag body offset (offset + Text.size covered) :: place (offset + Text.size covered) rest

/-- The blocks of a document for the fences with one of `tags`, in order. -/
def scan (tags : List Text) (t : Text) : List Block :=
  place 0 (Segment.ofRegions tags (Region.ofText t))

end Block
end GuideBundles
