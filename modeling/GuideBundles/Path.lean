/-
# `Path` — paths as they are spelled, and what their parts name

A path keeps its spelling, because messages show it; its meaning is the list of its parts.  Empty
parts and inner single dots are no parts.  Beside each part stands where it ends in the spelling,
so that a parent is a piece of the spelling and not a new text.
-/
import GuideBundles.Text.Basic

namespace GuideBundles

/-- A path, as it is spelled. -/
structure Path where
  spelling : Text
deriving DecidableEq

namespace Path

/-- A part of a path. -/
inductive Part where
  /-- The leading slash of an absolute path. -/
  | root
  /-- A single dot at the start. -/
  | here
  /-- Two dots. -/
  | up
  | name (n : Text)
deriving DecidableEq

/-- A path from a string literal. -/
def ofString (s : String) : Path := ⟨s.toList⟩

/-! ## Parts -/

/-- The texts between the slashes of a path. -/
def pieces (p : Path) : List Text := Text.splitOn (· == '/') p.spelling

def isAbsolute (p : Path) : Bool := p.spelling.head? == some '/'

/-- The part that a text between slashes is, past the first one of a relative path. -/
def part? (piece : Text) : Option Part :=
  if piece = [] ∨ piece = ['.'] then none
  else if piece = ['.', '.'] then some .up
  else some (.name piece)

/-- A part with the places in the spelling where it starts and ends, in characters. -/
structure Placed where
  part : Part
  start : Nat
  stop : Nat

/-- The parts of pieces that start at the place `offset` and have a slash between them. -/
def placed (offset : Nat) : List Text → List Placed
  | [] => []
  | piece :: rest =>
    let stop := offset + piece.length
    match part? piece with
    | none => placed (stop + 1) rest
    | some part => ⟨part, offset, stop⟩ :: placed (stop + 1) rest

/-- The parts of a path with their places. -/
def places (p : Path) : List Placed :=
  let found := placed 0 p.pieces
  if p.isAbsolute then ⟨.root, 0, 1⟩ :: found
  else if p.pieces.head? = some ['.'] then ⟨.here, 0, 1⟩ :: found
  else found

/-- The parts of a path. -/
def parts (p : Path) : List Part := p.places.map Placed.part

/-- The path that holds the last part: the spelling up to the part before it.  A root and the
empty path have none. -/
def parent? (p : Path) : Option Path :=
  match p.places.reverse with
  | [] => none
  | last :: before =>
    if last.part = .root then none
    else match before with
      | [] => some ⟨[]⟩
      | b :: _ => some ⟨p.spelling.take b.stop⟩

/-- A path and the paths above it, at most as many as the number says. -/
def ancestorsFrom : Nat → Path → List Path
  | 0, p => [p]
  | n + 1, p => p :: match p.parent? with
    | none => []
    | some q => ancestorsFrom n q

/-- A path and all paths above it. -/
def ancestors (p : Path) : List Path := ancestorsFrom p.places.length p

/-- The name that a path ends with. -/
def fileName? (p : Path) : Option Text :=
  match p.parts.getLast? with
  | some (.name n) => some n
  | _ => none

/-! ## Names with an extension -/

/-- The text before the last dot of a name and the text after it. -/
def splitLastDot (n : Text) : Option (Text × Text) :=
  match n.reverse.dropWhile (· != '.') with
  | [] => none
  | _ :: before => some (before.reverse, (n.reverse.takeWhile (· != '.')).reverse)

/-- A file name without its extension.  A dot at the start begins no extension. -/
def stemOf (n : Text) : Text :=
  if n = ['.', '.'] then n
  else match splitLastDot n with
    | some (before, _) => if before = [] then n else before
    | none => n

/-- The extension of a file name, which may be empty. -/
def extensionOf (n : Text) : Option Text :=
  if n = ['.', '.'] then none
  else match splitLastDot n with
    | some (before, after) => if before = [] then none else some after
    | none => none

def stem? (p : Path) : Option Text := p.fileName?.map stemOf

def extension? (p : Path) : Option Text := p.fileName?.bind extensionOf

/-! ## Joining -/

/-- The path `t` as seen from the directory `p`; an absolute `t` stands for itself. -/
def join (p : Path) (t : Text) : Path :=
  if t.head? = some '/' then ⟨t⟩
  else match p.spelling.getLast? with
    | none => ⟨t⟩
    | some '/' => ⟨p.spelling ++ t⟩
    | some _ => ⟨p.spelling ++ '/' :: t⟩

/-- The spelling of a path without the parts of `base` in front of it, if it starts with them. -/
def below? (base p : Path) : Option Text :=
  if base.parts.isPrefixOf p.parts then
    let rest := p.places.drop base.parts.length
    match rest.head?, rest.getLast? with
    | some first, some last => some ((p.spelling.take last.stop).drop first.start)
    | _, _ => some []
  else none

/-! ## Order -/

/-- The place of a part among the kinds of parts. -/
def Part.rank : Part → Nat
  | .root => 0
  | .here => 1
  | .up => 2
  | .name _ => 3

/-- The order of parts: by kind, and names by their bytes. -/
def Part.before : Part → Part → Bool
  | .name m, .name n => Text.before m n
  | a, b => a.rank ≤ b.rank

/-- The order of paths, part by part. -/
def beforeParts : List Part → List Part → Bool
  | [], _ => true
  | _ :: _, [] => false
  | a :: as, b :: bs => if a = b then beforeParts as bs else a.before b

/-- The order in which paths are listed. -/
def before (p q : Path) : Bool := beforeParts p.parts q.parts

end Path
end GuideBundles
