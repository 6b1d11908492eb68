/-
# `Disk.Walk` — from paths to locations

A path is walked piece by piece: whatever it passes through has to be a directory.  `find` wants
something to lie at the end; `place` only tells where something new would lie.
-/
import GuideBundles.Disk.Basic
import GuideBundles.Failure

namespace GuideBundles

namespace Path

/-- A piece of a path as a disk takes it, where a single dot means something everywhere. -/
def stepOf (piece : Text) : Part :=
  if piece = ['.'] then .here else if piece = ['.', '.'] then .up else .name piece

/-- The steps of a path, without its root. -/
def steps (p : Path) : List Part := (p.pieces.filter fun piece => piece ≠ []).map stepOf

def endsWithSlash (p : Path) : Bool := p.spelling.getLast? == some '/'

/-- The shortest path that can no longer be used, in bytes. -/
def tooLong : Nat := 4096

/-- The reason for which a path cannot even be walked. -/
def flaw? (p : Path) : Option Fault :=
  if '\x00' ∈ p.spelling then some .nulInName
  else if p.spelling = [] then some .notFound
  else if tooLong ≤ Text.size p.spelling then some .nameTooLong
  else none

end Path

namespace Disk

/-- The location to start walking a path from. -/
def origin (d : Disk) (p : Path) : Location := if p.isAbsolute then [] else d.here

/-- One step from a location, which has to be a directory. -/
def enter (d : Disk) (l : Location) (step : Path.Part) : Except Fault Location :=
  if !d.isDirectoryAt l then .error .notDirectory
  else match step with
    | .root => .ok []
    | .here => .ok l
    | .up => .ok l.dropLast
    | .name n =>
      if longestName < Text.size n then .error .nameTooLong
      else if (d.get? (l ++ [n])).isSome then .ok (l ++ [n])
      else .error .notFound

/-- Where steps lead from a location. -/
def walk (d : Disk) : Location → List Path.Part → Except Fault Location
  | l, [] => .ok l
  | l, step :: steps =>
    match d.enter l step with
    | .ok m => walk d m steps
    | .error f => .error f

/-- What lies at the end of a path, and where. -/
def find (d : Disk) (p : Path) : Except Fault (Location × Entry) :=
  match p.flaw? with
  | some f => .error f
  | none =>
    match d.walk (d.origin p) p.steps with
    | .error f => .error f
    | .ok l =>
      match d.get? l with
      | none => .error .notFound
      | some (.file data) =>
        if p.endsWithSlash then .error .notDirectory else .ok (l, .file data)
      | some .directory => .ok (l, .directory)

/-- The directory in which something new would lie by a path, and its name there; there is no name
when the path ends with dots or is a root. -/
def place (d : Disk) (p : Path) : Except Fault (Location × Option Text) :=
  match p.flaw? with
  | some f => .error f
  | none =>
    match d.walk (d.origin p) p.steps.dropLast with
    | .error f => .error f
    | .ok l =>
      if !d.isDirectoryAt l then .error .notDirectory
      else match p.steps.getLast? with
        | some (.name n) => .ok (l, some n)
        | _ => .ok (l, none)

/-- The location of a name in a directory. -/
def child (l : Location) (n : Text) : Except Fault Location :=
  if longestName < Text.size n then .error .nameTooLong else .ok (l ++ [n])

end Disk
end GuideBundles
