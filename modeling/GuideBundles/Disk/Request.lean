/-
# `Disk.Request` — what a program may ask of a disk

Requests are answered one after the other.  A request that fails leaves the disk as it was, with
one exception: making a directory may fail after directories above it have been made.  No answer
has to follow a link, for a disk has none.
-/
import GuideBundles.Disk.Walk
import GuideBundles.Text.Bytes

namespace GuideBundles

/-- A request to a disk. -/
inductive Request where
  /-- Whether something lies at a path. -/
  | present (p : Path)
  | isFile (p : Path)
  | isDirectory (p : Path)
  | readText (p : Path)
  /-- The names in a directory, in no particular order. -/
  | list (p : Path)
  /-- Makes a directory and those above it, if they are not there. -/
  | createDirs (p : Path)
  /-- Removes a directory with all it holds. -/
  | removeTree (p : Path)
  | copyFile (source target : Path)
  /-- Makes or replaces a file. -/
  | writeText (p : Path) (t : Text)
  /-- Gives something another path. -/
  | rename (source target : Path)

/-- What a request is answered with. -/
abbrev Request.Answer : Request → Type
  | present _ => Bool
  | isFile _ => Bool
  | isDirectory _ => Bool
  | readText _ => Except Fault Text
  | list _ => Except Fault (List Text)
  | createDirs _ => Except Fault Unit
  | removeTree _ => Except Fault Unit
  | copyFile _ _ => Except Fault Unit
  | writeText _ _ => Except Fault Unit
  | rename _ _ => Except Fault Unit

namespace Disk

/-! ## Looking -/

def isPresent (d : Disk) (p : Path) : Bool :=
  match d.find p with
  | .ok _ => true
  | .error _ => false

def isFile (d : Disk) (p : Path) : Bool :=
  match d.find p with
  | .ok (_, .file _) => true
  | _ => false

def isDirectory (d : Disk) (p : Path) : Bool :=
  match d.find p with
  | .ok (_, .directory) => true
  | _ => false

/-- The text of a file. -/
def readText (d : Disk) (p : Path) : Except Fault Text :=
  match d.find p with
  | .error f => .error f
  | .ok (_, .directory) => .error .isDirectory
  | .ok (_, .file data) =>
    match Text.ofBytes? data with
    | some t => .ok t
    | none => .error .notText

def list (d : Disk) (p : Path) : Except Fault (List Text) :=
  match d.find p with
  | .error f => .error f
  | .ok (_, .file _) => .error .notDirectory
  | .ok (l, .directory) => .ok (d.names l)

/-! ## Changing -/

/-- Makes one directory. -/
def makeDir (d : Disk) (p : Path) : Except Fault Disk := do
  match ← d.place p with
  | (_, none) => .error .alreadyExists
  | (l, some n) =>
    let m ← child l n
    if (d.get? m).isSome then .error .alreadyExists else .ok (d.put m .directory)

/-- Makes the first of several directories, each of which lies in the next one. -/
def makeDirs (d : Disk) : List Path → Except Fault Unit × Disk
  | [] => (.error .notFound, d)
  | p :: above =>
    if p.spelling = [] then (.ok (), d)
    else match d.makeDir p with
      | .ok d => (.ok (), d)
      | .error .notFound =>
        match makeDirs d above with
        | (.error f, d) => (.error f, d)
        | (.ok (), d) =>
          match d.makeDir p with
          | .ok d => (.ok (), d)
          | .error f => (if d.isDirectory p then .ok () else .error f, d)
      | .error f => (if d.isDirectory p then .ok () else .error f, d)

/-- The location that a file can be written to. -/
def target (d : Disk) (p : Path) : Except Fault Location := do
  match ← d.place p with
  | (_, none) => .error .isDirectory
  | (l, some n) =>
    if p.endsWithSlash then .error .isDirectory
    else
      let m ← child l n
      if d.isDirectoryAt m then .error .isDirectory else .ok m

/-- Makes or replaces a file. -/
def writeBytes (d : Disk) (p : Path) (data : ByteArray) : Except Fault Disk := do
  let m ← d.target p
  .ok (d.put m (.file data))

/-- Copies a file.  The target is emptied before the bytes are carried over, so a file that is
copied onto itself is lost. -/
def copyFile (d : Disk) (source goal : Path) : Except Fault Disk := do
  match ← d.find source with
  | (_, .directory) => .error .invalidRequest
  | (l, .file _) =>
    let m ← d.target goal
    let emptied := d.put m (.file ByteArray.empty)
    match emptied.get? l with
    | some (.file data) => .ok (emptied.put m (.file data))
    | _ => .ok emptied

/-- Removes a directory with all it holds. -/
def removeTree (d : Disk) (p : Path) : Except Fault Disk := do
  match ← d.find p with
  | (_, .file _) => .error .notDirectory
  | (l, .directory) => .ok (d.clear l)

/-- Carries a directory to a location. -/
def moveDirectory (d : Disk) (l m : Location) : Except Fault Disk :=
  if l = m then .ok d
  else if isUnder l m then .error .invalidRequest
  else match d.get? m with
    | some (.file _) => .error .notDirectory
    | some .directory => if d.names m = [] then .ok (d.move l m) else .error .notEmpty
    | none => .ok (d.move l m)

/-- Carries a file to a location. -/
def moveFile (d : Disk) (l m : Location) : Except Fault Disk :=
  if l = m then .ok d
  else if d.isDirectoryAt m then .error .isDirectory
  else .ok (d.move l m)

/-- Gives something another path; a directory may replace an empty directory, and a file a file. -/
def rename (d : Disk) (source goal : Path) : Except Fault Disk := do
  let (l, e) ← d.find source
  match ← d.place goal with
  | (_, none) => .error .busy
  | (k, some n) =>
    let m ← child k n
    match e with
    | .directory => d.moveDirectory l m
    | .file _ => if goal.endsWithSlash then .error .notDirectory else d.moveFile l m

/-! ## Answering -/

/-- An answer to a request for a change, with the disk after it. -/
def settle (d : Disk) : Except Fault Disk → Except Fault Unit × Disk
  | .ok d => (.ok (), d)
  | .error f => (.error f, d)

/-- The answer to a request, with the disk after it. -/
def answer (d : Disk) : (r : Request) → r.Answer × Disk
  | .present p => (d.isPresent p, d)
  | .isFile p => (d.isFile p, d)
  | .isDirectory p => (d.isDirectory p, d)
  | .readText p => (d.readText p, d)
  | .list p => (d.list p, d)
  | .createDirs p => d.makeDirs p.ancestors
  | .removeTree p => d.settle (d.removeTree p)
  | .copyFile p q => d.settle (d.copyFile p q)
  | .writeText p t => d.settle (d.writeBytes p t.toBytes)
  | .rename p q => d.settle (d.rename p q)

end Disk
end GuideBundles
