/-
# `Check` — looking through the bundles on disk

Every snippet file directly inside a bundle is checked.  Hidden directories are bundles that are
still being put together, and are passed over.  A name on a disk is a run of bytes; here only names
that are texts occur, but whether a name is hidden is asked of its bytes.
-/
import GuideBundles.Script
import GuideBundles.SnippetIssue

namespace GuideBundles

/-- A snippet file with what is wrong with it. -/
structure Finding where
  path : Path
  issue : SnippetIssue
deriving DecidableEq

namespace Check

/-- The paths of what lies in a directory, in order. -/
def pathsIn (dir : Path) : Script (List Path) := do
  let names ← Script.list dir
  pure ((names.map dir.join).mergeSort Path.before)

/-- Whether a name is that of something hidden: a text that starts with a dot.  Bytes that are no
text are not looked into. -/
def isHiddenName (name : ByteArray) : Bool :=
  (Text.ofBytes? name).any fun n => n.head? == some '.'

/-- Whether a path names something hidden. -/
def isHidden (p : Path) : Bool := p.fileName?.any fun n => isHiddenName n.toBytes

/-- The finding at a snippet file, if there is one. -/
def checkFile (p : Path) : Script (List Finding) := do
  match SnippetIssue.ofText (← Script.readText p) with
  | some issue => pure [⟨p, issue⟩]
  | none => pure []

/-- The findings at several paths, in their order. -/
def checkEach (check : Path → Script (List Finding)) : List Path → Script (List Finding)
  | [] => pure []
  | p :: rest => do
    let found ← check p
    pure (found ++ (← checkEach check rest))

/-- The findings in a bundle. -/
def checkBundle (extension : Text) (dir : Path) : Script (List Finding) := do
  checkEach checkFile ((← pathsIn dir).filter fun p => p.extension? == some extension)

/-- The findings at a path, if there is a bundle. -/
def checkEntry (extension : Text) (p : Path) : Script (List Finding) := do
  if ← Script.request (.isDirectory p) then
    if isHidden p then pure [] else checkBundle extension p
  else pure []

/-- The findings in all bundles of a directory, in the order of their paths. -/
def checkAll (extension : Text) (dir : Path) : Script (List Finding) := do
  checkEach (checkEntry extension) (← pathsIn dir)

end Check
end GuideBundles
