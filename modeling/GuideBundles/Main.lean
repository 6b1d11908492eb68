/-
# `Main` — the program

Scripts are carried out here on the real disk; everything else is decided elsewhere.
-/
import GuideBundles.CommandLine

namespace GuideBundles

/-! ## Requests on the real disk -/

/-- A path as the disk takes it. -/
def Path.toString (p : Path) : String := String.ofList p.spelling

/-- The fault that an error of the disk is. -/
def Fault.ofError : IO.Error → Fault
  | .noFileOrDirectory .. => .notFound
  | .alreadyExists .. => .alreadyExists
  | e => .other (Text.ofString e.toString)

/-- Tries something at a path that can be walked. -/
def tryAt {α : Type} (p : Path) (act : IO α) : IO (Except Fault α) := do
  match p.flaw? with
  | some f => pure (.error f)
  | none =>
    try
      pure (.ok (← act))
    catch e => pure (.error (Fault.ofError e))

/-- Whether an answer is a value for which `ok` holds. -/
def holds {α : Type} (ok : α → Bool) : Except Fault α → Bool
  | .ok a => ok a
  | .error _ => false

/-- The kind of what lies at a path. -/
def kindAt (p : Path) : IO (Except Fault IO.FS.FileType) :=
  tryAt p do pure (← (System.mkFilePath [p.toString]).metadata).type

/-- Answers a request on the real disk. -/
def Request.onDisk : (r : Request) → IO r.Answer
  | .present p => do pure (holds (fun _ => true) (← kindAt p))
  | .isFile p => do pure (holds (· == .file) (← kindAt p))
  | .isDirectory p => do pure (holds (· == .dir) (← kindAt p))
  | .readText p => do
    match ← tryAt p (IO.FS.readBinFile p.toString) with
    | .error f => pure (.error f)
    | .ok data =>
      match Text.ofBytes? data with
      | some t => pure (.ok t)
      | none => pure (.error .notText)
  | .list p => tryAt p do
    let found ← (System.mkFilePath [p.toString]).readDir
    pure (found.toList.map fun e => Text.ofString e.fileName)
  | .createDirs p => tryAt p (IO.FS.createDirAll p.toString)
  | .removeTree p => tryAt p (IO.FS.removeDirAll p.toString)
  | .copyFile p q => tryAt p do
    let _ ← IO.FS.readBinFile p.toString
    IO.FS.writeBinFile q.toString ByteArray.empty
    IO.FS.writeBinFile q.toString (← IO.FS.readBinFile p.toString)
  | .writeText p t => tryAt p (IO.FS.writeBinFile p.toString t.toBytes)
  | .rename p q => tryAt p (IO.FS.rename p.toString q.toString)

/-- Carries a script out on the real disk. -/
def Script.onDisk {α : Type} : Script α → IO (Except Failure α)
  | .done a => pure (.ok a)
  | .fail f => pure (.error f)
  | .ask r next => do
    let a ← r.onDisk
    (next a).onDisk
  | .tell _ next => next.onDisk

/-! ## The program -/

/-- A time in seconds with one place. -/
def secondsText (ms : Nat) : Text :=
  let tenths := (ms + 50) / 100
  Text.ofNat (tenths / 10) ++ '.' :: Text.ofNat (tenths % 10) ++ ['s']

/-- Leaves the program. -/
def leave (e : CommandLine.Exit) : IO UInt32 := do
  (← IO.getStdout).putStr (String.ofList e.output)
  pure e.code.toUInt32

/-- Carries an invocation out and leaves the program. -/
def runInvocation (home : Path) (i : Invocation) : IO UInt32 := do
  let started ← IO.monoMsNow
  let result ← (CommandLine.run home i).onDisk
  let ended ← IO.monoMsNow
  if let .error f := result then IO.eprintln (String.ofList f.message)
  leave (CommandLine.exitOf (secondsText (ended - started)) result)

end GuideBundles

open GuideBundles in
def main (args : List String) : IO UInt32 := do
  let env := (← IO.getEnv "MDEXAMPLES_CONFIG").map Text.ofString
  let home := Path.ofString ((← IO.getEnv "HOME").getD "")
  match CommandLine.read env (args.map Text.ofString) with
  | .ok i => runInvocation home i
  | .error stop => leave stop.exit
