/-
# `Script` — programs that ask a disk

A script is a tree: it is done, or it fails, or it asks a request and goes on with the answer, or
it tells an event and goes on.  It can be run on a disk as a value, and then every disk in between
can be looked at; it can just as well be carried out on a real one.
-/
import GuideBundles.Disk.Request
import GuideBundles.Progress

namespace GuideBundles

/-- A program that asks a disk and ends with a value or a failure. -/
inductive Script (α : Type) : Type where
  | done (a : α)
  | fail (f : Failure)
  | ask (r : Request) (next : r.Answer → Script α)
  | tell (e : Event) (next : Script α)

namespace Script

variable {α β : Type}

/-- One script after the other. -/
def andThen : Script α → (α → Script β) → Script β
  | done a, k => k a
  | fail f, _ => fail f
  | ask r next, k => ask r fun a => (next a).andThen k
  | tell e next, k => tell e (next.andThen k)

instance : Monad Script where
  pure := done
  bind := andThen

/-- A failure as a value, so that the script can go on after it. -/
def attempt : Script α → Script (Except Failure α)
  | done a => done (.ok a)
  | fail f => done (.error f)
  | ask r next => ask r fun a => (next a).attempt
  | tell e next => tell e next.attempt

/-- The answer to a request. -/
def request (r : Request) : Script r.Answer := ask r done

/-- Tells an event. -/
def say (e : Event) : Script Unit := tell e (done ())

/-- A value, or a failure at a path. -/
def orFail (p : Path) : Except Fault α → Script α
  | .ok a => done a
  | .error f => fail (.io p f)

/-- A value that was computed, or the failure to compute it. -/
def ofExcept : Except Failure α → Script α
  | .ok a => done a
  | .error f => fail f

/-! ## Requests whose faults stop the script -/

def readText (p : Path) : Script Text := request (.readText p) >>= orFail p

def list (p : Path) : Script (List Text) := request (.list p) >>= orFail p

def createDirs (p : Path) : Script Unit := request (.createDirs p) >>= orFail p

def removeTree (p : Path) : Script Unit := request (.removeTree p) >>= orFail p

def writeText (p : Path) (t : Text) : Script Unit := request (.writeText p t) >>= orFail p

/-- Copies a file; a fault is reported at the file that was to be copied. -/
def copyFile (source target : Path) : Script Unit :=
  request (.copyFile source target) >>= orFail source

/-- Renames; a fault is reported at the new path. -/
def rename (source target : Path) : Script Unit :=
  request (.rename source target) >>= orFail target

/-! ## Running on a disk -/

/-- What a run ends with. -/
structure Ending (α : Type) where
  result : Except Failure α
  disk : Disk
  events : List Event

/-- Runs a script on a disk. -/
def run : Script α → Disk → Ending α
  | done a, d => ⟨.ok a, d, []⟩
  | fail f, d => ⟨.error f, d, []⟩
  | ask r next, d => (next (d.answer r).1).run (d.answer r).2
  | tell e next, d =>
    let ending := next.run d
    { ending with events := e :: ending.events }

/-- The disks after each request of a run, in order. -/
def disks : Script α → Disk → List Disk
  | done _, _ => []
  | fail _, _ => []
  | ask r next, d => (d.answer r).2 :: (next (d.answer r).1).disks (d.answer r).2
  | tell _ next, d => next.disks d

/-- What an ending leads to when another script follows. -/
def Ending.andThen (ending : Ending α) (k : α → Script β) : Ending β :=
  match ending.result with
  | .error f => ⟨.error f, ending.disk, ending.events⟩
  | .ok a =>
    let after := (k a).run ending.disk
    { after with events := ending.events ++ after.events }

@[simp] theorem run_bind (s : Script α) (k : α → Script β) (d : Disk) :
    (s >>= k).run d = (s.run d).andThen k := by
  show (s.andThen k).run d = _
  induction s generalizing d with
  | done a => simp [andThen, run, Ending.andThen]
  | fail f => rfl
  | ask r next ih => exact ih _ _
  | tell e next ih =>
    simp only [andThen, run, ih]
    unfold Ending.andThen
    cases (next.run d).result <;> simp

@[simp] theorem run_pure (a : α) (d : Disk) : (pure a : Script α).run d = ⟨.ok a, d, []⟩ := rfl

end Script
end GuideBundles
