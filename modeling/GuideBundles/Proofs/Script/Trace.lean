/-
# `Proofs.Script.Trace` — what a run does on its way

A run can be cut off after any of its requests.  Its trace has every request with the disk after it;
the trace of one script after another is the one trace after the other.  What all requests of a
script have in common, whatever they are answered, bounds what its runs can do to a disk.
-/
import GuideBundles.Proofs.Script

namespace GuideBundles.Script

variable {α β : Type}

/-! ## Laws of scripts -/

theorem andThen_done (s : Script α) : s.andThen done = s := by
  induction s with
  | done a => rfl
  | fail f => rfl
  | ask r next ih =>
    rw [andThen]
    exact congrArg (ask r) (funext ih)
  | tell e next ih => rw [andThen, ih]

theorem andThen_assoc {γ : Type} (s : Script α) (j : α → Script β) (k : β → Script γ) :
    (s.andThen j).andThen k = s.andThen fun a => (j a).andThen k := by
  induction s with
  | done a => rfl
  | fail f => rfl
  | ask r next ih =>
    rw [andThen, andThen, andThen]
    exact congrArg (ask r) (funext ih)
  | tell e next ih => rw [andThen, andThen, andThen, ih]

instance : LawfulMonad Script :=
  LawfulMonad.mk' Script andThen_done (fun _ _ => rfl) andThen_assoc

/-! ## Traces -/

/-- The requests of a run in order, each with the disk after it. -/
def trace : Script α → Disk → List (Request × Disk)
  | done _, _ => []
  | fail _, _ => []
  | ask r next, d => (r, (d.answer r).2) :: (next (d.answer r).1).trace (d.answer r).2
  | tell _ next, d => next.trace d

theorem map_snd_trace (s : Script α) (d : Disk) : (s.trace d).map Prod.snd = s.disks d := by
  induction s generalizing d with
  | done a => rfl
  | fail f => rfl
  | ask r next ih => rw [trace, disks, List.map_cons, ih]
  | tell e next ih => exact ih d

/-- The trace of what follows a script, if the script ends well. -/
def traceAfter (ending : Ending α) (k : α → Script β) : List (Request × Disk) :=
  match ending.result with
  | .ok a => (k a).trace ending.disk
  | .error _ => []

theorem trace_bind (s : Script α) (k : α → Script β) (d : Disk) :
    (s >>= k).trace d = s.trace d ++ traceAfter (s.run d) k := by
  show (s.andThen k).trace d = _
  induction s generalizing d with
  | done a => rfl
  | fail f => rfl
  | ask r next ih =>
    rw [andThen, trace, ih, trace, List.cons_append]
    rfl
  | tell e next ih => exact ih d

/-- A request on the way is one of the first script, or one of the second when the first ended
well. -/
theorem mem_trace_bind {s : Script α} {k : α → Script β} {d : Disk} {x : Request × Disk}
    (h : x ∈ (s >>= k).trace d) : x ∈ s.trace d ∨
      ∃ a m, s.Ends d (.ok a) m ∧ x ∈ (k a).trace m := by
  rw [trace_bind] at h
  rcases List.mem_append.1 h with h | h
  · exact .inl h
  · unfold traceAfter at h
    split at h
    · next a ha => exact .inr ⟨a, _, ⟨ha, rfl⟩, h⟩
    · cases h

/-- So it is with what is told. -/
theorem mem_events_bind {s : Script α} {k : α → Script β} {d : Disk} {e : Event}
    (h : e ∈ ((s >>= k).run d).events) : e ∈ (s.run d).events ∨
      ∃ a m, s.Ends d (.ok a) m ∧ e ∈ ((k a).run m).events := by
  rw [run_bind] at h
  unfold Ending.andThen at h
  split at h
  · exact .inl h
  · next a ha =>
    rcases List.mem_append.1 h with h | h
    · exact .inl h
    · exact .inr ⟨a, _, ⟨ha, rfl⟩, h⟩

theorem trace_orFail (p : Path) (x : Except Fault α) (d : Disk) : (orFail p x).trace d = [] := by
  cases x <;> rfl

theorem trace_rename (p q : Path) (d : Disk) :
    (rename p q).trace d = [(.rename p q, (d.answer (.rename p q)).2)] :=
  congrArg (_ :: ·) (trace_orFail q _ _)

/-! ## What a script asks and tells -/

/-- Whatever the answers are, the script asks only requests of one kind and tells only events of
one kind. -/
def Only (P : Request → Prop) (Q : Event → Prop) : Script α → Prop
  | done _ => True
  | fail _ => True
  | ask r next => P r ∧ ∀ a, (next a).Only P Q
  | tell e next => Q e ∧ next.Only P Q

section Only

variable {P P' : Request → Prop} {Q Q' : Event → Prop}

theorem only_pure (a : α) : (pure a : Script α).Only P Q := trivial

theorem only_fail (f : Failure) : (fail f : Script α).Only P Q := trivial

theorem only_ofExcept (x : Except Failure α) : (ofExcept x).Only P Q := by
  cases x <;> exact trivial

theorem only_orFail (p : Path) (x : Except Fault α) : (orFail p x).Only P Q := by
  cases x <;> exact trivial

theorem only_request {r : Request} (h : P r) : (request r).Only P Q :=
  ⟨h, fun _ => trivial⟩

theorem only_say {e : Event} (h : Q e) : (say e).Only P Q :=
  ⟨h, trivial⟩

theorem Only.bind {s : Script α} {k : α → Script β} (hs : s.Only P Q)
    (hk : ∀ a, (k a).Only P Q) : (s >>= k).Only P Q := by
  show (s.andThen k).Only P Q
  induction s with
  | done a => exact hk a
  | fail f => exact trivial
  | ask r next ih => exact ⟨hs.1, fun a => ih a (hs.2 a)⟩
  | tell e next ih => exact ⟨hs.1, ih hs.2⟩

theorem Only.attempt {s : Script α} (hs : s.Only P Q) : s.attempt.Only P Q := by
  induction s with
  | done a => exact trivial
  | fail f => exact trivial
  | ask r next ih => exact ⟨hs.1, fun a => ih a (hs.2 a)⟩
  | tell e next ih => exact ⟨hs.1, ih hs.2⟩

theorem Only.imp {s : Script α} (hs : s.Only P Q) (hP : ∀ r, P r → P' r) (hQ : ∀ e, Q e → Q' e) :
    s.Only P' Q' := by
  induction s with
  | done a => exact trivial
  | fail f => exact trivial
  | ask r next ih => exact ⟨hP r hs.1, fun a => ih a (hs.2 a)⟩
  | tell e next ih => exact ⟨hQ e hs.1, ih hs.2⟩

theorem only_readText {p : Path} (h : P (.readText p)) : (readText p).Only P Q :=
  (only_request h).bind fun _ => only_orFail p _

theorem only_list {p : Path} (h : P (.list p)) : (list p).Only P Q :=
  (only_request h).bind fun _ => only_orFail p _

theorem only_createDirs {p : Path} (h : P (.createDirs p)) : (createDirs p).Only P Q :=
  (only_request h).bind fun _ => only_orFail p _

theorem only_removeTree {p : Path} (h : P (.removeTree p)) : (removeTree p).Only P Q :=
  (only_request h).bind fun _ => only_orFail p _

theorem only_writeText {p : Path} {t : Text} (h : P (.writeText p t)) :
    (writeText p t).Only P Q :=
  (only_request h).bind fun _ => only_orFail p _

theorem only_copyFile {p q : Path} (h : P (.copyFile p q)) : (copyFile p q).Only P Q :=
  (only_request h).bind fun _ => only_orFail p _

theorem only_rename {p q : Path} (h : P (.rename p q)) : (rename p q).Only P Q :=
  (only_request h).bind fun _ => only_orFail q _

/-- Only such events are told in a run. -/
theorem Only.of_mem_events {s : Script α} (hs : s.Only P Q) {d : Disk} {e : Event}
    (he : e ∈ (s.run d).events) : Q e := by
  induction s generalizing d with
  | done a => cases he
  | fail f => cases he
  | ask r next ih => exact ih _ (hs.2 _) he
  | tell e' next ih =>
    rcases List.mem_cons.1 he with rfl | he
    · exact hs.1
    · exact ih hs.2 he

/-- What each request does to a disk at most, and what does not add up to more when it is done again
and again, is all that a run can do to it at any time. -/
theorem Only.bounded {R : Disk → Disk → Prop} (hrefl : ∀ d, R d d)
    (htrans : ∀ {a b c}, R a b → R b c → R a c)
    (hstep : ∀ r, P r → ∀ d : Disk, R d (d.answer r).2) {s : Script α} (hs : s.Only P Q)
    (d : Disk) : R d (s.run d).disk ∧ ∀ x ∈ s.trace d, R d x.2 := by
  induction s generalizing d with
  | done a => exact ⟨hrefl d, nofun⟩
  | fail f => exact ⟨hrefl d, nofun⟩
  | ask r next ih =>
    have hfirst := hstep r hs.1 d
    obtain ⟨hlast, hrest⟩ := ih _ (hs.2 (d.answer r).1) (d.answer r).2
    refine ⟨htrans hfirst hlast, ?_⟩
    intro x hx
    rcases List.mem_cons.1 hx with rfl | hx
    · exact hfirst
    · exact htrans hfirst (hrest x hx)
  | tell e next ih => exact ih hs.2 d

end Only

end GuideBundles.Script
