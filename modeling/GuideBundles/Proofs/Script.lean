/-
# `Proofs.Script` — how runs end

A run ends with a result and leaves a disk.  One script after another ends well when both do, the
second one on the disk that the first one leaves.
-/
import GuideBundles.Script

namespace GuideBundles.Script

variable {α β : Type} {d d' : Disk}

/-- Run on the first disk, a script ends with the result and leaves the second disk. -/
def Ends (s : Script α) (d : Disk) (r : Except Failure α) (d' : Disk) : Prop :=
  (s.run d).result = r ∧ (s.run d).disk = d'

theorem ends_of_result {s : Script α} {r : Except Failure α} (h : (s.run d).result = r) :
    s.Ends d r (s.run d).disk := ⟨h, rfl⟩

/-- A run ends in one way. -/
theorem Ends.unique {s : Script α} {r r' : Except Failure α} {m m' : Disk} (h : s.Ends d r m)
    (h' : s.Ends d r' m') : r = r' ∧ m = m' :=
  ⟨h.1.symm.trans h'.1, h.2.symm.trans h'.2⟩

@[simp] theorem ends_pure {a : α} {r : Except Failure α} :
    (pure a : Script α).Ends d r d' ↔ .ok a = r ∧ d = d' := Iff.rfl

@[simp] theorem ends_fail {f : Failure} {r : Except Failure α} :
    (fail f : Script α).Ends d r d' ↔ .error f = r ∧ d = d' := Iff.rfl

@[simp] theorem ends_ofExcept {x r : Except Failure α} :
    (ofExcept x).Ends d r d' ↔ x = r ∧ d = d' := by
  cases x <;> exact Iff.rfl

theorem ends_bind_ok {s : Script α} {k : α → Script β} {b : β} : (s >>= k).Ends d (.ok b) d' ↔
    ∃ a m, s.Ends d (.ok a) m ∧ (k a).Ends m (.ok b) d' := by
  unfold Ends
  rw [run_bind, Ending.andThen]
  cases hr : (s.run d).result with
  | error f =>
    constructor
    · intro h
      cases h.1
    · rintro ⟨a, m, h, -⟩
      cases h.1
  | ok a =>
    constructor
    · intro h
      exact ⟨a, _, ⟨rfl, rfl⟩, h⟩
    · rintro ⟨a', m, ⟨ha, rfl⟩, h⟩
      obtain rfl := Except.ok.inj ha
      exact h

/-- One script after another fails when the first one does, or when it ends well and the second one
fails. -/
theorem ends_bind_error {s : Script α} {k : α → Script β} {f : Failure} :
    (s >>= k).Ends d (.error f) d' ↔ s.Ends d (.error f) d' ∨
      ∃ a m, s.Ends d (.ok a) m ∧ (k a).Ends m (.error f) d' := by
  unfold Ends
  rw [run_bind, Ending.andThen]
  cases hr : (s.run d).result with
  | error g =>
    constructor
    · rintro ⟨hg, rfl⟩
      exact .inl ⟨congrArg _ (Except.error.inj hg), rfl⟩
    · rintro (⟨hg, rfl⟩ | ⟨a, m, ⟨ha, -⟩, -⟩)
      · exact ⟨congrArg _ (Except.error.inj hg), rfl⟩
      · cases ha
  | ok a =>
    constructor
    · intro h
      exact .inr ⟨a, _, ⟨rfl, rfl⟩, h⟩
    · rintro (⟨hg, -⟩ | ⟨a', m, ⟨ha, rfl⟩, h⟩)
      · cases hg
      · obtain rfl := Except.ok.inj ha
        exact h

/-- A failure is a value to the script that attempts. -/
theorem ends_attempt {s : Script α} {x : Except Failure α} :
    s.attempt.Ends d (.ok x) d' ↔ s.Ends d x d' := by
  induction s generalizing d with
  | done a =>
    show Except.ok (Except.ok a) = _ ∧ _ ↔ Except.ok a = _ ∧ _
    rw [Except.ok.injEq]
    exact Iff.rfl
  | fail f =>
    show Except.ok (Except.error f) = _ ∧ _ ↔ Except.error f = _ ∧ _
    rw [Except.ok.injEq]
    exact Iff.rfl
  | ask r next ih => exact ih _
  | tell e next ih => exact ih

theorem not_ends_attempt_error {s : Script α} {f : Failure} : ¬ s.attempt.Ends d (.error f) d' := by
  induction s generalizing d with
  | done a => exact fun h => nomatch h.1
  | fail g => exact fun h => nomatch h.1
  | ask r next ih => exact ih _
  | tell e next ih => exact ih

/-! ## Requests -/

theorem ends_request {r : Request} {a : r.Answer} :
    (request r).Ends d (.ok a) d' ↔ d.answer r = (a, d') := by
  show Except.ok (d.answer r).1 = _ ∧ (d.answer r).2 = _ ↔ _
  rw [Except.ok.injEq, Prod.ext_iff]

/-- No answer to a request is a failure by itself. -/
theorem not_ends_request_error {r : Request} {f : Failure} : ¬ (request r).Ends d (.error f) d' :=
  fun h => nomatch h.1

theorem ends_present {p : Path} {b : Bool} :
    (request (.present p)).Ends d (.ok b) d' ↔ d.isPresent p = b ∧ d = d' := by
  rw [ends_request, ← Prod.mk.injEq]
  exact Iff.rfl

theorem ends_isFile {p : Path} {b : Bool} :
    (request (.isFile p)).Ends d (.ok b) d' ↔ d.isFile p = b ∧ d = d' := by
  rw [ends_request, ← Prod.mk.injEq]
  exact Iff.rfl

@[simp] theorem ends_orFail {p : Path} {x : Except Fault α} {a : α} :
    (orFail p x).Ends d (.ok a) d' ↔ x = .ok a ∧ d = d' := by
  cases x with
  | ok b =>
    show Except.ok b = _ ∧ d = d' ↔ _
    rw [Except.ok.injEq, Except.ok.injEq]
  | error f =>
    show Except.error _ = _ ∧ _ ↔ _
    simp

theorem ends_isDirectory {p : Path} {b : Bool} :
    (request (.isDirectory p)).Ends d (.ok b) d' ↔ d.isDirectory p = b ∧ d = d' := by
  rw [ends_request, ← Prod.mk.injEq]
  exact Iff.rfl

theorem settle_eq_ok_iff {x : Except Fault Disk} :
    (d.settle x).1 = .ok () ∧ (d.settle x).2 = d' ↔ x = .ok d' := by
  cases x <;> simp [Disk.settle]

/-- A request for a change that does not stop the script is granted. -/
theorem ends_change {p : Path} {x : Except Fault Disk} :
    (orFail p (d.settle x).1).Ends (d.settle x).2 (.ok ()) d' ↔ x = .ok d' := by
  rw [ends_orFail, settle_eq_ok_iff]

theorem ends_orFail_error {p : Path} {x : Except Fault α} {f : Failure} :
    (orFail p x).Ends d (.error f) d' ↔ (∃ g, x = .error g ∧ f = .io p g) ∧ d = d' := by
  cases x with
  | ok b =>
    constructor
    · exact fun h => nomatch h.1
    · rintro ⟨⟨g, hg, -⟩, -⟩
      cases hg
  | error g =>
    constructor
    · rintro ⟨hf, hd⟩
      exact ⟨⟨g, rfl, (Except.error.inj hf).symm⟩, hd⟩
    · rintro ⟨⟨g', hg, rfl⟩, hd⟩
      obtain rfl := Except.error.inj hg
      exact ⟨rfl, hd⟩

/-- A request that stops the script is refused, and the disk stays as it is. -/
theorem ends_change_error {p : Path} {x : Except Fault Disk} {f : Failure} :
    (orFail p (d.settle x).1).Ends (d.settle x).2 (.error f) d' ↔
      (∃ g, x = .error g ∧ f = .io p g) ∧ d = d' := by
  rw [ends_orFail_error]
  cases x with
  | ok m => simp [Disk.settle]
  | error g => simp [Disk.settle]

theorem ends_readText {p : Path} {t : Text} :
    (readText p).Ends d (.ok t) d' ↔ d.readText p = .ok t ∧ d = d' := by
  show (orFail p (d.readText p)).Ends d _ d' ↔ _
  rw [ends_orFail]

theorem ends_readText_error {p : Path} {f : Failure} : (readText p).Ends d (.error f) d' ↔
    (∃ g, d.readText p = .error g ∧ f = .io p g) ∧ d = d' := by
  show (orFail p (d.readText p)).Ends d _ d' ↔ _
  rw [ends_orFail_error]

theorem ends_list {p : Path} {names : List Text} :
    (list p).Ends d (.ok names) d' ↔ d.list p = .ok names ∧ d = d' := by
  show (orFail p (d.list p)).Ends d _ d' ↔ _
  rw [ends_orFail]

theorem ends_createDirs {p : Path} : (createDirs p).Ends d (.ok ()) d' ↔
    (d.makeDirs p.ancestors).1 = .ok () ∧ (d.makeDirs p.ancestors).2 = d' := by
  show (orFail p (d.makeDirs p.ancestors).1).Ends (d.makeDirs p.ancestors).2 _ d' ↔ _
  rw [ends_orFail]

theorem ends_createDirs_error {p : Path} {f : Failure} : (createDirs p).Ends d (.error f) d' ↔
    (∃ g, (d.makeDirs p.ancestors).1 = .error g ∧ f = .io p g) ∧
      (d.makeDirs p.ancestors).2 = d' := by
  show (orFail p (d.makeDirs p.ancestors).1).Ends (d.makeDirs p.ancestors).2 _ d' ↔ _
  rw [ends_orFail_error]

theorem ends_removeTree {p : Path} :
    (removeTree p).Ends d (.ok ()) d' ↔ d.removeTree p = .ok d' :=
  ends_change

theorem ends_removeTree_error {p : Path} {f : Failure} : (removeTree p).Ends d (.error f) d' ↔
    (∃ g, d.removeTree p = .error g ∧ f = .io p g) ∧ d = d' :=
  ends_change_error

theorem ends_writeText {p : Path} {t : Text} :
    (writeText p t).Ends d (.ok ()) d' ↔ d.writeBytes p t.toBytes = .ok d' :=
  ends_change

theorem ends_copyFile {p q : Path} :
    (copyFile p q).Ends d (.ok ()) d' ↔ d.copyFile p q = .ok d' :=
  ends_change

theorem ends_rename {p q : Path} :
    (rename p q).Ends d (.ok ()) d' ↔ d.rename p q = .ok d' :=
  ends_change

theorem ends_rename_error {p q : Path} {f : Failure} : (rename p q).Ends d (.error f) d' ↔
    (∃ g, d.rename p q = .error g ∧ f = .io q g) ∧ d = d' :=
  ends_change_error

end GuideBundles.Script
