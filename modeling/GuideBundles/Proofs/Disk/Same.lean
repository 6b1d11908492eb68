/-
# `Proofs.Disk.Same` — disks that hold the same

A disk keeps its entries in an order that shows in nothing but the order of names in a directory.
Disks that hold the same at every location answer every other request alike, and hold the same
afterwards; so whole runs of scripts that list no directory are alike on them.
-/
import GuideBundles.Proofs.Disk.Way
import GuideBundles.Proofs.Disk.Request
import GuideBundles.Proofs.Script.Trace

namespace GuideBundles

namespace Disk

/-- The same lies at every location, and paths start from the same one. -/
structure Same (d d' : Disk) : Prop where
  here : d'.here = d.here
  get? : ∀ k, d'.get? k = d.get? k

variable {d d' : Disk}

theorem Same.refl (d : Disk) : Same d d := ⟨rfl, fun _ => rfl⟩

theorem Same.trans {m : Disk} (h : Same d m) (h' : Same m d') : Same d d' :=
  ⟨h'.here.trans h.here, fun k => (h'.get? k).trans (h.get? k)⟩

/-- Two answers that are both refusals for the same reason, or both disks that hold the same. -/
inductive Agree : Except Fault Disk → Except Fault Disk → Prop
  | granted {d d' : Disk} (h : Same d d') : Agree (.ok d) (.ok d')
  | refused (f : Fault) : Agree (.error f) (.error f)

theorem agree_bind {α : Type} (x : Except Fault α) {k k' : α → Except Fault Disk}
    (h : ∀ a, Agree (k a) (k' a)) : Agree (x >>= k) (x >>= k') := by
  cases x with
  | error f => exact .refused f
  | ok a => exact h a

/-! ## Looking -/

theorem Same.find_eq (h : Same d d') (p : Path) : d'.find p = d.find p :=
  (find_congr h.here.symm (fun k _ => kind?_congr (h.get? k).symm) (h.get? _).symm).symm

theorem Same.isFile_eq (h : Same d d') (p : Path) : d'.isFile p = d.isFile p := by
  rw [isFile, isFile, h.find_eq]

theorem Same.readText_eq (h : Same d d') (p : Path) : d'.readText p = d.readText p := by
  rw [readText, readText, h.find_eq]

theorem Same.isDirectoryAt_eq (h : Same d d') (l : Location) :
    d'.isDirectoryAt l = d.isDirectoryAt l :=
  isDirectoryAt_congr (kind?_congr (h.get? l))

theorem Same.place_eq (h : Same d d') (p : Path) : d'.place p = d.place p := by
  have horigin : d'.origin p = d.origin p := by rw [origin, origin, h.here]
  have hwalk (steps : List Path.Part) (l : Location) : d'.walk l steps = d.walk l steps :=
    walk_congr fun k _ => kind?_congr (h.get? k)
  unfold place
  rw [horigin, hwalk]
  cases p.flaw? with
  | some f => rfl
  | none =>
    cases d.walk (d.origin p) p.steps.dropLast with
    | error f => rfl
    | ok l => simp only [h.isDirectoryAt_eq]

theorem Same.target_eq (h : Same d d') (p : Path) : d'.target p = d.target p := by
  unfold target
  simp only [h.place_eq, h.isDirectoryAt_eq]

theorem Same.names_eq_nil_iff (h : Same d d') (l : Location) :
    d'.names l = [] ↔ d.names l = [] := by
  rw [Disk.names_eq_nil_iff, Disk.names_eq_nil_iff]
  refine forall_congr' fun n => ?_
  rw [h.get?]

/-! ## Changing -/

theorem Same.hasRoom_eq (h : Same d d') (l : Location) : d'.hasRoom l = d.hasRoom l := by
  unfold hasRoom
  cases l.getLast? with
  | none => rfl
  | some n => simp only [h.isDirectoryAt_eq]

theorem Same.put (h : Same d d') (l : Location) (e : Entry) :
    Same (d.put l e) (d'.put l e) := by
  cases hroom : d.hasRoom l with
  | false =>
    have hroom' := (h.hasRoom_eq l).trans hroom
    rw [Disk.put, Disk.put, dif_neg (by simp [hroom]), dif_neg (by simp [hroom'])]
    exact h
  | true =>
    have hroom' := (h.hasRoom_eq l).trans hroom
    refine ⟨by rw [here_put, here_put, h.here], ?_⟩
    intro k
    rw [get?_put hroom, get?_put hroom', h.get?]

/-- Nothing but the root is left when all is cleared. -/
theorem get?_clear_root (d : Disk) (k : Location) : (d.clear []).get? k
    = if k = [] then some .directory else none := by
  have hempty : (d.clear []).entries = [] := by
    rw [clear, List.filter_eq_nil_iff]
    intro e _
    simp [isUnder, remainder?]
  rw [Disk.get?, hempty]
  rfl

theorem Same.clear (h : Same d d') (l : Location) : Same (d.clear l) (d'.clear l) := by
  refine ⟨h.here, ?_⟩
  intro k
  by_cases hl : l = []
  · rw [hl, get?_clear_root, get?_clear_root]
  · rw [get?_clear d hl, get?_clear d' hl, h.get?]

theorem Same.move (h : Same d d') (l m : Location) : Same (d.move l m) (d'.move l m) := by
  have hcan' : d'.canMove l m = d.canMove l m := by rw [canMove, canMove, h.hasRoom_eq]
  by_cases hcan : d.canMove l m = true
  · rw [hcan] at hcan'
    refine ⟨by rw [here_move, here_move, h.here], ?_⟩
    intro k
    cases hl : isUnder l k with
    | true =>
      obtain ⟨rest, rfl⟩ := isUnder_iff.1 hl
      rw [get?_move_source hcan, get?_move_source hcan']
    | false =>
      cases hm : isUnder m k with
      | true =>
        obtain ⟨rest, rfl⟩ := isUnder_iff.1 hm
        rw [get?_move_target hcan, get?_move_target hcan', h.get?]
      | false =>
        rw [get?_move_of_not_isUnder hcan hl hm, get?_move_of_not_isUnder hcan' hl hm, h.get?]
  · rw [Disk.move, Disk.move, dif_neg hcan, dif_neg (by rwa [hcan'])]
    exact h

/-! ## Requests for changes -/

theorem Same.makeDir (h : Same d d') (p : Path) : Agree (d.makeDir p) (d'.makeDir p) := by
  unfold Disk.makeDir
  rw [h.place_eq]
  refine agree_bind _ ?_
  rintro ⟨l, n | n⟩
  · exact .refused _
  · refine agree_bind _ fun m => ?_
    rw [h.get?]
    split
    · exact .refused _
    · exact .granted (h.put m _)

theorem Same.isDirectory_eq (h : Same d d') (p : Path) : d'.isDirectory p = d.isDirectory p := by
  rw [isDirectory, isDirectory, h.find_eq]

theorem Same.makeDirs (h : Same d d') (ps : List Path) :
    (d'.makeDirs ps).1 = (d.makeDirs ps).1 ∧ Same (d.makeDirs ps).2 (d'.makeDirs ps).2 := by
  induction ps with
  | nil => exact ⟨rfl, h⟩
  | cons p above ih =>
    have hmake := h.makeDir p
    rw [Disk.makeDirs, Disk.makeDirs]
    split
    · exact ⟨rfl, h⟩
    · generalize d.makeDir p = made, d'.makeDir p = made' at hmake
      cases hmake with
      | granted hsame => exact ⟨rfl, hsame⟩
      | refused f =>
        have hdir : (if d'.isDirectory p then Except.ok () else Except.error f) =
            (if d.isDirectory p then Except.ok () else Except.error f) := by
          rw [h.isDirectory_eq]
        cases f with
        | notFound =>
          generalize d.makeDirs above = rest, d'.makeDirs above = rest' at ih
          obtain ⟨r, m⟩ := rest
          obtain ⟨r', m'⟩ := rest'
          obtain ⟨rfl, hsame⟩ : r' = r ∧ Same m m' := ih
          cases r' with
          | error f => exact ⟨rfl, hsame⟩
          | ok u =>
            have hmake := hsame.makeDir p
            simp only
            generalize m.makeDir p = made, m'.makeDir p = made' at hmake
            cases hmake with
            | granted hsame => exact ⟨rfl, hsame⟩
            | refused f =>
              refine ⟨?_, hsame⟩
              simp only [hsame.isDirectory_eq]
        | _ => exact ⟨hdir, h⟩

theorem Same.writeBytes (h : Same d d') (p : Path) (data : ByteArray) :
    Agree (d.writeBytes p data) (d'.writeBytes p data) := by
  unfold Disk.writeBytes
  rw [h.target_eq]
  exact agree_bind _ fun m => .granted (h.put m _)

theorem Same.copyFile (h : Same d d') (p q : Path) :
    Agree (d.copyFile p q) (d'.copyFile p q) := by
  unfold Disk.copyFile
  rw [h.find_eq, h.target_eq]
  refine agree_bind _ ?_
  rintro ⟨l, data | -⟩
  · refine agree_bind _ fun m => ?_
    have hempty := h.put m (.file ByteArray.empty)
    simp only [hempty.get?]
    split
    · exact .granted (hempty.put m _)
    · exact .granted hempty
  · exact .refused _

theorem Same.removeTree (h : Same d d') (p : Path) :
    Agree (d.removeTree p) (d'.removeTree p) := by
  unfold Disk.removeTree
  rw [h.find_eq]
  refine agree_bind _ ?_
  rintro ⟨l, data | -⟩
  · exact .refused _
  · exact .granted (h.clear l)

theorem Same.moveDirectory (h : Same d d') (l m : Location) :
    Agree (d.moveDirectory l m) (d'.moveDirectory l m) := by
  unfold Disk.moveDirectory
  rw [h.get?]
  simp only [h.names_eq_nil_iff]
  split
  · exact .granted h
  · split
    · exact .refused _
    · split
      · exact .refused _
      · split
        · exact .granted (h.move l m)
        · exact .refused _
      · exact .granted (h.move l m)

theorem Same.moveFile (h : Same d d') (l m : Location) :
    Agree (d.moveFile l m) (d'.moveFile l m) := by
  unfold Disk.moveFile
  rw [h.isDirectoryAt_eq]
  split
  · exact .granted h
  · split
    · exact .refused _
    · exact .granted (h.move l m)

theorem Same.rename (h : Same d d') (p q : Path) : Agree (d.rename p q) (d'.rename p q) := by
  unfold Disk.rename
  rw [h.find_eq, h.place_eq]
  refine agree_bind _ ?_
  rintro ⟨l, e⟩
  refine agree_bind _ ?_
  rintro ⟨k, n | n⟩
  · exact .refused _
  · refine agree_bind _ fun m => ?_
    cases e with
    | directory => exact h.moveDirectory l m
    | file data =>
      simp only
      split
      · exact .refused _
      · exact h.moveFile l m

/-! ## Runs -/

theorem Agree.settle (h : Same d d') {x x' : Except Fault Disk} (hx : Agree x x') :
    (d'.settle x').1 = (d.settle x).1 ∧ Same (d.settle x).2 (d'.settle x').2 := by
  cases hx with
  | granted hsame => exact ⟨rfl, hsame⟩
  | refused f => exact ⟨rfl, h⟩

end Disk

/-- Whether a request lists a directory. -/
def Request.Lists : Request → Prop
  | .list _ => True
  | _ => False

/-- Disks that hold the same answer alike, and hold the same afterwards. -/
theorem Disk.Same.answer {d d' : Disk} (h : Same d d') {r : Request} (hr : ¬ r.Lists) :
    (d'.answer r).1 = (d.answer r).1 ∧ Same (d.answer r).2 (d'.answer r).2 := by
  cases r with
  | present p => exact ⟨by simp only [Disk.answer, isPresent, h.find_eq], h⟩
  | isFile p => exact ⟨by simp only [Disk.answer, h.isFile_eq], h⟩
  | isDirectory p => exact ⟨h.isDirectory_eq p, h⟩
  | readText p => exact ⟨by simp only [Disk.answer, h.readText_eq], h⟩
  | list p => exact absurd trivial hr
  | createDirs p => exact h.makeDirs p.ancestors
  | removeTree p => exact (h.removeTree p).settle h
  | copyFile p q => exact (h.copyFile p q).settle h
  | writeText p t => exact (h.writeBytes p t.toBytes).settle h
  | rename p q => exact (h.rename p q).settle h

namespace Script

/-- On disks that hold the same, a script that lists no directory ends alike, tells the same, and
leaves disks that hold the same. -/
theorem Only.run_same {α : Type} {P : Request → Prop} {Q : Event → Prop} {t : Script α}
    (ht : t.Only P Q) (hP : ∀ r, P r → ¬ r.Lists) {d d' : Disk} (h : Disk.Same d d') :
    (t.run d').result = (t.run d).result ∧ (t.run d').events = (t.run d).events ∧
      Disk.Same (t.run d).disk (t.run d').disk := by
  induction t generalizing d d' with
  | done a => exact ⟨rfl, rfl, h⟩
  | fail f => exact ⟨rfl, rfl, h⟩
  | ask r next ih =>
    obtain ⟨hanswer, hsame⟩ := h.answer (hP r ht.1)
    rw [run, run, hanswer]
    exact ih _ (ht.2 _) hsame
  | tell e next ih =>
    obtain ⟨hresult, hevents, hsame⟩ := ih ht.2 h
    refine ⟨hresult, ?_, hsame⟩
    rw [run, run]
    exact congrArg (e :: ·) hevents

theorem Only.ends_same {α : Type} {P : Request → Prop} {Q : Event → Prop} {t : Script α}
    (ht : t.Only P Q) (hP : ∀ r, P r → ¬ r.Lists) {d d' m : Disk} (h : Disk.Same d d')
    {r : Except Failure α} (hrun : t.Ends d r m) : ∃ m', t.Ends d' r m' ∧ Disk.Same m m' := by
  obtain ⟨hresult, -, hsame⟩ := ht.run_same hP h
  obtain ⟨rfl, rfl⟩ := hrun
  exact ⟨_, ⟨hresult, rfl⟩, hsame⟩

end Script
end GuideBundles
