/-
# `Proofs.Disk.Refused` — what cannot be refused, and what a refusal leaves

A directory that was found can be removed, and it can be given a shorter name beside its own when
nothing has that name.  Making a directory can be refused when directories above it have been made
already; but then the directory itself is not among them, for a disk that has it would not refuse.
-/
import GuideBundles.Proofs.Disk.Request

namespace GuideBundles

namespace Text

theorem size_le_of_sublist {s t : Text} (h : s.Sublist t) : size s ≤ size t := by
  induction h with
  | slnil => exact Nat.le_refl _
  | cons c _ ih =>
    rw [size_cons]
    omega
  | cons_cons c _ ih =>
    rw [size_cons, size_cons]
    omega

end Text

/-- A text that is joined in place of one that holds it makes no flaw. -/
theorem Path.flaw?_join_of_sublist {p : Path} {m n : Text} (hms : '/' ∉ m) (hns : '/' ∉ n)
    (hn : n ≠ []) (hsub : n.Sublist m) (h : (p.join m).flaw? = none) : (p.join n).flaw? = none := by
  rw [join_eq p (head?_ne_of_not_mem hms)] at h
  rw [join_eq p (head?_ne_of_not_mem hns)]
  have hmem (c : Char) (hc : c ∈ p.front ++ n) : c ∈ p.front ++ m := by
    rcases List.mem_append.1 hc with hc | hc
    · exact List.mem_append_left _ hc
    · exact List.mem_append_right _ (hsub.subset hc)
  have hsize := Text.size_le_of_sublist hsub
  unfold flaw? at h ⊢
  split at h
  · cases h
  · next hnul =>
    split at h
    · cases h
    · split at h
      · cases h
      · next hlong =>
        rw [if_neg fun hc => hnul (hmem _ hc), if_neg (by simp [hn]), if_neg]
        simp only [Text.size_append] at hlong ⊢
        omega

namespace Disk

variable {d d' : Disk} {p : Path} {f : Fault}

/-! ## Granted requests -/

theorem removeTree_of_get? (hflaw : p.flaw? = none) (hup : .up ∉ p.steps)
    (h : d.get? (d.locate p) = some .directory) : d.removeTree p = .ok (d.clear (d.locate p)) := by
  rw [removeTree, find_of_get? hflaw hup h]
  rfl

/-- There is a place for a name in a directory. -/
theorem place_join {n : Text} (hn : n ≠ []) (hs : '/' ∉ n) (hstep : Path.stepOf n = .name n)
    (hflaw : (p.join n).flaw? = none) (hup : .up ∉ p.steps)
    (h : d.get? (d.locate p) = some .directory) :
    d.place (p.join n) = .ok (d.locate p, some n) := by
  have horigin : d.origin (p.join n) = d.origin p := by
    rw [origin, origin, Path.isAbsolute_join p hs]
  unfold place
  rw [hflaw, horigin, Path.steps_join p hn hs, List.dropLast_concat, hstep,
    walk_of_get? p.root_not_mem_steps hup h, List.getLast?_concat, ← locate]
  simp only [isDirectoryAt_iff.2 h, Bool.not_true, Bool.false_eq_true, if_false]

/-- A directory is given a shorter name beside its own. -/
theorem rename_of_absent {m n : Text} (hup : .up ∉ p.steps) (hm : Path.stepOf m = .name m)
    (hm₀ : m ≠ []) (hms : '/' ∉ m) (hn : Path.stepOf n = .name n) (hn₀ : n ≠ []) (hns : '/' ∉ n)
    (hsub : n.Sublist m) (hne : m ≠ n) (hflaw : (p.join m).flaw? = none)
    (hdir : d.get? (d.locate p ++ [m]) = some .directory)
    (habsent : d.get? (d.locate p ++ [n]) = none) :
    d.rename (p.join m) (p.join n) = .ok (d.move (d.locate p ++ [m]) (d.locate p ++ [n])) := by
  obtain ⟨hname, habove⟩ := parent_of_get? hdir
  have hflawn := Path.flaw?_join_of_sublist hms hns hn₀ hsub hflaw
  have hsize : ¬ longestName < Text.size n := by
    simp only [isName, decide_eq_true_eq] at hname
    have := Text.size_le_of_sublist hsub
    omega
  have hlocs : d.locate p ++ [m] ≠ d.locate p ++ [n] := by simp [hne]
  rw [rename, find_join_of_get? hm₀ hms hm hflaw hup hdir]
  show (d.place (p.join n) >>= _) = _
  rw [place_join hn₀ hns hn hflawn hup habove]
  show (child (d.locate p) n >>= _) = _
  rw [child, if_neg hsize]
  show d.moveDirectory _ _ = _
  rw [moveDirectory, if_neg hlocs, not_isUnder_sibling hne _ [], if_neg (by simp), habsent]

/-! ## Directories stay -/

/-- No file is written in place of a directory. -/
theorem directory_of_writeBytes {data : ByteArray} {k : Location}
    (h : d.writeBytes p data = .ok d') (hk : d.get? k = some .directory) :
    d'.get? k = some .directory := by
  obtain ⟨m, htarget, -⟩ := bind_eq_ok_iff.1 h
  obtain ⟨rfl, -, -, hm⟩ := target_ok htarget
  have hne : k ≠ d.locate p := by
    rintro rfl
    exact hm hk
  rw [(writeBytes_ok h).2.get?, if_neg hne]
  exact hk

/-- And none is copied there. -/
theorem directory_of_copyFile {q : Path} {k : Location} (h : d.copyFile p q = .ok d')
    (hk : d.get? k = some .directory) : d'.get? k = some .directory := by
  obtain ⟨data, -, -, hsets⟩ := copyFile_ok h
  obtain ⟨⟨l, x | -⟩, -, h⟩ := bind_eq_ok_iff.1 h
  · obtain ⟨m, htarget, -⟩ := bind_eq_ok_iff.1 h
    obtain ⟨rfl, -, -, hm⟩ := target_ok htarget
    have hne : k ≠ d.locate q := by
      rintro rfl
      exact hm hk
    rw [hsets.get?, if_neg hne]
    exact hk
  · cases h

/-! ## Directories that could not be made -/

/-- Something above is missing only for a path without a flaw. -/
theorem flaw?_of_makeDir_notFound (hp : p.spelling ≠ []) (h : d.makeDir p = .error .notFound) :
    p.flaw? = none := by
  cases hflaw : p.flaw? with
  | none => rfl
  | some g =>
    have hplace : d.place p = .error g := by rw [place, hflaw]
    rw [makeDir, hplace] at h
    obtain rfl : g = .notFound := Except.error.inj h
    unfold Path.flaw? at hflaw
    rw [if_neg hp] at hflaw
    split at hflaw
    · cases hflaw
    · split at hflaw <;> cases hflaw

/-- When a directory could not be made, either nothing was made, or it is still not there, or one
above it could not be made. -/
theorem makeDirs_cons_error {above : List Path} (hup : .up ∉ p.steps)
    (h : d.makeDirs (p :: above) = (.error f, d')) :
    d' = d ∨ d'.get? (d.locate p) ≠ some .directory ∨
      ∃ g, d.makeDirs above = (.error g, d') := by
  rw [makeDirs] at h
  split at h
  · cases h
  · next hp =>
    split at h
    · cases h
    · next hmissing =>
      split at h
      · next g m habove =>
        obtain ⟨-, rfl⟩ := Prod.mk.inj h
        exact .inr (.inr ⟨g, habove⟩)
      · next m habove =>
        split at h
        · cases h
        · obtain ⟨hrefused, rfl⟩ := Prod.mk.inj h
          refine .inr (.inl ?_)
          intro hdir
          have hhere := here_makeDirs d above
          rw [habove] at hhere
          rw [← locate_congr hhere] at hdir
          have hfind := find_of_get? (flaw?_of_makeDir_notFound hp hmissing) hup hdir
          rw [isDirectory, hfind] at hrefused
          cases hrefused
    · exact .inl (Prod.mk.inj h).2.symm

/-- A directory that is there after it could not be made was there before, and nothing was made. -/
theorem eq_or_get?_of_makeDirs_error {n : Nat} (hup : .up ∉ p.steps)
    (h : d.makeDirs (p.ancestorsFrom n) = (.error f, d')) :
    d' = d ∨ d'.get? (d.locate p) ≠ some .directory := by
  induction n generalizing p f with
  | zero =>
    rcases makeDirs_cons_error hup h with hsame | hno | ⟨g, habove⟩
    · exact .inl hsame
    · exact .inr hno
    · exact .inl (Prod.mk.inj habove).2.symm
  | succ n ih =>
    rcases makeDirs_cons_error hup h with hsame | hno | ⟨g, habove⟩
    · exact .inl hsame
    · exact .inr hno
    · split at habove
      · exact .inl (Prod.mk.inj habove).2.symm
      · next q hq =>
        -- What is missing above is missing here.
        have hleads := Path.leadsTo_of_parent? hq
        have hqup : .up ∉ q.steps := fun hmem => hup (hleads.2.subset hmem)
        have hqne : q.spelling ≠ [] := by
          intro hnil
          cases n <;> simp [Path.ancestorsFrom, makeDirs, hnil] at habove
        refine (ih hqup habove).imp_right fun hno hdir => hno ?_
        exact directory_of_isUnder (isUnder_of_leadsTo d hleads hqne hup) hdir

/-- When a directory could not be made, its place is as it was. -/
theorem get?_of_makeDirs_error (hup : .up ∉ p.steps)
    (h : (d.makeDirs p.ancestors).1 = .error f) (rest : Location) :
    (d.makeDirs p.ancestors).2.get? (d.locate p ++ rest) = d.get? (d.locate p ++ rest) := by
  have hpaved := paved_makeDirs_ancestors d hup
  have hmade : d.makeDirs p.ancestors = (.error f, (d.makeDirs p.ancestors).2) := Prod.ext h rfl
  rcases hpaved.get? (d.locate p ++ rest) with hsame | ⟨hu, hnone, hdir⟩
  · exact hsame
  · cases rest with
    | cons n rest =>
      rw [not_isUnder_above] at hu
      cases hu
    | nil =>
      rw [List.append_nil] at hdir ⊢
      rcases eq_or_get?_of_makeDirs_error hup hmade with hsame | hno
      · rw [hsame]
      · exact absurd hdir hno

end Disk
end GuideBundles
