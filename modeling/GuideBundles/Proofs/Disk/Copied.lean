/-
# `Proofs.Disk.Copied` — files that are copied into a directory

A file is found by a path exactly where one could be written by it, and that place depends on
nothing but the directories.  Copying neither makes nor takes away a directory; so while files are
copied into a directory, all paths keep leading to the same places, and only what lies at the places
of the copies is not as it was.
-/
import GuideBundles.Proofs.Disk.Staged
import GuideBundles.Proofs.Path.FileName

namespace GuideBundles.Disk

variable {d d' base : Disk} {p dir : Path} {files : List (Text × ByteArray)}

/-! ## Where a file lies -/

theorem place_eq_ok_iff {l : Location} {n : Text} : d.place p = .ok (l, some n) ↔
    p.flaw? = none ∧ d.walk (d.origin p) p.steps.dropLast = .ok l ∧
      d.get? l = some .directory ∧ p.steps.getLast? = some (.name n) := by
  constructor
  · intro h
    obtain ⟨hflaw, hl, hlast, -⟩ := place_ok h
    refine ⟨hflaw, ?_, hl, hlast⟩
    unfold place at h
    rw [hflaw] at h
    simp only at h
    split at h
    · cases h
    · next m hwalk =>
      rw [hwalk]
      split at h
      · cases h
      · rw [hlast] at h
        rw [(Prod.mk.inj (Except.ok.inj h)).1]
  · rintro ⟨hflaw, hwalk, hl, hlast⟩
    simp [place, hflaw, hwalk, hlast, isDirectoryAt_iff.2 hl]

/-- A file can be written by a path that ends with a name in a directory, if no directory has that
name. -/
theorem target_eq_ok_iff {k : Location} : d.target p = .ok k ↔
    ∃ l n, d.place p = .ok (l, some n) ∧ p.endsWithSlash = false ∧ Text.size n ≤ longestName ∧
      k = l ++ [n] ∧ d.get? k ≠ some .directory := by
  constructor
  · intro h
    have hk := (target_ok h).2.2.2
    obtain ⟨⟨l, n | n⟩, hplace, h⟩ := bind_eq_ok_iff.1 h
    · cases h
    · simp only at h
      split at h
      · cases h
      · next hslash =>
        obtain ⟨m, hchild, h⟩ := bind_eq_ok_iff.1 h
        split at h
        · cases h
        · obtain rfl := Except.ok.inj h
          unfold child at hchild
          split at hchild
          · cases hchild
          · next hsize =>
            exact ⟨l, n, hplace, by simpa using hslash, Nat.not_lt.1 hsize,
              (Except.ok.inj hchild).symm, hk⟩
  · rintro ⟨l, n, hplace, hslash, hsize, rfl, hk⟩
    refine bind_eq_ok_iff.2 ⟨_, hplace, ?_⟩
    have hdir : d.isDirectoryAt (l ++ [n]) = false := by
      rw [← Bool.not_eq_true, isDirectoryAt_iff]
      exact hk
    simp [hslash, child, Nat.not_lt.2 hsize, hdir, bind, Except.bind]

/-- A walk that ends at a file has a name as its last step. -/
theorem steps_of_walk_file {k : Location} {data : ByteArray} (hp : p.spelling ≠ [])
    (hwalk : d.walk (d.origin p) p.steps = .ok k) (hk : d.get? k = some (.file data)) :
    ∃ before l n, p.steps = before ++ [.name n] ∧ d.walk (d.origin p) before = .ok l ∧
      d.get? l = some .directory ∧ k = l ++ [n] := by
  rcases List.eq_nil_or_concat p.steps with hnil | ⟨before, step, hsteps⟩
  · -- Without a step the path is a root, where no file is.
    cases habs : p.isAbsolute with
    | false => exact absurd hnil (Path.steps_ne_nil hp habs)
    | true =>
      rw [hnil, origin, habs] at hwalk
      obtain rfl := Except.ok.inj hwalk
      cases hk
  · rw [List.concat_eq_append] at hsteps
    rw [hsteps, walk_append] at hwalk
    cases hl : d.walk (d.origin p) before with
    | error f => simp [hl, Except.bind] at hwalk
    | ok l =>
      rw [hl] at hwalk
      change d.walk l [step] = _ at hwalk
      rw [walk_cons] at hwalk
      cases hm : d.enter l step with
      | error f => simp [hm, Except.bind] at hwalk
      | ok m =>
        rw [hm] at hwalk
        obtain rfl : m = k := Except.ok.inj hwalk
        obtain ⟨hdir, rfl⟩ := enter_ok hm
        cases step with
        | name n => exact ⟨before, l, n, hsteps, hl, hdir, rfl⟩
        | root => cases hk
        | here =>
          rw [show follow l .here = l from rfl, hdir] at hk
          cases hk
        | up =>
          have hup : d.get? l.dropLast = some .directory := by
            refine directory_of_isUnder ?_ hdir
            exact isUnder_iff.2 ⟨l.drop (l.length - 1), by rw [List.dropLast_eq_take]; simp⟩
          rw [show follow l .up = l.dropLast from rfl, hup] at hk
          cases hk

/-- A file is found where one could be written. -/
theorem find_eq_file_iff_target {k : Location} {data : ByteArray} :
    d.find p = .ok (k, .file data) ↔ d.target p = .ok k ∧ d.get? k = some (.file data) := by
  rw [find_eq_file_iff, target_eq_ok_iff]
  constructor
  · rintro ⟨hflaw, hwalk, hk, hslash⟩
    have hp : p.spelling ≠ [] := by
      intro hp
      simp [Path.flaw?, hp] at hflaw
    obtain ⟨before, l, n, hsteps, hbefore, hl, rfl⟩ := steps_of_walk_file hp hwalk hk
    have hname := (parent_of_get? hk).1
    simp only [isName, decide_eq_true_eq] at hname
    refine ⟨⟨l, n, place_eq_ok_iff.2 ⟨hflaw, ?_, hl, ?_⟩, hslash, hname.2.2.2.2.2, rfl, ?_⟩, hk⟩
    · rwa [hsteps, List.dropLast_concat]
    · rw [hsteps, List.getLast?_concat]
    · simp [hk]
  · rintro ⟨⟨l, n, hplace, hslash, hsize, rfl, -⟩, hk⟩
    obtain ⟨hflaw, hwalk, hl, hlast⟩ := place_eq_ok_iff.1 hplace
    refine ⟨hflaw, ?_, hk, hslash⟩
    obtain ⟨before, hsteps⟩ := List.getLast?_eq_some_iff.1 hlast
    rw [hsteps, List.dropLast_concat] at hwalk
    have henter : d.enter l (.name n) = .ok (l ++ [n]) := by
      simp [enter, isDirectoryAt_iff.2 hl, Nat.not_lt.2 hsize, hk]
    rw [hsteps, walk_append, hwalk]
    change d.walk l [.name n] = _
    rw [walk_cons, henter]
    rfl

theorem fileData?_eq_some_iff_target {data : ByteArray} :
    d.fileData? p = some data ↔ ∃ k, d.target p = .ok k ∧ d.get? k = some (.file data) := by
  rw [fileData?_eq_some_iff]
  exact exists_congr fun _ => find_eq_file_iff_target

/-- What is joined to a path and can be written leads to its own file name. -/
theorem target_join_ok {t n : Text} {k : Location} (hn : Path.fileName? ⟨t⟩ = some n)
    (h : d.target (p.join t) = .ok k) : ∃ l, k = l ++ [n] := by
  obtain ⟨l, m, hplace, -, -, rfl, -⟩ := target_eq_ok_iff.1 h
  obtain ⟨-, -, -, hlast⟩ := place_eq_ok_iff.1 hplace
  exact ⟨l, by rw [Path.eq_of_getLast?_steps_join p hn hlast]⟩

/-! ## The same directories -/

/-- Relative paths start in the same place on both disks, and both have the same directories. -/
structure SameDirectories (d d' : Disk) : Prop where
  here : d'.here = d.here
  directory : ∀ k, d'.get? k = some .directory ↔ d.get? k = some .directory

theorem SameDirectories.symm (h : SameDirectories d d') : SameDirectories d' d :=
  ⟨h.here.symm, fun k => (h.directory k).symm⟩

theorem enter_of_isSome {l k : Location} {step : Path.Part} (h : d.enter l step = .ok k)
    (hl : d'.get? l = some .directory) (hk : (d'.get? k).isSome = true) :
    d'.enter l step = .ok k := by
  obtain ⟨-, rfl⟩ := enter_ok h
  unfold enter at h ⊢
  rw [isDirectoryAt_iff.2 hl]
  cases step with
  | name n =>
    simp only at h
    split at h
    · cases h
    · split at h
      · cases h
      · next hsize =>
        simp only [follow] at hk
        simp [hsize, hk, follow]
  | _ => rfl

/-- A walk to a directory passes through directories alone. -/
theorem SameDirectories.walk (h : SameDirectories d d') {steps : List Path.Part} {l m : Location}
    (hwalk : d.walk l steps = .ok m) (hm : d.get? m = some .directory) :
    d'.walk l steps = .ok m := by
  induction steps generalizing l with
  | nil => exact hwalk
  | cons step steps ih =>
    rw [walk_cons] at hwalk ⊢
    cases hk : d.enter l step with
    | error f => simp [hk, Except.bind] at hwalk
    | ok k =>
      rw [hk] at hwalk
      change d.walk k steps = .ok m at hwalk
      have hkdir : d.get? k = some .directory := by
        cases steps with
        | nil => rwa [Except.ok.inj hwalk]
        | cons next steps =>
          rw [walk_cons] at hwalk
          cases hj : d.enter k next with
          | error f => simp [hj, Except.bind] at hwalk
          | ok j => exact (enter_ok hj).1
      have hl' := (h.directory l).2 (enter_ok hk).1
      have hk' := (h.directory k).2 hkdir
      rw [enter_of_isSome hk hl' (by rw [hk']; rfl)]
      exact ih hwalk

/-- So files can be written to the same places. -/
theorem SameDirectories.target (h : SameDirectories d d') {k : Location}
    (hk : d.target p = .ok k) : d'.target p = .ok k := by
  obtain ⟨l, n, hplace, hslash, hsize, rfl, hno⟩ := target_eq_ok_iff.1 hk
  obtain ⟨hflaw, hwalk, hl, hlast⟩ := place_eq_ok_iff.1 hplace
  have horigin : d'.origin p = d.origin p := by rw [origin, origin, h.here]
  refine target_eq_ok_iff.2 ⟨l, n, place_eq_ok_iff.2 ⟨hflaw, ?_, (h.directory l).2 hl, hlast⟩,
    hslash, hsize, rfl, mt (h.directory _).1 hno⟩
  rw [horigin]
  exact h.walk hwalk hl

theorem SameDirectories.target_iff (h : SameDirectories d d') {k : Location} :
    d'.target p = .ok k ↔ d.target p = .ok k := ⟨h.symm.target, h.target⟩

/-! ## Copies in a directory -/

/-- A copy is made where one can be written.  It has the bytes of what was copied, unless that lay
at the same place. -/
theorem copyFile_eq_ok {q : Path} (h : d.copyFile p q = .ok d') :
    ∃ k m data, d.find p = .ok (k, .file data) ∧ d.target q = .ok m ∧
      Sets m (.file (if k = m then ByteArray.empty else data)) d d' := by
  obtain ⟨data, hfind, -, hsets⟩ := copyFile_ok h
  obtain ⟨⟨k, x | -⟩, hfound, h⟩ := bind_eq_ok_iff.1 h
  · obtain ⟨m, htarget, -⟩ := bind_eq_ok_iff.1 h
    obtain rfl := (target_ok htarget).1
    exact ⟨_, _, data, hfind, htarget, hsets⟩
  · rw [hfound] at hfind
    cases hfind

/-- The second disk is the first one with files written into a directory; of two with one name the
first counts. -/
structure Filled (dir : Path) (base : Disk) (files : List (Text × ByteArray)) (d : Disk) :
    Prop where
  here : d.here = base.here
  place : ∀ n ∈ files.map Prod.fst, base.target (dir.join n) = .ok (base.locate dir ++ [n])
  file : ∀ n data, files.lookup n = some data →
    d.get? (base.locate dir ++ [n]) = some (.file data)
  frame : ∀ k, (∀ n ∈ files.map Prod.fst, k ≠ base.locate dir ++ [n]) → d.get? k = base.get? k

theorem Filled.refl (dir : Path) (base : Disk) : Filled dir base [] base :=
  ⟨rfl, nofun, nofun, fun _ _ => rfl⟩

theorem exists_lookup_of_mem {n : Text} (h : n ∈ files.map Prod.fst) :
    ∃ data, files.lookup n = some data := by
  rw [← Option.isSome_iff_exists, ← Bool.not_eq_false, Option.isSome_eq_false_iff,
    Option.isNone_iff_eq_none, List.lookup_eq_none_iff]
  intro hno
  obtain ⟨x, hx, rfl⟩ := List.mem_map.1 h
  simpa using hno x hx

/-- No directory gives way to a file. -/
theorem Filled.sameDirectories (h : Filled dir base files d) : SameDirectories base d := by
  refine ⟨h.here, fun k => ?_⟩
  by_cases hk : ∀ n ∈ files.map Prod.fst, k ≠ base.locate dir ++ [n]
  · rw [h.frame k hk]
  · simp only [not_forall, not_not] at hk
    obtain ⟨n, hn, rfl⟩ := hk
    obtain ⟨data, hdata⟩ := exists_lookup_of_mem hn
    have hno := (target_ok (h.place n hn)).2.2.2
    rw [h.file n data hdata]
    exact ⟨nofun, fun hdir => absurd hdir hno⟩

/-- A file that was written is found by its name. -/
theorem Filled.fileData?_join (h : Filled dir base files d) {n : Text} {data : ByteArray}
    (hn : files.lookup n = some data) : d.fileData? (dir.join n) = some data := by
  have hmem : n ∈ files.map Prod.fst := List.mem_map.2 ⟨_, mem_of_lookup hn, rfl⟩
  exact fileData?_eq_some_iff_target.2
    ⟨_, h.sameDirectories.target (h.place n hmem), h.file n data hn⟩

/-- A file that none was written in place of is found as before. -/
theorem Filled.fileData?_eq (h : Filled dir base files d)
    (hp : ∀ n ∈ files.map Prod.fst, base.target p ≠ .ok (base.locate dir ++ [n])) :
    d.fileData? p = base.fileData? p := by
  refine Option.ext fun data => ?_
  rw [fileData?_eq_some_iff_target, fileData?_eq_some_iff_target]
  refine exists_congr fun k => ?_
  rw [h.sameDirectories.target_iff]
  refine and_congr_right fun hk => ?_
  rw [h.frame k]
  rintro n hn rfl
  exact hp n hn hk

/-- A copy takes the place of a file with its own name, so a path that leads elsewhere with its file
name leads to what was there before. -/
theorem Filled.fileData?_join_eq (h : Filled dir base files d) {t n : Text}
    (hn : Path.fileName? ⟨t⟩ = some n)
    (hp : base.target (p.join t) ≠ .ok (base.locate dir ++ [n])) :
    d.fileData? (p.join t) = base.fileData? (p.join t) := by
  refine h.fileData?_eq fun m _ htarget => ?_
  obtain ⟨l, hl⟩ := target_join_ok hn htarget
  obtain ⟨-, hm⟩ := List.append_inj' hl rfl
  rw [htarget, hm] at hp
  exact hp rfl

/-- A file that lies where a copy goes is there when it was there before or has been copied. -/
theorem Filled.isSome_fileData?_iff (h : Filled dir base files d) {n : Text}
    (hp : base.target p = .ok (base.locate dir ++ [n])) :
    (d.fileData? p).isSome ↔ n ∈ files.map Prod.fst ∨ (base.fileData? p).isSome := by
  have hiff (d : Disk) (hp : d.target p = .ok (base.locate dir ++ [n])) :
      (d.fileData? p).isSome ↔ ∃ data, d.get? (base.locate dir ++ [n]) = some (.file data) := by
    simp [Option.isSome_iff_exists, fileData?_eq_some_iff_target, hp]
  rw [hiff d (h.sameDirectories.target hp), hiff base hp]
  by_cases hn : n ∈ files.map Prod.fst
  · obtain ⟨data, hdata⟩ := exists_lookup_of_mem hn
    simp only [hn, true_or, iff_true]
    exact ⟨data, h.file n data hdata⟩
  · have hframe : ∀ m ∈ files.map Prod.fst, base.locate dir ++ [n] ≠ base.locate dir ++ [m] := by
      intro m hm heq
      simp only [List.append_cancel_left_eq, List.cons.injEq, and_true] at heq
      exact hn (heq ▸ hm)
    rw [h.frame _ hframe]
    simp only [hn, false_or]

/-- One more file is copied.  What already lies where its copy goes becomes empty. -/
theorem Filled.copyFile {n : Text} (h : Filled dir base files d) (hn : n ≠ []) (hs : '/' ∉ n)
    (hcopy : d.copyFile p (dir.join n) = .ok d') :
    ∃ data, d.fileData? p = some data ∧ Filled dir base
      ((n, if base.target p = .ok (base.locate dir ++ [n]) then ByteArray.empty else data) :: files)
      d' := by
  obtain ⟨k, m, data, hfind, htarget, hsets⟩ := copyFile_eq_ok hcopy
  obtain ⟨hm, hlast, -, -⟩ := target_ok htarget
  rw [(locate_join_of_getLast? d dir hn hs hlast).2, locate_congr h.here] at hm
  subst hm
  have hk : base.target p = .ok k :=
    h.sameDirectories.symm.target (find_eq_file_iff_target.1 hfind).1
  refine ⟨data, fileData?_eq_some_iff.2 ⟨k, hfind⟩, hsets.here.trans h.here, ?_, ?_, ?_⟩
  · intro m hm
    rcases List.mem_cons.1 hm with rfl | hm
    · exact h.sameDirectories.symm.target htarget
    · exact h.place m hm
  · intro m data' hm
    rw [hsets.get?]
    by_cases hmn : m = n
    · subst hmn
      rw [List.lookup_cons_self, hk, Option.some.injEq] at hm
      rw [if_pos rfl, ← hm]
      simp only [Except.ok.injEq]
    · rw [List.lookup_cons, beq_false_of_ne hmn] at hm
      rw [if_neg (by simp [hmn])]
      exact h.file m data' hm
  · intro j hj
    rw [hsets.get?, if_neg (hj n List.mem_cons_self)]
    exact h.frame j fun m hm => hj m (List.mem_cons_of_mem _ hm)

end GuideBundles.Disk
