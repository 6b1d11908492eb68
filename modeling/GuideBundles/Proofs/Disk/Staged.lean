/-
# `Proofs.Disk.Staged` — files put into an empty directory

A directory is emptied, or made with those above it, and then files are put into it one by one.  All
the while the rest of the disk stays as it was, and files elsewhere are found as before.
-/
import GuideBundles.Proofs.Disk.Request

namespace GuideBundles.Disk

variable {d d' base : Disk} {l : Location} {files : List (Text × ByteArray)}

/-! ## Emptied directories -/

/-- The second disk is the first one with an empty directory at a location and directories above
it. -/
structure Emptied (l : Location) (d d' : Disk) : Prop where
  here : d'.here = d.here
  get? : ∀ k, d'.get? k =
    if isUnder k l then some .directory else if isUnder l k then none else d.get? k

/-- A directory is emptied when it is made where nothing lies and all else is as it was. -/
theorem Emptied.of_paved {m : Disk} (hhere : m.here = d.here)
    (hin : ∀ k, isUnder l k = true → m.get? k = none)
    (hout : ∀ k, isUnder l k = false → m.get? k = d.get? k)
    (hpaved : Paved l m d') (hdir : d'.get? l = some .directory) : Emptied l d d' := by
  refine ⟨hpaved.here.trans hhere, ?_⟩
  intro k
  cases hk : isUnder k l with
  | true =>
    rw [if_pos rfl]
    exact directory_of_isUnder hk hdir
  | false =>
    have hsame : d'.get? k = m.get? k := by
      rcases hpaved.get? k with hsame | ⟨hu, -, -⟩
      · exact hsame
      · rw [hk] at hu
        cases hu
    rw [if_neg (by simp), hsame]
    cases hu : isUnder l k with
    | true => exact hin k hu
    | false => exact hout k hu

/-- Making a directory where none is found makes an empty one. -/
theorem emptied_of_makeDirs {p : Path} (hp : p.spelling ≠ []) (hup : .up ∉ p.steps)
    (habsent : d.isPresent p = false) (h : (d.makeDirs p.ancestors).1 = .ok ()) :
    Emptied (d.locate p) d (d.makeDirs p.ancestors).2 := by
  have hpaved := paved_makeDirs_ancestors d hup
  obtain ⟨hflaw, hdir⟩ := reaches_of_makeDirs_ancestors hp h
  rw [locate_congr hpaved.here] at hdir
  have hno : d.get? (d.locate p) ≠ some .directory := by
    intro hd
    rw [isPresent, find_of_get? hflaw hup hd] at habsent
    cases habsent
  have hnone : d.get? (d.locate p) = none := by
    rcases hpaved.get? (d.locate p) with hsame | ⟨-, hnone, -⟩
    · exact absurd (hsame.symm.trans hdir) hno
    · exact hnone
  refine Emptied.of_paved rfl ?_ (fun _ _ => rfl) hpaved hdir
  intro k hk
  obtain ⟨rest, rfl⟩ := isUnder_iff.1 hk
  cases rest with
  | nil => simpa using hnone
  | cons n rest => exact get?_below_eq_none hno n rest

/-- Making a directory again that was removed with all it held makes an empty one. -/
theorem emptied_of_removeTree {m : Disk} {p : Path} (hp : p.spelling ≠ []) (hup : .up ∉ p.steps)
    (hl : d.locate p ≠ []) (hremove : d.removeTree p = .ok m)
    (h : (m.makeDirs p.ancestors).1 = .ok ()) :
    Emptied (d.locate p) d (m.makeDirs p.ancestors).2 := by
  obtain ⟨-, rfl⟩ := removeTree_ok hremove
  have hpaved := paved_makeDirs_ancestors (d.clear (d.locate p)) hup
  obtain ⟨-, hdir⟩ := reaches_of_makeDirs_ancestors hp h
  rw [locate_congr hpaved.here, locate_congr (here_clear d _)] at hdir
  rw [locate_congr (here_clear d _)] at hpaved
  refine Emptied.of_paved (here_clear d _) ?_ ?_ hpaved hdir
  · intro k hk
    rw [get?_clear d hl, if_pos hk]
  · intro k hk
    rw [get?_clear d hl, if_neg (by simp [hk])]

/-! ## Files in a directory -/

/-- A directory that holds files and nothing else; of two with one name the first counts. -/
structure Holds (d : Disk) (l : Location) (files : List (Text × ByteArray)) : Prop where
  directory : d.get? l = some .directory
  below : ∀ n rest, d.get? (l ++ n :: rest) =
    if rest = [] then (files.lookup n).map Entry.file else none

theorem Holds.not_directory (h : d.Holds l files) (n : Text) (rest : Location) :
    d.get? (l ++ n :: rest) ≠ some .directory := by
  rw [h.below]
  split
  · cases files.lookup n <;> simp
  · simp

/-- The second disk is the first one with files in a directory that was empty. -/
structure Staged (l : Location) (base : Disk) (files : List (Text × ByteArray)) (d : Disk) :
    Prop where
  empty : base.Holds l []
  here : d.here = base.here
  holds : d.Holds l files
  elsewhere : ∀ k, (∀ n rest, k ≠ l ++ n :: rest) → d.get? k = base.get? k

theorem Emptied.staged (h : Emptied l d base) : Staged l base [] base := by
  have hempty : base.Holds l [] := by
    refine ⟨?_, ?_⟩
    · rw [h.get?, if_pos (isUnder_self l)]
    · intro n rest
      rw [h.get?, if_neg (by simp [not_isUnder_above]), if_pos (isUnder_append l _)]
      simp
  exact ⟨hempty, rfl, hempty, fun _ _ => rfl⟩

/-- One more file is put into the directory. -/
theorem Staged.sets {n : Text} {data : ByteArray} (h : Staged l base files d)
    (hsets : Sets (l ++ [n]) (.file data) d d') : Staged l base ((n, data) :: files) d' := by
  refine ⟨h.empty, hsets.here.trans h.here, ⟨?_, ?_⟩, ?_⟩
  · rw [hsets.get?, if_neg (by simp)]
    exact h.holds.directory
  · intro m rest
    rw [hsets.get?, h.holds.below]
    by_cases hm : m = n
    · subst hm
      cases rest <;> simp
    · rw [if_neg (by simp [hm]), List.lookup_cons, beq_false_of_ne hm]
  · intro k hk
    rw [hsets.get?, if_neg (hk n [])]
    exact h.elsewhere k hk

/-- A file that could be written by its name is in the directory. -/
theorem Staged.writeBytes {dir : Path} {n : Text} {data : ByteArray}
    (h : Staged (base.locate dir) base files d) (hn : n ≠ []) (hs : '/' ∉ n)
    (hwrite : d.writeBytes (dir.join n) data = .ok d') :
    Staged (base.locate dir) base ((n, data) :: files) d' := by
  obtain ⟨hname, hsets⟩ := writeBytes_ok hwrite
  rw [(locate_join_of_getLast? d dir hn hs hname).2, locate_congr h.here] at hsets
  exact h.sets hsets

/-! ## Files elsewhere -/

/-- The bytes of the file that a path leads to. -/
def fileData? (d : Disk) (p : Path) : Option ByteArray :=
  match d.find p with
  | .ok (_, .file data) => some data
  | _ => none

theorem find_eq_file_iff {p : Path} {k : Location} {data : ByteArray} :
    d.find p = .ok (k, .file data) ↔ p.flaw? = none ∧ d.walk (d.origin p) p.steps = .ok k ∧
      d.get? k = some (.file data) ∧ p.endsWithSlash = false := by
  constructor
  · intro h
    have hflaw := flaw?_of_find_ok h
    unfold find at h
    rw [hflaw] at h
    simp only at h
    split at h
    · cases h
    · next m hwalk =>
      split at h
      · cases h
      · next data' hm =>
        split at h
        · cases h
        · next hslash =>
          simp only [Except.ok.injEq, Prod.mk.injEq, Entry.file.injEq] at h
          obtain ⟨rfl, rfl⟩ := h
          exact ⟨hflaw, hwalk, hm, by simpa using hslash⟩
      · simp at h
  · rintro ⟨hflaw, hwalk, hfile, hslash⟩
    simp [find, hflaw, hwalk, hfile, hslash]

theorem fileData?_eq_some_iff {p : Path} {data : ByteArray} :
    d.fileData? p = some data ↔ ∃ k, d.find p = .ok (k, .file data) := by
  unfold fileData?
  split
  · next k data' hfind => simp [hfind]
  · next hno =>
    constructor
    · nofun
    · rintro ⟨k, hk⟩
      exact absurd hk (hno k data)

theorem isFile_eq_isSome (d : Disk) (p : Path) : d.isFile p = (d.fileData? p).isSome := by
  unfold isFile fileData?
  cases d.find p with
  | error f => rfl
  | ok x =>
    obtain ⟨k, e⟩ := x
    cases e <;> rfl

theorem enter_congr {k : Location} {step : Path.Part} (hk : d.get? k = d'.get? k)
    (hstep : d.get? (follow k step) = d'.get? (follow k step)) :
    d.enter k step = d'.enter k step := by
  unfold enter isDirectoryAt
  rw [hk]
  cases step with
  | name n =>
    simp only [follow] at hstep
    simp only [hstep]
  | _ => rfl

/-- What is below a directory that holds no directories is the end of a walk. -/
theorem steps_eq_nil_of_walk {steps : List Path.Part} {n : Text} {rest m : Location}
    (hflat : d.get? (l ++ n :: rest) ≠ some .directory)
    (h : d.walk (l ++ n :: rest) steps = .ok m) : steps = [] := by
  cases steps with
  | nil => rfl
  | cons step steps =>
    rw [walk_cons] at h
    cases hj : d.enter (l ++ n :: rest) step with
    | error f => simp [hj, Except.bind] at h
    | ok j => exact absurd (enter_ok hj).1 hflat

/-- A walk that ends elsewhere is the same on disks that differ in one directory, if it holds no
directories on the first of them. -/
theorem walk_elsewhere (hflat : ∀ n rest, d.get? (l ++ n :: rest) ≠ some .directory)
    (hsame : ∀ k, (∀ n rest, k ≠ l ++ n :: rest) → d.get? k = d'.get? k)
    {steps : List Path.Part} {k m : Location} (hm : isUnder l m = false)
    (h : d.walk k steps = .ok m) : d'.walk k steps = .ok m := by
  induction steps generalizing k with
  | nil => exact h
  | cons step steps ih =>
    -- Nothing on the way is below the directory, for a walk cannot go on from a file.
    have hout : ∀ j, d.walk j steps = .ok m → ∀ n rest, j ≠ l ++ n :: rest := by
      rintro j hj n rest rfl
      obtain rfl := steps_eq_nil_of_walk (hflat n rest) hj
      obtain rfl := Except.ok.inj hj
      rw [isUnder_append] at hm
      cases hm
    rw [walk_cons] at h ⊢
    cases hj : d.enter k step with
    | error f => simp [hj, Except.bind] at h
    | ok j =>
      rw [hj] at h
      obtain ⟨hk, rfl⟩ := enter_ok hj
      have hkout : ∀ n rest, k ≠ l ++ n :: rest := by
        rintro n rest rfl
        exact hflat n rest hk
      rw [← enter_congr (hsame k hkout) (hsame _ (hout _ h)), hj]
      exact ih h

/-- A file elsewhere is found as on the disk with the empty directory. -/
theorem Staged.fileData?_eq {p : Path} (h : Staged l base files d)
    (hp : isUnder l (base.locate p) = false) : d.fileData? p = base.fileData? p := by
  have horigin : d.origin p = base.origin p := by
    rw [origin, origin, h.here]
  refine Option.ext fun data => ?_
  rw [fileData?_eq_some_iff, fileData?_eq_some_iff]
  refine exists_congr fun k => ?_
  rw [find_eq_file_iff, find_eq_file_iff, horigin]
  have hk : ∀ {m : Disk}, m.walk (base.origin p) p.steps = .ok k → isUnder l k = false := by
    intro m hwalk
    rw [walk_ok hwalk]
    exact hp
  have hget (hout : isUnder l k = false) : d.get? k = base.get? k := by
    refine h.elsewhere k ?_
    rintro n rest rfl
    rw [isUnder_append] at hout
    cases hout
  constructor
  · rintro ⟨hflaw, hwalk, hfile, hslash⟩
    refine ⟨hflaw, ?_, (hget (hk hwalk)).symm.trans hfile, hslash⟩
    exact walk_elsewhere h.holds.not_directory h.elsewhere (hk hwalk) hwalk
  · rintro ⟨hflaw, hwalk, hfile, hslash⟩
    refine ⟨hflaw, ?_, (hget (hk hwalk)).trans hfile, hslash⟩
    refine walk_elsewhere h.empty.not_directory ?_ (hk hwalk) hwalk
    exact fun k hk => (h.elsewhere k hk).symm

/-- A file that could be copied by its name is in the directory; one from elsewhere has the bytes
that it has on the disk with the empty directory. -/
theorem Staged.copyFile {dir p : Path} {n : Text} (h : Staged (base.locate dir) base files d)
    (hn : n ≠ []) (hs : '/' ∉ n) (hcopy : d.copyFile p (dir.join n) = .ok d') :
    ∃ data, Staged (base.locate dir) base ((n, data) :: files) d' ∧
      (isUnder (base.locate dir) (base.locate p) = false → base.fileData? p = some data) := by
  obtain ⟨data, hfind, hname, hsets⟩ := copyFile_ok hcopy
  rw [(locate_join_of_getLast? d dir hn hs hname).2, locate_congr h.here, locate_congr h.here]
    at hsets
  refine ⟨_, h.sets hsets, ?_⟩
  intro hp
  have hne : base.locate p ≠ base.locate dir ++ [n] := by
    intro heq
    rw [heq, isUnder_append] at hp
    cases hp
  rw [if_neg hne, ← h.fileData?_eq hp]
  exact fileData?_eq_some_iff.2 ⟨_, hfind⟩

/-! ## Carried to its place -/

/-- A directory that got another name in the same directory has that name with all it holds, and
nothing has the old name. -/
theorem rename_beside {out : Path} {m n : Text} (hm : Path.stepOf m = .name m) (hm₀ : m ≠ [])
    (hms : '/' ∉ m) (hn₀ : n ≠ []) (hns : '/' ∉ n) (hmn : m ≠ n)
    (hdir : d.get? (d.locate out ++ [m]) = some .directory)
    (hrename : d.rename (out.join m) (out.join n) = .ok d') :
    (out.join n).flaw? = none ∧ Path.stepOf n = .name n ∧ d'.here = d.here ∧
      ∀ rest, d'.get? (d.locate out ++ n :: rest) = d.get? (d.locate out ++ m :: rest) ∧
        d'.get? (d.locate out ++ m :: rest) = none := by
  have hlocm : d.locate (out.join m) = d.locate out ++ [m] := by
    rw [locate_join d out hm₀ hms, hm]
    rfl
  obtain ⟨hflaw, hlast, hroom, hmove⟩ := rename_ok hrename (by rw [hlocm, hdir])
  -- The new name is no dots, or else there were no such name to give.
  obtain ⟨hn, hlocn⟩ := locate_join_of_getLast? d out hn₀ hns hlast
  rw [hlocm, hlocn] at hmove
  rw [hlocn] at hroom
  obtain ⟨hcan, rfl⟩ := moveDirectory_ok hmove hroom (not_isUnder_sibling hmn _ [])
    (not_isUnder_sibling (Ne.symm hmn) _ [])
  refine ⟨hflaw, hn, here_move d _ _, ?_⟩
  intro rest
  rw [List.append_cons _ n rest, List.append_cons _ m rest]
  exact ⟨get?_move_target hcan rest, get?_move_source hcan rest⟩

/-- The directory with its files is found by its new path, and nothing by the old one. -/
theorem Staged.rename {out : Path} {m n : Text} (hup : .up ∉ out.steps)
    (hm : Path.stepOf m = .name m) (hm₀ : m ≠ []) (hms : '/' ∉ m) (hn₀ : n ≠ []) (hns : '/' ∉ n)
    (hmn : m ≠ n) (h : Staged (base.locate (out.join m)) base files d)
    (hrename : d.rename (out.join m) (out.join n) = .ok d') :
    d'.isPresent (out.join m) = false ∧
      d'.find (out.join n) = .ok (d'.locate (out.join n), .directory) ∧
      d'.Holds (d'.locate (out.join n)) files := by
  have hlocm (a : Disk) : a.locate (out.join m) = a.locate out ++ [m] := by
    rw [locate_join a out hm₀ hms, hm]
    rfl
  have hholds := h.holds
  rw [← locate_congr h.here, hlocm] at hholds
  obtain ⟨hflaw, hn, hhere, hmoved⟩ :=
    rename_beside hm hm₀ hms hn₀ hns hmn hholds.directory hrename
  have hlocn : d'.locate (out.join n) = d.locate out ++ [n] := by
    rw [locate_congr hhere, locate_join d out hn₀ hns, hn]
    rfl
  have hnew : d'.Holds (d'.locate (out.join n)) files := by
    rw [hlocn]
    refine ⟨(hmoved []).1.trans hholds.directory, ?_⟩
    intro k rest
    rw [← List.append_cons, (hmoved _).1, List.append_cons]
    exact hholds.below k rest
  refine ⟨?_, ?_, hnew⟩
  · unfold isPresent
    split
    · next x hfind =>
      obtain ⟨k, e⟩ := x
      obtain ⟨rfl, he⟩ := find_ok hfind
      rw [hlocm, locate_congr hhere, (hmoved []).2] at he
      cases he
    · rfl
  · have hupn : .up ∉ (out.join n).steps := by
      rw [Path.steps_join out hn₀ hns, hn]
      simp [hup]
    exact find_of_get? hflaw hupn hnew.directory

end GuideBundles.Disk
