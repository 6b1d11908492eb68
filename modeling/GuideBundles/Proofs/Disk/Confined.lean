/-
# `Proofs.Disk.Confined` — changes that are confined to some places

A request that changes a disk changes it at the places that it names and below them.  The only other
thing that it may do is to make directories on the way to a place, where nothing was before.  That
holds whether or not the request is granted, so it holds at any time of a run.

A path that goes up can lead through directories that are not above its end, and then directories
are made there; `Within` allows for that, and `Confined` is what it comes to for other paths.
-/
import GuideBundles.Proofs.Disk.Way
import GuideBundles.Proofs.Disk.Request
import GuideBundles.Proofs.Path.Inside

namespace GuideBundles.Disk

variable {d d' : Disk} {top : Location} {places : List Location}

/-- The second disk is the first one, apart from what lies at some places and below, and from
directories that were made at `top` and above. -/
structure Confined (top : Location) (places : List Location) (d d' : Disk) : Prop where
  here : d'.here = d.here
  get? : ∀ k, (∀ l ∈ places, isUnder l k = false) → d'.get? k = d.get? k ∨
    (isUnder k top = true ∧ d.get? k = none ∧ d'.get? k = some .directory)

theorem Confined.refl (top : Location) (places : List Location) (d : Disk) :
    Confined top places d d := ⟨rfl, fun _ _ => .inl rfl⟩

theorem Confined.trans {d₁ d₂ d₃ : Disk} (h : Confined top places d₁ d₂)
    (h' : Confined top places d₂ d₃) : Confined top places d₁ d₃ :=
  ⟨h'.here.trans h.here, fun k hk => same_or_made_trans (h.get? k hk) (h'.get? k hk)⟩

theorem Confined.mono {places' : List Location} (h : Confined top places d d')
    (hsub : places ⊆ places') : Confined top places' d d' :=
  ⟨h.here, fun k hk => h.get? k fun l hl => hk l (hsub hl)⟩

/-- What does not lie above stays as it was. -/
theorem Confined.get?_eq (h : Confined top places d d') {k : Location}
    (hk : ∀ l ∈ places, isUnder l k = false) (hu : isUnder k top = false) :
    d'.get? k = d.get? k := by
  rcases h.get? k hk with hsame | ⟨hu', -, -⟩
  · exact hsame
  · rw [hu] at hu'
    cases hu'

/-! ## Changes -/

section Within

variable {made : Location → Prop}

theorem Within.mono {places' : List Location} (h : Within made places d d')
    (hsub : places ⊆ places') : Within made places' d d' :=
  ⟨h.here, fun k hk => h.get? k fun l hl => hk l (hsub hl)⟩

/-- A path that does not go up leads through what is above its end. -/
theorem Within.confined {p : Path} (hup : .up ∉ p.steps) (h : Within (· ∈ d.way p) places d d') :
    Confined (d.locate p) places d d' :=
  ⟨h.here, fun k hk => (h.get? k hk).imp_right fun hmade => hmade.imp_left (isUnder_of_mem_way hup)⟩

theorem Sets.within {m : Location} {e : Entry} (h : Sets m e d d')
    (hm : ∃ l ∈ places, isUnder l m = true) : Within made places d d' := by
  obtain ⟨l, hl, hu⟩ := hm
  refine ⟨h.here, ?_⟩
  intro k hk
  have hne : k ≠ m := by
    rintro rfl
    rw [hk l hl] at hu
    cases hu
  rw [h.get?, if_neg hne]
  exact .inl rfl

theorem within_clear {l : Location} (hl : l ∈ places) (hne : l ≠ []) :
    Within made places d (d.clear l) := by
  refine ⟨here_clear d l, ?_⟩
  intro k hk
  rw [get?_clear d hne, if_neg (by simp [hk l hl])]
  exact .inl rfl

theorem within_move {l m : Location} (hl : l ∈ places) (hm : m ∈ places) :
    Within made places d (d.move l m) := by
  refine ⟨here_move d l m, ?_⟩
  intro k hk
  by_cases hcan : d.canMove l m = true
  · exact .inl (get?_move_of_not_isUnder hcan (hk l hl) (hk m hm))
  · rw [move, dif_neg hcan]
    exact .inl rfl

theorem within_moveDirectory {l m : Location} (hl : l ∈ places) (hm : m ∈ places)
    (h : d.moveDirectory l m = .ok d') : Within made places d d' := by
  unfold moveDirectory at h
  split at h
  · obtain rfl := Except.ok.inj h
    exact Within.refl made places d
  · split at h
    · cases h
    · split at h
      · cases h
      · split at h
        · obtain rfl := Except.ok.inj h
          exact within_move hl hm
        · cases h
      · obtain rfl := Except.ok.inj h
        exact within_move hl hm

theorem within_moveFile {l m : Location} (hl : l ∈ places) (hm : m ∈ places)
    (h : d.moveFile l m = .ok d') : Within made places d d' := by
  unfold moveFile at h
  split at h
  · obtain rfl := Except.ok.inj h
    exact Within.refl made places d
  · split at h
    · cases h
    · obtain rfl := Except.ok.inj h
      exact within_move hl hm

/-- Whatever gets another path, only the two places change, and the new path ends with a name. -/
theorem within_rename {p q : Path} (h : d.rename p q = .ok d') :
    (∃ n, q.steps.getLast? = some (.name n)) ∧
      Within made [d.locate p, d.locate q] d d' := by
  obtain ⟨⟨l, e⟩, hfind, h⟩ := bind_eq_ok_iff.1 h
  obtain ⟨rfl, -⟩ := find_ok hfind
  obtain ⟨⟨k, n | n⟩, hplace, h⟩ := bind_eq_ok_iff.1 h
  · cases h
  · obtain ⟨m, hchild, h⟩ := bind_eq_ok_iff.1 h
    obtain ⟨rfl, -⟩ := hasRoom_of_place hplace hchild
    refine ⟨⟨n, (place_ok hplace).2.2.1⟩, ?_⟩
    cases e with
    | directory => exact within_moveDirectory (by simp) (by simp) h
    | file data =>
      simp only at h
      split at h
      · cases h
      · exact within_moveFile (by simp) (by simp) h

/-! ## Staying in a directory -/

/-- Steps that never leave a directory lead to somewhere below it. -/
theorem isUnder_foldl_follow_of_keepIn {steps : List Path.Part} {l k : Location}
    (h : Path.keepIn k.length steps = true) :
    isUnder l (steps.foldl follow (l ++ k)) = true := by
  induction steps generalizing k with
  | nil => exact isUnder_append l k
  | cons step steps ih =>
    cases step with
    | root => cases k <;> cases h
    | here => exact ih h
    | name n =>
      have hstep : follow (l ++ k) (.name n) = l ++ (k ++ [n]) := List.append_assoc l k [n]
      rw [List.foldl_cons, hstep]
      exact ih (by rw [List.length_append]; exact h)
    | up =>
      rcases List.eq_nil_or_concat k with rfl | ⟨k, n, rfl⟩
      · cases h
      · have hstep : follow (l ++ (k ++ [n])) .up = l ++ k := by
          show (l ++ (k ++ [n])).dropLast = l ++ k
          rw [← List.append_assoc, List.dropLast_concat]
        rw [List.concat_eq_append, List.foldl_cons, hstep]
        rw [List.concat_eq_append, List.length_append] at h
        exact ih h

/-- Where a joined text that stays in a directory ends with a name, it lies in that directory. -/
theorem isUnder_locate_join {dir : Path} {t : Text} (ht : Path.staysIn t = true) (n : Text)
    (hlast : (dir.join t).steps.getLast? = some (.name n)) :
    isUnder (d.locate dir) (d.locate (dir.join t)) = true := by
  obtain ⟨hrel, hkeep⟩ := Path.staysIn_iff.1 ht
  rw [Path.steps_join_relative dir hrel] at hlast
  have hlocate : d.locate (dir.join t) = (Path.steps ⟨t⟩).foldl follow (d.locate dir ++ []) := by
    rw [locate, Path.steps_join_relative dir hrel, List.foldl_append, origin,
      Path.isAbsolute_join_relative dir hrel, List.append_nil]
    rfl
  rw [hlocate]
  refine isUnder_foldl_follow_of_keepIn ?_
  rcases List.eq_nil_or_concat (Path.steps ⟨t⟩) with hnil | ⟨steps, step, hsteps⟩
  · rw [hnil]
    rfl
  · rw [hsteps, List.concat_eq_append] at hlast hkeep ⊢
    rw [← List.append_assoc, List.getLast?_concat, Option.some.injEq] at hlast
    rw [hlast, List.length_nil, Path.keepIn_append_name]
    rwa [List.dropLast_concat] at hkeep

/-! ## Requests -/

/-- A request for a change is granted, or the disk stays as it was. -/
theorem settle_cases {R : Disk → Disk → Prop} (hrefl : R d d) {x : Except Fault Disk}
    (h : ∀ d', x = .ok d' → R d d') : R d (d.settle x).2 := by
  cases x with
  | ok m => exact h m rfl
  | error f => exact hrefl

/-- Directories are made on the way to the last one. -/
theorem within_answer_createDirs {p : Path}
    (h : ∀ k ∈ d.way p, made k ∨ ∃ l ∈ places, isUnder l k = true) :
    Within made places d (d.answer (.createDirs p)).2 := by
  refine within_makeDirs ?_
  intro q hq hne
  exact h _ (locate_mem_way_of_leadsTo d (Path.leadsTo_of_mem_ancestors hq) hne)

/-- Making directories loses nothing, so a directory that was found is found after it. -/
theorem isDirectory_makeDirs {p : Path} (h : d.isDirectory p = true) (ps : List Path) :
    (d.makeDirs ps).2.isDirectory p = true := by
  have hwithin : Within (fun _ => True) [] d (d.makeDirs ps).2 :=
    within_makeDirs fun _ _ _ => .inl trivial
  have hkept {k : Location} {e : Entry} (he : d.get? k = some e) :
      d.get? k = (d.makeDirs ps).2.get? k := by
    rcases hwithin.get? k nofun with hsame | ⟨-, hnone, -⟩
    · exact hsame.symm
    · rw [hnone] at he
      cases he
  have hfind := isDirectory_iff.1 h
  have hsame : d.find p = (d.makeDirs ps).2.find p := by
    refine find_congr hwithin.here.symm ?_ (hkept (find_ok hfind).2)
    intro k hk
    obtain ⟨e, he⟩ := get?_of_mem_way hfind hk
    exact kind?_congr (hkept he)
  rw [isDirectory, ← hsame, hfind]

theorem within_answer_removeTree {p : Path} (hp : d.locate p ∈ places) (hne : d.locate p ≠ []) :
    Within made places d (d.answer (.removeTree p)).2 := by
  refine settle_cases (Within.refl made places d) ?_
  intro m hm
  obtain ⟨-, rfl⟩ := removeTree_ok hm
  exact within_clear hp hne

theorem within_answer_writeText {p : Path} (t : Text)
    (h : ∀ n, p.steps.getLast? = some (.name n) → ∃ l ∈ places, isUnder l (d.locate p) = true) :
    Within made places d (d.answer (.writeText p t)).2 := by
  refine settle_cases (Within.refl made places d) ?_
  intro m hm
  obtain ⟨⟨n, hname⟩, hsets⟩ := writeBytes_ok hm
  exact hsets.within (h n hname)

theorem within_answer_copyFile {q : Path} (p : Path)
    (h : ∀ n, q.steps.getLast? = some (.name n) → ∃ l ∈ places, isUnder l (d.locate q) = true) :
    Within made places d (d.answer (.copyFile p q)).2 := by
  refine settle_cases (Within.refl made places d) ?_
  intro m hm
  obtain ⟨data, -, ⟨n, hname⟩, hsets⟩ := copyFile_ok hm
  exact hsets.within (h n hname)

theorem within_answer_rename {dir : Path} {p : Path} {n : Text} (hn : n ≠ []) (hs : '/' ∉ n)
    (hp : d.locate p ∈ places) (hdir : d.locate dir ++ [n] ∈ places) :
    Within made places d (d.answer (.rename p (dir.join n))).2 := by
  refine settle_cases (Within.refl made places d) ?_
  intro m hm
  obtain ⟨hname, hwithin⟩ := within_rename hm
  rw [(locate_join_of_getLast? d dir hn hs hname).2] at hwithin
  refine hwithin.mono ?_
  intro l hl
  rcases List.mem_cons.1 hl with rfl | hl
  · exact hp
  · rwa [List.mem_singleton.1 hl]

end Within

/-- No request changes where relative paths start. -/
theorem here_answer (d : Disk) (r : Request) : (d.answer r).2.here = d.here := by
  have hsettle {x : Except Fault Disk} (h : ∀ m, x = .ok m → m.here = d.here) :
      (d.settle x).2.here = d.here := settle_cases (R := fun a b => b.here = a.here) rfl h
  cases r with
  | createDirs p => exact here_makeDirs d p.ancestors
  | removeTree p =>
    refine hsettle fun m hm => ?_
    obtain ⟨-, rfl⟩ := removeTree_ok hm
    exact here_clear d _
  | copyFile p q =>
    refine hsettle fun m hm => ?_
    obtain ⟨data, -, -, hsets⟩ := copyFile_ok hm
    exact hsets.here
  | writeText p t => exact hsettle fun m hm => (writeBytes_ok hm).2.here
  | rename p q =>
    refine hsettle fun m hm => ?_
    have hwithin : Within (fun _ => False) [d.locate p, d.locate q] d m := (within_rename hm).2
    exact hwithin.here
  | _ => rfl

end GuideBundles.Disk
