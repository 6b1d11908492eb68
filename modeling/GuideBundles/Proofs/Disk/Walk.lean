/-
# `Proofs.Disk.Walk` — walking finds what the spelling of a path says

Where a path leads can be told from its steps alone; `Disk.locate` does so.  A walk that gets
through ends there, and it gets through to every directory unless the path goes up.
-/
import GuideBundles.Proofs.Path.Steps

namespace GuideBundles.Disk

/-! ## What lies above -/

/-- What lies below a location lies in a directory there. -/
theorem get?_of_get?_below {d : Disk} {l rest : Location} {n : Text} {e : Entry}
    (h : d.get? (l ++ n :: rest) = some e) : d.get? l = some .directory := by
  induction rest generalizing l n with
  | nil => exact (parent_of_get? h).2
  | cons m rest ih =>
    have hn : d.get? (l ++ [n]) = some .directory := ih (l := l ++ [n]) (n := m) (by simpa using h)
    exact (parent_of_get? hn).2

/-- Nothing lies below what is no directory. -/
theorem get?_below_eq_none {d : Disk} {l : Location} (h : d.get? l ≠ some .directory) (n : Text)
    (rest : Location) : d.get? (l ++ n :: rest) = none :=
  Option.eq_none_iff_forall_ne_some.2 fun _ he => h (get?_of_get?_below he)

/-- Everything above a directory is one. -/
theorem directory_of_isUnder {d : Disk} {k l : Location} (hk : isUnder k l = true)
    (h : d.get? l = some .directory) : d.get? k = some .directory := by
  obtain ⟨rest, rfl⟩ := isUnder_iff.1 hk
  cases rest with
  | nil => simpa using h
  | cons n rest => exact get?_of_get?_below h

/-! ## Where steps lead -/

/-- Where one step leads. -/
def follow (l : Location) : Path.Part → Location
  | .root => []
  | .here => l
  | .up => l.dropLast
  | .name n => l ++ [n]

/-- Where a path leads by its spelling. -/
def locate (d : Disk) (p : Path) : Location := p.steps.foldl follow (d.origin p)

theorem locate_congr {d d' : Disk} (h : d'.here = d.here) (p : Path) :
    d'.locate p = d.locate p := by
  rw [locate, locate, origin, origin, h]

theorem locate_join (d : Disk) (p : Path) {n : Text} (hn : n ≠ []) (hs : '/' ∉ n) :
    d.locate (p.join n) = follow (d.locate p) (Path.stepOf n) := by
  rw [locate, Path.steps_join p hn hs, List.foldl_append, origin, Path.isAbsolute_join p hs]
  rfl

/-- A name that is no dots leads to something in the directory. -/
theorem locate_join_name (d : Disk) (p : Path) {n : Text} (hn : n ≠ []) (hs : '/' ∉ n)
    (h₁ : n ≠ ['.']) (h₂ : n ≠ ['.', '.']) : d.locate (p.join n) = d.locate p ++ [n] := by
  rw [locate_join d p hn hs, Path.stepOf_eq_name_iff.2 ⟨rfl, h₁, h₂⟩]
  rfl

/-- When the last step is a name, what was joined leads to something in the directory. -/
theorem locate_join_of_getLast? (d : Disk) (p : Path) {n : Text} (hn : n ≠ []) (hs : '/' ∉ n)
    (h : ∃ m, (p.join n).steps.getLast? = some (.name m)) :
    Path.stepOf n = .name n ∧ d.locate (p.join n) = d.locate p ++ [n] := by
  obtain ⟨m, hm⟩ := h
  rw [Path.steps_join p hn hs, List.getLast?_concat, Option.some.injEq] at hm
  obtain ⟨rfl, h₁, h₂⟩ := Path.stepOf_eq_name_iff.1 hm
  exact ⟨hm, locate_join_name d p hn hs h₁ h₂⟩

/-- Steps that do not go up lead to somewhere below. -/
theorem isUnder_foldl_follow {steps : List Path.Part} (hroot : .root ∉ steps) (hup : .up ∉ steps)
    (l : Location) : isUnder l (steps.foldl follow l) = true := by
  induction steps generalizing l with
  | nil => exact isUnder_self l
  | cons step steps ih =>
    simp only [List.mem_cons, not_or] at hroot hup
    have hstep : isUnder l (follow l step) = true := by
      cases step with
      | root => exact absurd rfl hroot.1
      | here => exact isUnder_self l
      | up => exact absurd rfl hup.1
      | name n => exact isUnder_append l [n]
    exact isUnder_trans hstep (ih hroot.2 hup.2 _)

/-- A path on the way to one that does not go up leads to somewhere above. -/
theorem isUnder_of_leadsTo (d : Disk) {p q : Path} (h : Path.LeadsTo q p) (hq : q.spelling ≠ [])
    (hup : .up ∉ p.steps) : isUnder (d.locate q) (d.locate p) = true := by
  obtain ⟨more, hmore⟩ := h.2
  have hroot := p.root_not_mem_steps
  rw [← hmore, List.mem_append, not_or] at hroot hup
  rw [locate, locate, origin, origin, h.isAbsolute hq, ← hmore, List.foldl_append]
  exact isUnder_foldl_follow hroot.2 hup.2 _

/-! ## Walks that get through -/

theorem enter_ok {d : Disk} {l m : Location} {step : Path.Part} (h : d.enter l step = .ok m) :
    d.get? l = some .directory ∧ m = follow l step := by
  unfold enter at h
  split at h
  · cases h
  · next hdir =>
    refine ⟨isDirectoryAt_iff.1 (by simpa using hdir), ?_⟩
    cases step with
    | name n =>
      simp only at h
      split at h
      · cases h
      · split at h
        · exact (Except.ok.inj h).symm
        · cases h
    | _ => exact (Except.ok.inj h).symm

theorem walk_cons (d : Disk) (l : Location) (step : Path.Part) (steps : List Path.Part) :
    d.walk l (step :: steps) = (d.enter l step).bind fun m => d.walk m steps := by
  rw [walk]
  cases d.enter l step <;> rfl

theorem walk_ok {d : Disk} {l m : Location} {steps : List Path.Part} (h : d.walk l steps = .ok m) :
    m = steps.foldl follow l := by
  induction steps generalizing l with
  | nil => exact (Except.ok.inj h).symm
  | cons step steps ih =>
    rw [walk_cons] at h
    cases hk : d.enter l step with
    | error f => simp [hk, Except.bind] at h
    | ok k =>
      rw [hk] at h
      obtain rfl := (enter_ok hk).2
      exact ih h

theorem find_ok {d : Disk} {p : Path} {l : Location} {e : Entry} (h : d.find p = .ok (l, e)) :
    l = d.locate p ∧ d.get? l = some e := by
  unfold find at h
  split at h
  · cases h
  · split at h
    · cases h
    · next m hwalk =>
      obtain rfl := walk_ok hwalk
      split at h
      · cases h
      · next data hdata =>
        split at h
        · cases h
        · obtain ⟨rfl, rfl⟩ := Prod.mk.inj (Except.ok.inj h)
          exact ⟨rfl, hdata⟩
      · next hdir =>
        obtain ⟨rfl, rfl⟩ := Prod.mk.inj (Except.ok.inj h)
        exact ⟨rfl, hdir⟩

theorem flaw?_of_find_ok {d : Disk} {p : Path} {x : Location × Entry} (h : d.find p = .ok x) :
    p.flaw? = none := by
  cases hflaw : p.flaw? with
  | none => rfl
  | some f => simp [find, hflaw] at h

theorem walk_of_find_ok {d : Disk} {p : Path} {x : Location × Entry} (h : d.find p = .ok x) :
    d.walk (d.origin p) p.steps = .ok (d.locate p) := by
  cases hwalk : d.walk (d.origin p) p.steps with
  | error f => simp [find, flaw?_of_find_ok h, hwalk] at h
  | ok l => rw [walk_ok hwalk, locate]

/-- A directory is found by a path that does not go up. -/
theorem walk_of_get? {d : Disk} {steps : List Path.Part} (hroot : .root ∉ steps)
    (hup : .up ∉ steps) {l : Location} (h : d.get? (steps.foldl follow l) = some .directory) :
    d.walk l steps = .ok (steps.foldl follow l) := by
  induction steps generalizing l with
  | nil => rfl
  | cons step steps ih =>
    have hl : d.get? l = some .directory :=
      directory_of_isUnder (isUnder_foldl_follow hroot hup l) h
    have hdir := isDirectoryAt_iff.2 hl
    simp only [List.mem_cons, not_or] at hroot hup
    have hm : d.get? (follow l step) = some .directory :=
      directory_of_isUnder (isUnder_foldl_follow hroot.2 hup.2 _) h
    have henter : d.enter l step = .ok (follow l step) := by
      cases step with
      | name n =>
        have hsize : ¬ longestName < Text.size n := by
          have hn := (parent_of_get? hm).1
          simp only [isName, decide_eq_true_eq] at hn
          exact Nat.not_lt.2 hn.2.2.2.2.2
        simp only [follow] at hm
        simp [enter, hdir, hsize, hm, follow]
      | _ => simp [enter, hdir, follow]
    rw [walk_cons, henter]
    exact ih hroot.2 hup.2 h

theorem find_of_get? {d : Disk} {p : Path} (hflaw : p.flaw? = none) (hup : .up ∉ p.steps)
    (h : d.get? (d.locate p) = some .directory) : d.find p = .ok (d.locate p, .directory) := by
  rw [find, hflaw, walk_of_get? p.root_not_mem_steps hup h]
  simp only [locate] at h
  simp [h, locate]

theorem walk_append (d : Disk) (l : Location) (steps more : List Path.Part) :
    d.walk l (steps ++ more) = (d.walk l steps).bind fun m => d.walk m more := by
  induction steps generalizing l with
  | nil => rfl
  | cons step steps ih =>
    rw [List.cons_append, walk_cons, walk_cons]
    cases d.enter l step with
    | error f => rfl
    | ok m => exact ih m

/-- What has a name in a directory that a walk gets to is found by that name. -/
theorem find_join_of_walk {d : Disk} {p : Path} {n : Text} (hn : n ≠ []) (hs : '/' ∉ n)
    (hstep : Path.stepOf n = .name n) (hflaw : (p.join n).flaw? = none)
    (hp : d.walk (d.origin p) p.steps = .ok (d.locate p)) {e : Entry}
    (h : d.get? (d.locate p ++ [n]) = some e) : d.find (p.join n) = .ok (d.locate p ++ [n], e) := by
  obtain ⟨hname, hdir⟩ := parent_of_get? h
  have hsize : ¬ longestName < Text.size n := by
    simp only [isName, decide_eq_true_eq] at hname
    exact Nat.not_lt.2 hname.2.2.2.2.2
  have hwalk : d.walk (d.origin (p.join n)) (p.join n).steps = .ok (d.locate p ++ [n]) := by
    have horigin : d.origin (p.join n) = d.origin p := by
      rw [origin, origin, Path.isAbsolute_join p hs]
    have henter : d.enter (d.locate p) (.name n) = .ok (d.locate p ++ [n]) := by
      simp [enter, isDirectoryAt_iff.2 hdir, hsize, h]
    rw [horigin, Path.steps_join p hn hs, hstep, walk_append, hp]
    change d.walk (d.locate p) [.name n] = _
    rw [walk_cons, henter]
    rfl
  have hslash : (p.join n).endsWithSlash = false := Path.endsWithSlash_join p hn hs
  rw [find, hflaw, hwalk]
  cases e with
  | file data => simp [h, hslash]
  | directory => simp [h]

/-- What has a name in a directory is found by that name. -/
theorem find_join_of_get? {d : Disk} {p : Path} {n : Text} (hn : n ≠ []) (hs : '/' ∉ n)
    (hstep : Path.stepOf n = .name n) (hflaw : (p.join n).flaw? = none) (hup : .up ∉ p.steps)
    {e : Entry} (h : d.get? (d.locate p ++ [n]) = some e) :
    d.find (p.join n) = .ok (d.locate p ++ [n], e) :=
  find_join_of_walk hn hs hstep hflaw
    (walk_of_get? p.root_not_mem_steps hup (parent_of_get? h).2) h

/-! ## Places for something new -/

theorem place_ok {d : Disk} {p : Path} {l : Location} {n : Text}
    (h : d.place p = .ok (l, some n)) : p.flaw? = none ∧ d.get? l = some .directory ∧
      p.steps.getLast? = some (.name n) ∧ l ++ [n] = d.locate p := by
  unfold place at h
  split at h
  · cases h
  · next hflaw =>
    split at h
    · cases h
    · next m hwalk =>
      split at h
      · cases h
      · next hdir =>
        split at h
        · next k hlast =>
          obtain ⟨rfl, hk⟩ := Prod.mk.inj (Except.ok.inj h)
          obtain rfl := Option.some.inj hk
          obtain ⟨before, hsteps⟩ := List.getLast?_eq_some_iff.1 hlast
          refine ⟨hflaw, isDirectoryAt_iff.1 (by simpa using hdir), hlast, ?_⟩
          rw [hsteps, List.dropLast_concat] at hwalk
          rw [walk_ok hwalk, locate, hsteps, List.foldl_append]
          rfl
        · cases (Prod.mk.inj (Except.ok.inj h)).2

/-- A directory that is found has a place. -/
theorem place_of_find_ok {d : Disk} {p : Path} {l : Location}
    (h : d.find p = .ok (l, .directory)) : ∃ m n, d.place p = .ok (m, n) := by
  have hwalk := walk_of_find_ok h
  have hbefore : ∃ m, d.walk (d.origin p) p.steps.dropLast = .ok m ∧
      d.get? m = some .directory := by
    rcases List.eq_nil_or_concat p.steps with hsteps | ⟨before, last, hsteps⟩
    · obtain ⟨rfl, hdir⟩ := find_ok h
      rw [locate, hsteps] at hdir
      rw [hsteps]
      exact ⟨d.origin p, rfl, hdir⟩
    · rw [hsteps, List.concat_eq_append, walk_append] at hwalk
      rw [hsteps, List.concat_eq_append, List.dropLast_concat]
      cases hm : d.walk (d.origin p) before with
      | error f => simp [hm, Except.bind] at hwalk
      | ok m =>
        rw [hm] at hwalk
        change d.walk m [last] = _ at hwalk
        rw [walk_cons] at hwalk
        cases hk : d.enter m last with
        | error f => simp [hk, Except.bind] at hwalk
        | ok k => exact ⟨m, rfl, (enter_ok hk).1⟩
  obtain ⟨m, hm, hdir⟩ := hbefore
  unfold place
  rw [flaw?_of_find_ok h, hm]
  simp only [isDirectoryAt_iff.2 hdir]
  cases p.steps.getLast? with
  | none => exact ⟨m, none, rfl⟩
  | some step => cases step <;> exact ⟨m, _, rfl⟩

theorem nul_not_mem_of_flaw? {p : Path} (h : p.flaw? = none) : '\x00' ∉ p.spelling := by
  unfold Path.flaw? at h
  split at h
  · cases h
  · assumption

/-- Where a path leads there is room, if it has a place with a name that is not too long. -/
theorem hasRoom_of_place {d : Disk} {p : Path} {l m : Location} {n : Text}
    (h : d.place p = .ok (l, some n)) (hm : child l n = .ok m) :
    m = d.locate p ∧ d.hasRoom m = true := by
  obtain ⟨hflaw, hl, hn, hloc⟩ := place_ok h
  obtain ⟨h₀, h₁, h₂, hs, hchars⟩ := Path.of_name_mem_steps (List.mem_of_getLast? hn)
  unfold child at hm
  split at hm
  · cases hm
  · next hsize =>
    obtain rfl := Except.ok.inj hm
    refine ⟨hloc, hasRoom_append.2 ⟨?_, hl⟩⟩
    simp only [isName, decide_eq_true_eq]
    exact ⟨h₀, h₁, h₂, hs, fun hc => nul_not_mem_of_flaw? hflaw (hchars _ hc), Nat.not_lt.1 hsize⟩

end GuideBundles.Disk
