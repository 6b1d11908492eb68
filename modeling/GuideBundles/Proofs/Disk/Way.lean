/-
# `Proofs.Disk.Way` — what a walk depends on

A walk passes one location after the other, and only what lies on its way decides whether it gets
through.  For that it does not matter what is in a file; so disks on which the same kinds of things
lie on the way to a path have the same answers when they are asked whether something is there.
-/
import GuideBundles.Proofs.Disk.Names

namespace GuideBundles

/-- Whether an entry is a directory. -/
def Entry.isDirectory : Entry → Bool
  | .directory => true
  | .file _ => false

namespace Disk

variable {d d' : Disk}

/-! ## Kinds -/

/-- The kind of what lies at a location, if anything does: whether it is a directory. -/
def kind? (d : Disk) (l : Location) : Option Bool := (d.get? l).map Entry.isDirectory

theorem kind?_eq_true_iff {l : Location} : d.kind? l = some true ↔ d.get? l = some .directory := by
  unfold kind?
  cases d.get? l with
  | none => simp
  | some e => cases e <;> simp [Entry.isDirectory]

theorem kind?_eq_none_iff {l : Location} : d.kind? l = none ↔ d.get? l = none := by
  rw [kind?, Option.map_eq_none_iff]

theorem kind?_congr {l : Location} (h : d.get? l = d'.get? l) : d.kind? l = d'.kind? l := by
  rw [kind?, kind?, h]

theorem isDirectoryAt_congr {l : Location} (h : d.kind? l = d'.kind? l) :
    d.isDirectoryAt l = d'.isDirectoryAt l := by
  rw [Bool.eq_iff_iff, isDirectoryAt_iff, isDirectoryAt_iff, ← kind?_eq_true_iff,
    ← kind?_eq_true_iff, h]

theorem isSome_congr {l : Location} (h : d.kind? l = d'.kind? l) :
    (d.get? l).isSome = (d'.get? l).isSome := by
  have hsome (m : Disk) : (m.get? l).isSome = (m.kind? l).isSome := by
    rw [kind?, Option.isSome_map]
  rw [hsome, hsome, h]

/-! ## Ways -/

/-- The locations that steps pass, with both ends. -/
def wayFrom : Location → List Path.Part → List Location
  | l, [] => [l]
  | l, step :: steps => l :: wayFrom (follow l step) steps

/-- The locations that a walk by a path passes, with both ends. -/
def way (d : Disk) (p : Path) : List Location := wayFrom (d.origin p) p.steps

theorem way_congr (h : d'.here = d.here) (p : Path) : d'.way p = d.way p := by
  rw [way, way, origin, origin, h]

theorem start_mem_wayFrom (l : Location) (steps : List Path.Part) : l ∈ wayFrom l steps := by
  cases steps <;> exact List.mem_cons_self

theorem end_mem_wayFrom (l : Location) (steps : List Path.Part) :
    steps.foldl follow l ∈ wayFrom l steps := by
  induction steps generalizing l with
  | nil => exact List.mem_cons_self
  | cons step steps ih => exact List.mem_cons_of_mem _ (ih _)

theorem locate_mem_way (d : Disk) (p : Path) : d.locate p ∈ d.way p :=
  end_mem_wayFrom _ _

theorem wayFrom_append_step (l : Location) (steps : List Path.Part) (step : Path.Part) :
    wayFrom l (steps ++ [step]) = wayFrom l steps ++ [follow (steps.foldl follow l) step] := by
  induction steps generalizing l with
  | nil => rfl
  | cons first steps ih =>
    rw [List.cons_append, wayFrom, ih, wayFrom]
    rfl

/-- The way to a name in a directory is the way to the directory and then the name. -/
theorem way_join (d : Disk) (p : Path) {n : Text} (hn : n ≠ []) (hs : '/' ∉ n)
    (h₁ : n ≠ ['.']) (h₂ : n ≠ ['.', '.']) :
    d.way (p.join n) = d.way p ++ [d.locate p ++ [n]] := by
  have horigin : d.origin (p.join n) = d.origin p := by
    rw [origin, origin, Path.isAbsolute_join p hs]
  rw [way, horigin, Path.steps_join p hn hs, Path.stepOf_eq_name_iff.2 ⟨rfl, h₁, h₂⟩,
    wayFrom_append_step]
  rfl

theorem forall_mem_way_join {P : Location → Prop} (d : Disk) (p : Path) {n : Text} (hn : n ≠ [])
    (hs : '/' ∉ n) (h₁ : n ≠ ['.']) (h₂ : n ≠ ['.', '.']) :
    (∀ k ∈ d.way (p.join n), P k) ↔ (∀ k ∈ d.way p, P k) ∧ P (d.locate p ++ [n]) := by
  rw [way_join d p hn hs h₁ h₂, List.forall_mem_append, List.forall_mem_singleton]

/-- The way of steps that do not go up is above its end. -/
theorem isUnder_of_mem_wayFrom {steps : List Path.Part} (hroot : .root ∉ steps)
    (hup : .up ∉ steps) {l k : Location} (hk : k ∈ wayFrom l steps) :
    isUnder k (steps.foldl follow l) = true := by
  induction steps generalizing l with
  | nil =>
    rw [List.mem_singleton.1 hk]
    exact isUnder_self l
  | cons step steps ih =>
    rcases List.mem_cons.1 hk with rfl | hk
    · exact isUnder_foldl_follow hroot hup k
    · simp only [List.mem_cons, not_or] at hroot hup
      exact ih hroot.2 hup.2 hk

theorem isUnder_of_mem_way {p : Path} (hup : .up ∉ p.steps) {k : Location} (hk : k ∈ d.way p) :
    isUnder k (d.locate p) = true :=
  isUnder_of_mem_wayFrom p.root_not_mem_steps hup hk

/-- A first part of the steps leads to a location on the way. -/
theorem foldl_follow_mem_wayFrom (l : Location) (steps more : List Path.Part) :
    steps.foldl follow l ∈ wayFrom l (steps ++ more) := by
  induction steps generalizing l with
  | nil => exact start_mem_wayFrom l more
  | cons step steps ih => exact List.mem_cons_of_mem _ (ih (follow l step))

/-- A path that leads to another one ends on its way. -/
theorem locate_mem_way_of_leadsTo (d : Disk) {p q : Path} (h : Path.LeadsTo q p)
    (hq : q.spelling ≠ []) : d.locate q ∈ d.way p := by
  obtain ⟨more, hmore⟩ := h.2
  rw [locate, way, origin, origin, h.isAbsolute hq, ← hmore]
  exact foldl_follow_mem_wayFrom _ _ _

/-- Something lies everywhere on the way of a walk that gets through to something. -/
theorem get?_of_mem_wayFrom {steps : List Path.Part} {l m k : Location} {e : Entry}
    (h : d.walk l steps = .ok m) (he : d.get? m = some e) (hk : k ∈ wayFrom l steps) :
    ∃ e, d.get? k = some e := by
  induction steps generalizing l with
  | nil =>
    obtain rfl := Except.ok.inj h
    rw [List.mem_singleton.1 hk]
    exact ⟨e, he⟩
  | cons step steps ih =>
    rw [walk_cons] at h
    cases hj : d.enter l step with
    | error f => simp [hj, Except.bind] at h
    | ok j =>
      rw [hj] at h
      obtain ⟨hl, rfl⟩ := enter_ok hj
      rcases List.mem_cons.1 hk with rfl | hk
      · exact ⟨_, hl⟩
      · exact ih h hk

theorem get?_of_mem_way {p : Path} {x : Location × Entry} (h : d.find p = .ok x) {k : Location}
    (hk : k ∈ d.way p) : ∃ e, d.get? k = some e := by
  obtain ⟨l, e⟩ := x
  obtain ⟨rfl, hl⟩ := find_ok h
  exact get?_of_mem_wayFrom (walk_of_find_ok h) hl hk

/-! ## Walks on two disks -/

theorem enter_congr_kind {k : Location} {step : Path.Part} (hk : d.kind? k = d'.kind? k)
    (hstep : d.kind? (follow k step) = d'.kind? (follow k step)) :
    d.enter k step = d'.enter k step := by
  unfold enter
  rw [isDirectoryAt_congr hk]
  cases step with
  | name n =>
    simp only
    rw [isSome_congr (show d.kind? (k ++ [n]) = d'.kind? (k ++ [n]) from hstep)]
  | _ => rfl

/-- Walks depend on the kinds of what lies on their way. -/
theorem walk_congr {steps : List Path.Part} {l : Location}
    (h : ∀ k ∈ wayFrom l steps, d.kind? k = d'.kind? k) : d.walk l steps = d'.walk l steps := by
  induction steps generalizing l with
  | nil => rfl
  | cons step steps ih =>
    have hstep := h _ (List.mem_cons_of_mem _ (start_mem_wayFrom (follow l step) steps))
    rw [walk_cons, walk_cons, enter_congr_kind (h l List.mem_cons_self) hstep]
    cases hj : d'.enter l step with
    | error f => rfl
    | ok j =>
      obtain rfl := (enter_ok hj).2
      exact ih fun k hk => h k (List.mem_cons_of_mem _ hk)

/-- What is found depends on the kinds of what lies on the way, and on what lies at its end. -/
theorem find_congr {p : Path} (hhere : d.here = d'.here)
    (h : ∀ k ∈ d.way p, d.kind? k = d'.kind? k)
    (hend : d.get? (d.locate p) = d'.get? (d.locate p)) : d.find p = d'.find p := by
  have horigin : d'.origin p = d.origin p := by rw [origin, origin, hhere]
  unfold find
  rw [horigin, ← walk_congr h]
  cases p.flaw? with
  | some f => rfl
  | none =>
    cases hwalk : d.walk (d.origin p) p.steps with
    | error f => rfl
    | ok l =>
      obtain rfl : l = d.locate p := walk_ok hwalk
      simp only
      rw [← hend]

/-- The kind of what is found by a path. -/
def findKind (d : Disk) (p : Path) : Except Fault Bool :=
  match d.find p with
  | .ok (_, e) => .ok e.isDirectory
  | .error f => .error f

theorem findKind_eq (d : Disk) (p : Path) : d.findKind p = match p.flaw? with
    | some f => .error f
    | none => (d.walk (d.origin p) p.steps).bind fun l => match d.kind? l with
      | none => .error .notFound
      | some false => if p.endsWithSlash then .error .notDirectory else .ok false
      | some true => .ok true := by
  unfold findKind find
  cases p.flaw? with
  | some f => rfl
  | none =>
    cases d.walk (d.origin p) p.steps with
    | error f => rfl
    | ok l =>
      simp only [Except.bind, kind?]
      cases d.get? l with
      | none => rfl
      | some e =>
        cases e with
        | directory => rfl
        | file data => cases p.endsWithSlash <;> rfl

/-- What kind of thing is found depends on the kinds of what lies on the way. -/
theorem findKind_congr {p : Path} (hhere : d.here = d'.here)
    (h : ∀ k ∈ d.way p, d.kind? k = d'.kind? k) : d.findKind p = d'.findKind p := by
  have horigin : d'.origin p = d.origin p := by rw [origin, origin, hhere]
  rw [findKind_eq, findKind_eq, horigin, ← walk_congr h]
  cases p.flaw? with
  | some f => rfl
  | none =>
    cases hwalk : d.walk (d.origin p) p.steps with
    | error f => rfl
    | ok l =>
      obtain rfl : l = d.locate p := walk_ok hwalk
      simp only [Except.bind]
      rw [h _ (locate_mem_way d p)]

theorem isFile_eq (d : Disk) (p : Path) : d.isFile p = (d.findKind p == .ok false) := by
  unfold isFile findKind
  cases d.find p with
  | error f => rfl
  | ok x =>
    obtain ⟨l, e⟩ := x
    cases e <;> rfl

theorem isDirectory_eq (d : Disk) (p : Path) : d.isDirectory p = (d.findKind p == .ok true) := by
  unfold isDirectory findKind
  cases d.find p with
  | error f => rfl
  | ok x =>
    obtain ⟨l, e⟩ := x
    cases e <;> rfl

theorem file_of_isFile {p : Path} (h : d.isFile p = true) :
    ∃ data, d.get? (d.locate p) = some (.file data) := by
  unfold isFile at h
  split at h
  · next l data hfind =>
    obtain ⟨rfl, hdata⟩ := find_ok hfind
    exact ⟨data, hdata⟩
  · cases h

/-- A directory is found where its path leads. -/
theorem isDirectory_iff {p : Path} :
    d.isDirectory p = true ↔ d.find p = .ok (d.locate p, .directory) := by
  unfold isDirectory
  constructor
  · intro h
    split at h
    · next l hfind =>
      obtain ⟨rfl, -⟩ := find_ok hfind
      exact hfind
    · cases h
  · intro h
    rw [h]

end Disk
end GuideBundles
