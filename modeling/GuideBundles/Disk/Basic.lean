/-
# `Disk.Basic` — what a disk holds

A disk is a finite map from locations to files and directories, in which everything lies in a
directory.  `Disk.get?` is its view, and each change is described by what it does to that view:
`clear` takes away everything at a location and below, `put` leaves one entry there with nothing
below it, and `move` carries everything over.

There are no links on a disk: what lies at a location is a file or a directory and never stands for
something elsewhere, and no two locations share a file.  So all that is said about disks is said
about file systems without symbolic and hard links, and with names that are texts.
-/
import GuideBundles.Disk.Location
import GuideBundles.Lookup

namespace GuideBundles

/-- What lies at a location.  Links, symbolic or hard, are no entries. -/
inductive Entry where
  | file (data : ByteArray)
  | directory

/-- Everything lies in a directory and has a name there; the root is a directory without being
listed. -/
def Disk.Rooted (entries : List (Location × Entry)) : Prop :=
  ∀ e ∈ entries, ∃ l n, e.1 = l ++ [n] ∧ Disk.isName n = true ∧
    (l = [] ∨ (l, Entry.directory) ∈ entries)

theorem Disk.rooted_nil : Rooted [] := List.forall_mem_nil _

/-- Files and directories, and the directory that paths start from. -/
structure Disk where
  /-- What lies where, except for the root. -/
  entries : List (Location × Entry) := []
  /-- The working directory. -/
  here : Location := []
  /-- No location has two entries. -/
  nodup : (entries.map Prod.fst).Nodup := by exact List.nodup_nil
  rooted : Disk.Rooted entries := by exact Disk.rooted_nil

namespace Disk

/-- What lies at a location. -/
def get? (d : Disk) (l : Location) : Option Entry :=
  if l = [] then some .directory else d.entries.lookup l

/-- Whether a directory lies at a location. -/
def isDirectoryAt (d : Disk) (l : Location) : Bool :=
  match d.get? l with
  | some .directory => true
  | _ => false

@[simp] theorem get?_root (d : Disk) : d.get? [] = some .directory := rfl

theorem isDirectoryAt_iff {d : Disk} {l : Location} :
    d.isDirectoryAt l = true ↔ d.get? l = some .directory := by
  unfold isDirectoryAt
  split
  · next h => simp [h]
  · next h => simpa using h

theorem get?_eq_some_iff {d : Disk} {l : Location} (hl : l ≠ []) {e : Entry} :
    d.get? l = some e ↔ (l, e) ∈ d.entries := by
  rw [get?, if_neg hl]
  exact lookup_eq_some_iff_mem d.nodup

/-- The root is a directory, and the others are listed. -/
theorem isDirectoryAt_iff_mem {d : Disk} {l : Location} :
    d.isDirectoryAt l = true ↔ l = [] ∨ (l, Entry.directory) ∈ d.entries := by
  rw [isDirectoryAt_iff]
  by_cases hl : l = []
  · simp [hl]
  · simp [hl, get?_eq_some_iff]

/-- What is there has a name and lies in a directory. -/
theorem parent_of_get? {d : Disk} {l : Location} {n : Text} {e : Entry}
    (h : d.get? (l ++ [n]) = some e) : isName n = true ∧ d.get? l = some .directory := by
  obtain ⟨k, m, hkm, hm, hk⟩ := d.rooted _ ((get?_eq_some_iff (by simp)).1 h)
  obtain ⟨rfl, rfl⟩ := List.append_singleton_inj.1 hkm
  exact ⟨hm, isDirectoryAt_iff.1 (isDirectoryAt_iff_mem.2 hk)⟩

/-! ## Changes -/

theorem rooted_clear (d : Disk) (l : Location) :
    Rooted (d.entries.filter fun e => !isUnder l e.1) := by
  intro e he
  obtain ⟨he, hout⟩ := List.mem_filter.1 he
  obtain ⟨k, n, hkn, hn, hk⟩ := d.rooted e he
  have hout : isUnder l (k ++ [n]) = false := by simpa [hkn] using hout
  refine ⟨k, n, hkn, hn, hk.imp_right fun hk => List.mem_filter.2 ⟨hk, ?_⟩⟩
  simp [isUnder_parent hout]

/-- The disk without what lies at a location and below it. -/
def clear (d : Disk) (l : Location) : Disk where
  entries := d.entries.filter fun e => !isUnder l e.1
  here := d.here
  nodup := d.nodup.sublist (List.filter_sublist.map _)
  rooted := d.rooted_clear l

theorem mem_clear {d : Disk} {l : Location} {e : Location × Entry} :
    e ∈ (d.clear l).entries ↔ e ∈ d.entries ∧ isUnder l e.1 = false := by
  simp [clear]

theorem not_mem_keys_clear (d : Disk) {l k : Location} (h : isUnder l k = true) :
    k ∉ (d.clear l).entries.map Prod.fst := by
  intro hm
  obtain ⟨e, he, rfl⟩ := List.mem_map.1 hm
  rw [(mem_clear.1 he).2] at h
  cases h

/-- Whether there is a directory for an entry at a location, and a name for it. -/
def hasRoom (d : Disk) (l : Location) : Bool :=
  match l.getLast? with
  | none => false
  | some n => isName n && d.isDirectoryAt l.dropLast

theorem hasRoom_append {d : Disk} {l : Location} {n : Text} :
    d.hasRoom (l ++ [n]) = true ↔ isName n = true ∧ d.get? l = some .directory := by
  simp [hasRoom, isDirectoryAt_iff]

theorem exists_of_hasRoom {d : Disk} {l : Location} (h : d.hasRoom l = true) :
    ∃ k n, l = k ++ [n] ∧ isName n = true ∧ d.get? k = some .directory := by
  rcases List.eq_nil_or_concat l with rfl | ⟨k, n, rfl⟩
  · cases h
  · rw [List.concat_eq_append] at h ⊢
    exact ⟨k, n, rfl, hasRoom_append.1 h⟩

/-- The directory that there is for an entry stays when its place is cleared. -/
theorem root_or_mem_clear {d : Disk} {l : Location} {n : Text} (h : d.get? l = some .directory) :
    l = [] ∨ (l, Entry.directory) ∈ (d.clear (l ++ [n])).entries :=
  (isDirectoryAt_iff_mem.1 (isDirectoryAt_iff.2 h)).imp_right fun hl =>
    mem_clear.2 ⟨hl, not_isUnder_above l n []⟩

theorem rooted_put {d : Disk} {l : Location} (h : d.hasRoom l = true) (e : Entry) :
    Rooted ((l, e) :: (d.clear l).entries) := by
  intro f hf
  rcases List.mem_cons.1 hf with rfl | hf
  · obtain ⟨k, n, rfl, hn, hk⟩ := exists_of_hasRoom h
    exact ⟨k, n, rfl, hn, (root_or_mem_clear hk).imp_right (List.mem_cons_of_mem _)⟩
  · obtain ⟨k, n, hkn, hn, hk⟩ := (d.clear l).rooted f hf
    exact ⟨k, n, hkn, hn, hk.imp_right (List.mem_cons_of_mem _)⟩

/-- The disk with a new entry at a location and nothing below it, if there is room for it. -/
def put (d : Disk) (l : Location) (e : Entry) : Disk :=
  if h : d.hasRoom l = true then
    { entries := (l, e) :: (d.clear l).entries
      here := d.here
      nodup := by
        rw [List.map_cons, List.nodup_cons]
        exact ⟨d.not_mem_keys_clear (isUnder_self l), (d.clear l).nodup⟩
      rooted := rooted_put h e }
  else d

/-- Whether everything at `source` can be carried to `target`: there is room, and neither lies under
the other. -/
def canMove (d : Disk) (source target : Location) : Bool :=
  d.hasRoom target && !isUnder source target && !isUnder target source

theorem canMove_iff {d : Disk} {source target : Location} : d.canMove source target = true ↔
    d.hasRoom target = true ∧ isUnder source target = false ∧ isUnder target source = false := by
  simp [canMove, and_assoc]

theorem nodup_move (d : Disk) (source target : Location) :
    (((d.clear target).entries.map fun e => (movedKey source target e.1, e.2)).map
      Prod.fst).Nodup := by
  have h := (d.clear target).nodup
  rw [List.map_map]
  rw [List.Nodup, List.pairwise_map] at h ⊢
  refine List.Pairwise.imp_of_mem ?_ h
  intro a b ha hb hne hab
  exact hne (movedKey_injective (mem_clear.1 ha).2 (mem_clear.1 hb).2 hab)

theorem rooted_move {d : Disk} {source target : Location} (h : d.canMove source target = true) :
    Rooted ((d.clear target).entries.map fun e => (movedKey source target e.1, e.2)) := by
  obtain ⟨hroom, hapart, -⟩ := canMove_iff.1 h
  have hmoved {l : Location} (hl : (l, Entry.directory) ∈ (d.clear target).entries) :
      (movedKey source target l, Entry.directory) ∈
        (d.clear target).entries.map fun e => (movedKey source target e.1, e.2) :=
    List.mem_map.2 ⟨_, hl, rfl⟩
  intro e he
  obtain ⟨⟨k, x⟩, hkx, rfl⟩ := List.mem_map.1 he
  obtain ⟨l, n, rfl, hn, hl⟩ := (d.clear target).rooted _ hkx
  cases hs : isUnder source (l ++ [n]) with
  | false =>
    -- The entry stays, and so does the directory that it lies in.
    refine ⟨l, n, movedKey_of_not_isUnder target hs, hn, hl.imp_right fun hl => ?_⟩
    simpa [movedKey_of_not_isUnder target (isUnder_parent hs)] using hmoved hl
  | true =>
    obtain ⟨rest, hrest⟩ := isUnder_iff.1 hs
    rcases List.eq_nil_or_concat rest with rfl | ⟨r, m, rfl⟩
    · -- The entry is the top of what is carried over, and lies where there is room.
      obtain ⟨k, m, rfl, hm, hk⟩ := exists_of_hasRoom hroom
      refine ⟨k, m, ?_, hm, (root_or_mem_clear hk (n := m)).imp_right fun hk => ?_⟩
      · simpa [hrest] using movedKey_append source (k ++ [m]) []
      · simpa [movedKey_of_not_isUnder _ (isUnder_parent hapart)] using hmoved hk
    · -- The entry lies in a directory that is carried over with it.
      rw [List.concat_eq_append, ← List.append_assoc] at hrest
      obtain ⟨rfl, rfl⟩ := List.append_singleton_inj.1 hrest
      refine ⟨target ++ r, n, ?_, hn, hl.elim (fun hnil => ?_) fun hl => .inr ?_⟩
      · simp
      · obtain ⟨rfl, -⟩ := List.append_eq_nil_iff.1 hnil
        simp [isUnder, remainder?] at hapart
      · simpa using hmoved hl

/-- The disk with everything at `source` and below carried to `target`, in place of what lies there,
if it can be. -/
def move (d : Disk) (source target : Location) : Disk :=
  if h : d.canMove source target = true then
    { entries := (d.clear target).entries.map fun e => (movedKey source target e.1, e.2)
      here := d.here
      nodup := d.nodup_move source target
      rooted := rooted_move h }
  else d

/-- The names of what lies directly in a directory. -/
def names (d : Disk) (l : Location) : List Text :=
  d.entries.filterMap fun e => match remainder? l e.1 with
    | some [n] => some n
    | _ => none

/-- The order of locations, name by name, in which everything comes right before what is in it. -/
def beforeLocation : Location → Location → Bool
  | [], _ => true
  | _ :: _, [] => false
  | m :: l, n :: k => if m = n then beforeLocation l k else Text.before m n

/-- Everything below a location, by its location from there and in the order of locations. -/
def below (d : Disk) (l : Location) : List (Location × Entry) :=
  (d.entries.filterMap fun e => match remainder? l e.1 with
    | some (n :: rest) => some (n :: rest, e.2)
    | _ => none).mergeSort fun a b => beforeLocation a.1 b.1

/-! ## The view of each change -/

theorem get?_clear (d : Disk) {l : Location} (hl : l ≠ []) (k : Location) :
    (d.clear l).get? k = if isUnder l k then none else d.get? k := by
  unfold get? clear
  by_cases hk : k = []
  · subst hk
    have : isUnder l [] = false := by
      cases l with
      | nil => exact absurd rfl hl
      | cons => rfl
    simp [this]
  · have := lookup_filter_key (fun k => !isUnder l k) k d.entries
    simp only [hk, if_false, this]
    cases isUnder l k <;> simp

theorem ne_nil_of_hasRoom {d : Disk} {l : Location} (h : d.hasRoom l = true) : l ≠ [] := by
  rintro rfl
  cases h

theorem get?_put {d : Disk} {l : Location} (h : d.hasRoom l = true) (e : Entry) (k : Location) :
    (d.put l e).get? k = if k = l then some e else if isUnder l k then none else d.get? k := by
  have hl := ne_nil_of_hasRoom h
  by_cases hk : k = l
  · subst hk
    simp [get?, put, h, hl]
  · rw [if_neg hk, ← get?_clear d hl, put, dif_pos h]
    unfold get?
    split
    · rfl
    · rw [List.lookup_cons, beq_false_of_ne hk]

theorem mem_move {d : Disk} {source target : Location} (h : d.canMove source target = true)
    {k : Location} {e : Entry} : (k, e) ∈ (d.move source target).entries ↔
      ∃ l, (l, e) ∈ d.entries ∧ isUnder target l = false ∧ movedKey source target l = k := by
  rw [move, dif_pos h, List.mem_map]
  constructor
  · rintro ⟨⟨l, x⟩, hl, hkx⟩
    obtain ⟨rfl, rfl⟩ := Prod.mk.inj hkx
    exact ⟨l, (mem_clear.1 hl).1, (mem_clear.1 hl).2, rfl⟩
  · rintro ⟨l, hl, ht, rfl⟩
    exact ⟨(l, e), mem_clear.2 ⟨hl, ht⟩, rfl⟩

theorem ne_nil_of_canMove {d : Disk} {source target : Location}
    (h : d.canMove source target = true) : source ≠ [] := by
  rintro rfl
  simpa [isUnder, remainder?] using (canMove_iff.1 h).2.1

/-- What is carried over lies where it is carried to. -/
theorem get?_move_target {d : Disk} {source target : Location}
    (h : d.canMove source target = true) (rest : Location) :
    (d.move source target).get? (target ++ rest) = d.get? (source ++ rest) := by
  obtain ⟨hroom, hst, hts⟩ := canMove_iff.1 h
  have ht : target ++ rest ≠ [] := by simp [ne_nil_of_hasRoom hroom]
  have hs : source ++ rest ≠ [] := by simp [ne_nil_of_canMove h]
  have hout : isUnder target (source ++ rest) = false := not_isUnder_apart hts hst rest
  refine Option.ext fun e => ?_
  rw [get?_eq_some_iff ht, get?_eq_some_iff hs, mem_move h]
  constructor
  · rintro ⟨l, hl, htl, hkey⟩
    obtain rfl := movedKey_injective htl hout (hkey.trans (movedKey_append ..).symm)
    exact hl
  · intro hm
    exact ⟨source ++ rest, hm, hout, movedKey_append source target rest⟩

/-- Nothing is left where it was. -/
theorem get?_move_source {d : Disk} {source target : Location}
    (h : d.canMove source target = true) (rest : Location) :
    (d.move source target).get? (source ++ rest) = none := by
  obtain ⟨-, hst, hts⟩ := canMove_iff.1 h
  have hs : source ++ rest ≠ [] := by simp [ne_nil_of_canMove h]
  refine Option.eq_none_iff_forall_ne_some.2 fun e he => ?_
  obtain ⟨l, -, -, hkey⟩ := (mem_move h).1 ((get?_eq_some_iff hs).1 he)
  cases hl : isUnder source l with
  | true =>
    obtain ⟨r, rfl⟩ := isUnder_iff.1 hl
    have hu : isUnder target (source ++ rest) = true := by
      rw [← hkey, movedKey_append]
      exact isUnder_append target r
    rw [not_isUnder_apart hts hst rest] at hu
    cases hu
  | false =>
    rw [movedKey_of_not_isUnder target hl] at hkey
    rw [hkey, isUnder_append] at hl
    cases hl

/-- What lies at neither place stays. -/
theorem get?_move_of_not_isUnder {d : Disk} {source target k : Location}
    (h : d.canMove source target = true) (hs : isUnder source k = false)
    (ht : isUnder target k = false) : (d.move source target).get? k = d.get? k := by
  by_cases hk : k = []
  · simp [hk]
  refine Option.ext fun e => ?_
  rw [get?_eq_some_iff hk, get?_eq_some_iff hk, mem_move h]
  constructor
  · rintro ⟨l, hl, -, hkey⟩
    cases hu : isUnder source l with
    | true =>
      obtain ⟨r, rfl⟩ := isUnder_iff.1 hu
      rw [movedKey_append] at hkey
      rw [← hkey, isUnder_append] at ht
      cases ht
    | false =>
      rw [movedKey_of_not_isUnder target hu] at hkey
      exact hkey ▸ hl
  · intro hm
    exact ⟨k, hm, ht, movedKey_of_not_isUnder target hs⟩

@[simp] theorem here_clear (d : Disk) (l : Location) : (d.clear l).here = d.here := rfl

@[simp] theorem here_put (d : Disk) (l : Location) (e : Entry) : (d.put l e).here = d.here := by
  unfold put
  split <;> rfl

@[simp] theorem here_move (d : Disk) (l m : Location) : (d.move l m).here = d.here := by
  unfold move
  split <;> rfl

end Disk
end GuideBundles
