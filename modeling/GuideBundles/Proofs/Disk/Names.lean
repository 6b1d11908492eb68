/-
# `Proofs.Disk.Names` — the names in a directory

A name is in a directory when something lies there by that name, and it is there once.  What a path
finds can be listed if it is a directory, and read if it is a file that holds a text.
-/
import GuideBundles.Disk.Request
import GuideBundles.Proofs.Disk.Walk
import Mathlib.Data.List.Nodup

namespace GuideBundles.Disk

variable {d : Disk} {l : Location}

/-- The name that a location has in a directory. -/
def nameIn? (l k : Location) : Option Text :=
  match remainder? l k with
  | some [n] => some n
  | _ => none

theorem nameIn?_eq_some_iff {k : Location} {n : Text} : nameIn? l k = some n ↔ k = l ++ [n] := by
  unfold nameIn?
  constructor
  · intro h
    split at h
    · next m hrest =>
      obtain rfl := Option.some.inj h
      exact remainder?_eq_some_iff.1 hrest
    · cases h
  · rintro rfl
    rw [remainder?_append]

theorem names_eq (d : Disk) (l : Location) :
    d.names l = (d.entries.map Prod.fst).filterMap (nameIn? l) := by
  rw [List.filterMap_map]
  rfl

theorem mem_names_iff {n : Text} : n ∈ d.names l ↔ ∃ e, d.get? (l ++ [n]) = some e := by
  rw [names_eq, List.mem_filterMap]
  constructor
  · rintro ⟨k, hk, hn⟩
    obtain rfl := nameIn?_eq_some_iff.1 hn
    obtain ⟨⟨k, e⟩, he, hkey⟩ := List.mem_map.1 hk
    obtain rfl : k = l ++ [n] := hkey
    exact ⟨e, (get?_eq_some_iff (by simp)).2 he⟩
  · rintro ⟨e, he⟩
    have hmem := (get?_eq_some_iff (by simp)).1 he
    exact ⟨l ++ [n], List.mem_map.2 ⟨_, hmem, rfl⟩, nameIn?_eq_some_iff.2 rfl⟩

theorem nodup_names (d : Disk) (l : Location) : (d.names l).Nodup := by
  rw [names_eq]
  refine d.nodup.filterMap ?_
  intro k k' n hk hk'
  rw [nameIn?_eq_some_iff.1 hk, nameIn?_eq_some_iff.1 hk']

/-- Nothing is in a directory when it has no names. -/
theorem names_eq_nil_iff : d.names l = [] ↔ ∀ n, d.get? (l ++ [n]) = none := by
  rw [List.eq_nil_iff_forall_not_mem]
  refine forall_congr' fun n => ?_
  rw [mem_names_iff, Option.eq_none_iff_forall_ne_some, not_exists]

/-- What a directory lists has a name. -/
theorem name_of_mem_names {n : Text} (h : n ∈ d.names l) :
    n ≠ [] ∧ n ≠ ['.'] ∧ n ≠ ['.', '.'] ∧ '/' ∉ n := by
  obtain ⟨e, he⟩ := mem_names_iff.1 h
  have hname := (parent_of_get? he).1
  simp only [isName, decide_eq_true_eq] at hname
  exact ⟨hname.1, hname.2.1, hname.2.2.1, hname.2.2.2.1⟩

/-- A name makes no flaw but a long spelling. -/
theorem flaw?_join_eq_none_iff {p : Path} {n : Text} (hp : p.flaw? = none)
    (hn : isName n = true) :
    (p.join n).flaw? = none ↔ Text.size (p.join n).spelling < Path.tooLong := by
  simp only [isName, decide_eq_true_eq] at hn
  obtain ⟨hne, -, -, hslash, hnul, -⟩ := hn
  have hfront : '\x00' ∉ p.front := by
    unfold Path.front
    split
    · exact List.not_mem_nil
    · exact nul_not_mem_of_flaw? hp
    · simp [nul_not_mem_of_flaw? hp]
  rw [Path.join_eq p (Path.head?_ne_of_not_mem hslash)]
  unfold Path.flaw?
  rw [if_neg (by simp [hfront, hnul]), if_neg (by simp [hne])]
  split
  · next hlong => exact iff_of_false (Option.some_ne_none _) (Nat.not_lt.2 hlong)
  · next hshort => exact iff_of_true rfl (Nat.not_le.1 hshort)

/-- A directory that is found lists its names. -/
theorem list_eq_ok_iff {p : Path} {names : List Text} : d.list p = .ok names ↔
    d.find p = .ok (d.locate p, .directory) ∧ d.names (d.locate p) = names := by
  unfold list
  constructor
  · intro h
    split at h
    · cases h
    · cases h
    · next k hfind =>
      obtain ⟨rfl, -⟩ := find_ok hfind
      exact ⟨hfind, Except.ok.inj h⟩
  · rintro ⟨hfind, rfl⟩
    rw [hfind]

/-- The text of a file is that of its bytes. -/
theorem readText_eq_ok_iff {p : Path} {t : Text} : d.readText p = .ok t ↔
    ∃ data, d.find p = .ok (d.locate p, .file data) ∧ Text.ofBytes? data = some t := by
  unfold readText
  split
  · next hfind => simp [hfind]
  · next hfind => simp [hfind]
  · next l data hfind =>
    obtain ⟨rfl, -⟩ := find_ok hfind
    cases htext : Text.ofBytes? data <;> simp [hfind, htext]

end GuideBundles.Disk
