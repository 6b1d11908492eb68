/-
# `Proofs.Disk.Listed` — a directory may list its names in any order

Disks that hold the same list the same names, each in an order of its own, and every order of the
names of a directory is the order of one of them.  Sorted, the names are the same on all of them.
-/
import GuideBundles.Proofs.Disk.Same
import GuideBundles.Proofs.Text.Order

namespace GuideBundles.Disk

variable {d d' : Disk} {l : Location}

theorem Same.names_perm (h : Same d d') (l : Location) : (d'.names l).Perm (d.names l) := by
  refine (List.perm_ext_iff_of_nodup (nodup_names d' l) (nodup_names d l)).2 fun n => ?_
  rw [mem_names_iff, mem_names_iff, h.get?]

/-! ## Disks with another order -/

/-- The disk with its entries in another order. -/
def rearranged (d : Disk) (entries : List (Location × Entry)) (h : entries.Perm d.entries) :
    Disk where
  entries := entries
  here := d.here
  nodup := (h.map Prod.fst).nodup_iff.2 d.nodup
  rooted := fun e he =>
    have ⟨l, n, hln, hn, hl⟩ := d.rooted e (h.mem_iff.1 he)
    ⟨l, n, hln, hn, hl.imp_right h.mem_iff.2⟩

theorem same_rearranged {entries : List (Location × Entry)} (h : entries.Perm d.entries) :
    Same d (d.rearranged entries h) := by
  refine ⟨rfl, fun k => ?_⟩
  by_cases hk : k = []
  · rw [hk, get?_root, get?_root]
  · ext e
    rw [get?_eq_some_iff hk, get?_eq_some_iff hk]
    exact h.mem_iff

/-- What lies by a name in a directory. -/
def entryIn (d : Disk) (l : Location) (n : Text) : Location × Entry :=
  (l ++ [n], (d.get? (l ++ [n])).getD .directory)

/-- The entries of a directory, by their names. -/
theorem map_entryIn_names (d : Disk) (l : Location) :
    (d.names l).map (d.entryIn l) = d.entries.filter fun e => (nameIn? l e.1).isSome := by
  have hentry : ∀ e ∈ d.entries, (nameIn? l e.1).map (d.entryIn l)
      = if (nameIn? l e.1).isSome then some e else none := by
    intro e he
    cases hn : nameIn? l e.1 with
    | none => rfl
    | some n =>
      have hkey := nameIn?_eq_some_iff.1 hn
      have hget : d.get? (l ++ [n]) = some e.2 := by
        rw [get?_eq_some_iff (by simp), ← hkey]
        exact he
      rw [Option.map_some, entryIn, hget, ← hkey]
      rfl
  rw [names_eq, List.filterMap_map, List.map_filterMap, ← List.filterMap_eq_filter]
  exact List.filterMap_congr hentry

/-- Every order of the names of a directory is the order on some disk that holds the same, and lists
the names of all other directories as before. -/
theorem exists_same_of_perm {names : List Text} (h : names.Perm (d.names l)) :
    ∃ d', Same d d' ∧ d'.names l = names ∧ ∀ k, k ≠ l → d'.names k = d.names k := by
  let others := d.entries.filter fun e => !(nameIn? l e.1).isSome
  have hperm : (names.map (d.entryIn l) ++ others).Perm d.entries := by
    have hlisted := (h.map (d.entryIn l)).append_right others
    rw [map_entryIn_names] at hlisted
    exact hlisted.trans (List.filter_append_perm _ _)
  have hnames (k : Location) : (d.rearranged _ hperm).names k
      = names.filterMap (fun n => nameIn? k (l ++ [n]))
        ++ others.filterMap fun e => nameIn? k e.1 := by
    change (names.map (d.entryIn l) ++ others).filterMap (fun e => nameIn? k e.1) = _
    rw [List.filterMap_append, List.filterMap_map]
    rfl
  refine ⟨d.rearranged _ hperm, same_rearranged hperm, ?_, fun k hk => ?_⟩
  · have hothers : others.filterMap (fun e => nameIn? l e.1) = [] := by
      rw [List.filterMap_eq_nil_iff]
      intro e he
      simpa using (List.mem_filter.1 he).2
    rw [hnames, hothers, List.append_nil]
    exact (List.filterMap_congr fun n _ => nameIn?_eq_some_iff.2 rfl).trans List.filterMap_some
  · -- What lies in the one directory is none of what lies in the other one.
    have hfirst : names.filterMap (fun n => nameIn? k (l ++ [n])) = [] := by
      rw [List.filterMap_eq_nil_iff]
      intro n _
      refine Option.eq_none_iff_forall_ne_some.2 fun m hm => hk ?_
      exact (List.append_inj' (nameIn?_eq_some_iff.1 hm) rfl).1.symm
    have hothers : others.filterMap (fun e => nameIn? k e.1) = d.names k := by
      rw [names_eq, List.filterMap_map, List.filterMap_filter]
      refine List.filterMap_congr fun e _ => ?_
      cases hn : nameIn? l e.1 with
      | none => rfl
      | some n =>
        refine (Option.eq_none_iff_forall_ne_some.2 fun m hm => hk ?_).symm
        have hkey := (nameIn?_eq_some_iff.1 hm).symm.trans (nameIn?_eq_some_iff.1 hn)
        exact (List.append_inj' hkey rfl).1
    rw [hnames, hfirst, hothers, List.nil_append]

/-- So the names of several directories may be put in any order, one directory after the other. -/
theorem exists_same_of_perms {listing : Location → List Text}
    (h : ∀ l, (listing l).Perm (d.names l)) (ls : List Location) :
    ∃ d', Same d d' ∧ ∀ l ∈ ls, d'.names l = listing l := by
  induction ls with
  | nil => exact ⟨d, Same.refl d, nofun⟩
  | cons l ls ih =>
    obtain ⟨m, hm, hlisted⟩ := ih
    obtain ⟨d', hd', hl, hothers⟩ :=
      exists_same_of_perm ((h l).trans (hm.names_perm l).symm)
    refine ⟨d', hm.trans hd', fun k hk => ?_⟩
    by_cases hkl : k = l
    · rw [hkl, hl]
    · rw [hothers k hkl, hlisted k ((List.mem_cons.1 hk).resolve_left hkl)]

/-- Every way to order the names of all directories is the one of some disk that holds the same. -/
theorem exists_same_of_listing {listing : Location → List Text}
    (h : ∀ l, (listing l).Perm (d.names l)) : ∃ d', Same d d' ∧ ∀ l, d'.names l = listing l := by
  obtain ⟨d', hsame, hlisted⟩ := exists_same_of_perms h (d.entries.map fun e => e.1.dropLast)
  refine ⟨d', hsame, fun l => ?_⟩
  by_cases hl : l ∈ d.entries.map fun e => e.1.dropLast
  · exact hlisted l hl
  · have hnone : d.names l = [] := by
      refine names_eq_nil_iff.2 fun n => Option.eq_none_iff_forall_ne_some.2 fun e he => hl ?_
      rw [get?_eq_some_iff (by simp)] at he
      exact List.mem_map.2 ⟨_, he, List.dropLast_concat⟩
    have hlisting := h l
    have hnames := hsame.names_perm l
    rw [hnone, List.perm_nil] at hlisting hnames
    rw [hnames, hlisting]

end GuideBundles.Disk
