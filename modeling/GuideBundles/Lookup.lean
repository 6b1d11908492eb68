/-
# `Lookup` — what remains of a keyed list

Looking up a key in a list of pairs from which entries were taken by their keys, or whose keys were
changed, or in which no key stands twice.
-/

namespace GuideBundles

variable {α β γ : Type} [BEq α] [LawfulBEq α]

/-- Entries taken away by their keys are not found, and the others stay as they were. -/
theorem lookup_filter_key (p : α → Bool) (k : α) (entries : List (α × β)) :
    (entries.filter fun e => p e.1).lookup k = if p k then entries.lookup k else none := by
  induction entries with
  | nil => simp
  | cons e rest ih =>
    obtain ⟨a, b⟩ := e
    cases hp : p a <;> cases hk : k == a
    · simp [List.lookup_cons, hp, hk, ih]
    · obtain rfl : k = a := by simpa using hk
      simp [hp, ih]
    · simp [List.lookup_cons, hp, hk, ih]
    · obtain rfl : k = a := by simpa using hk
      simp [hp]

/-- Entries that are changed under their keys are found changed. -/
theorem lookup_map_entry (f : α × β → γ) (k : α) (entries : List (α × β)) :
    (entries.map fun e => (e.1, f e)).lookup k = (entries.lookup k).map fun b => f (k, b) := by
  induction entries with
  | nil => rfl
  | cons e rest ih =>
    rw [List.map_cons, List.lookup_cons, List.lookup_cons]
    split
    · next h =>
      obtain rfl : k = e.1 := by simpa using h
      rfl
    · exact ih

/-- What is found is in the list. -/
theorem mem_of_lookup {k : α} {b : β} {entries : List (α × β)} (h : entries.lookup k = some b) :
    (k, b) ∈ entries := by
  obtain ⟨before, after, rfl, -⟩ := List.lookup_eq_some_iff.1 h
  simp

/-- Where no key stands twice, what is in the list is found. -/
theorem lookup_eq_some_iff_mem {k : α} {b : β} {entries : List (α × β)}
    (h : (entries.map Prod.fst).Nodup) : entries.lookup k = some b ↔ (k, b) ∈ entries := by
  refine ⟨mem_of_lookup, fun hm => ?_⟩
  induction entries with
  | nil => cases hm
  | cons e rest ih =>
    obtain ⟨hne, hrest⟩ := List.nodup_cons.1 h
    rcases List.mem_cons.1 hm with rfl | hm
    · simp
    · have hk : k ≠ e.1 := fun hk => hne (List.mem_map.2 ⟨(k, b), hm, hk⟩)
      rw [List.lookup_cons, beq_false_of_ne hk]
      exact ih hrest hm

/-- Where no key stands twice, the order does not matter. -/
theorem lookup_reverse {k : α} {entries : List (α × β)} (h : (entries.map Prod.fst).Nodup) :
    entries.reverse.lookup k = entries.lookup k := by
  have hreverse : (entries.reverse.map Prod.fst).Nodup := by
    rw [List.map_reverse]
    exact List.pairwise_reverse.2 (h.imp Ne.symm)
  ext b
  rw [lookup_eq_some_iff_mem hreverse, lookup_eq_some_iff_mem h, List.mem_reverse]

theorem lookup_reverse_map_entry (f : α × β → γ) (k : α) {entries : List (α × β)}
    (h : (entries.map Prod.fst).Nodup) :
    (entries.map fun e => (e.1, f e)).reverse.lookup k =
      (entries.lookup k).map fun b => f (k, b) := by
  have hkeys : (entries.map fun e => (e.1, f e)).map Prod.fst = entries.map Prod.fst :=
    List.map_map
  rw [lookup_reverse (hkeys ▸ h), lookup_map_entry]

end GuideBundles
