/-
# `Proofs.Path.Stem` — file names and their two parts

The stem of a file name with an extension, a dot and the extension make up the name again, so names
with one extension differ in their stems.
-/
import GuideBundles.Proofs.Path.Parts
import Mathlib.Data.List.TakeWhile

namespace GuideBundles.Path

theorem splitLastDot_ok {n before after : Text} (h : splitLastDot n = some (before, after)) :
    n = before ++ '.' :: after := by
  unfold splitLastDot at h
  split at h
  · cases h
  · next dot r hdrop =>
    obtain ⟨rfl, rfl⟩ := Prod.mk.inj (Option.some.inj h)
    have hdot : dot = '.' := by
      have := List.head?_dropWhile_not (fun c => c != '.') n.reverse
      rw [hdrop] at this
      simpa using this
    have hn : n.reverse.takeWhile (· != '.') ++ dot :: r = n.reverse := by
      rw [← hdrop, List.takeWhile_append_dropWhile]
    have hreverse := congrArg List.reverse hn
    rw [List.reverse_append, List.reverse_cons, List.append_assoc, List.reverse_reverse, hdot]
      at hreverse
    exact hreverse.symm

/-- A file name with an extension is its stem, a dot and the extension. -/
theorem stemOf_append_extensionOf {n e : Text} (h : extensionOf n = some e) :
    stemOf n ≠ [] ∧ n = stemOf n ++ '.' :: e := by
  unfold extensionOf at h
  split at h
  · cases h
  · next hdots =>
    split at h
    · next before after hsplit =>
      split at h
      · cases h
      · next hbefore =>
        obtain rfl := Option.some.inj h
        have hstem : stemOf n = before := by
          rw [stemOf, if_neg hdots, hsplit]
          exact if_neg hbefore
        rw [hstem]
        exact ⟨hbefore, splitLastDot_ok hsplit⟩
    · cases h

theorem splitLastDot_append {before after : Text} (h : '.' ∉ after) :
    splitLastDot (before ++ '.' :: after) = some (before, after) := by
  have hreverse : (before ++ '.' :: after).reverse = after.reverse ++ '.' :: before.reverse := by
    simp
  have hafter : ∀ c ∈ after.reverse, (c != '.') = true := by
    intro c hc
    refine bne_iff_ne.2 ?_
    rintro rfl
    exact h (List.mem_reverse.1 hc)
  have hdot : ('.' != '.') = false := rfl
  rw [splitLastDot, hreverse, List.dropWhile_append_of_pos hafter,
    List.takeWhile_append_of_pos hafter,
    List.dropWhile_cons, List.takeWhile_cons, hdot]
  simp

theorem dot_not_mem_of_extensionOf {n e : Text} (h : extensionOf n = some e) : '.' ∉ e := by
  unfold extensionOf splitLastDot at h
  split at h
  · cases h
  · split at h
    · next before after hsplit =>
      split at h
      · cases h
      · obtain rfl := Option.some.inj h
        split at hsplit
        · cases hsplit
        · obtain ⟨-, rfl⟩ := Prod.mk.inj (Option.some.inj hsplit)
          intro hdot
          cases List.mem_takeWhile_imp (List.mem_reverse.1 hdot)
    · cases h

/-- What stands after a dot in a name is its extension when something stands before it and there is
no other dot in it. -/
theorem extensionOf_append_iff {n e : Text} (h : n ++ '.' :: e ≠ ['.', '.']) :
    extensionOf (n ++ '.' :: e) = some e ↔ n ≠ [] ∧ '.' ∉ e := by
  constructor
  · intro hextension
    obtain ⟨hne, hn⟩ := stemOf_append_extensionOf hextension
    have hstem := List.append_cancel_right hn
    exact ⟨hstem ▸ hne, dot_not_mem_of_extensionOf hextension⟩
  · rintro ⟨hn, he⟩
    rw [extensionOf, if_neg h, splitLastDot_append he]
    exact if_neg hn

theorem eq_of_stemOf_eq {m n e : Text} (hm : extensionOf m = some e) (hn : extensionOf n = some e)
    (h : stemOf m = stemOf n) : m = n := by
  rw [(stemOf_append_extensionOf hm).2, (stemOf_append_extensionOf hn).2, h]

/-- A stem begins as its name does. -/
theorem head?_stemOf {n e : Text} (h : extensionOf n = some e) : (stemOf n).head? = n.head? := by
  obtain ⟨hne, hn⟩ := stemOf_append_extensionOf h
  obtain ⟨c, t, hc⟩ := List.exists_cons_of_ne_nil hne
  rw [hc] at hn ⊢
  rw [hn]
  rfl

end GuideBundles.Path
