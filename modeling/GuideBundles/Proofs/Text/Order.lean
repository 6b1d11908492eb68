/-
# `Proofs.Text.Order` — texts in order

`Text.before` is a linear order, and so a list of texts in which none stands twice has only one
arrangement in that order.
-/
import GuideBundles.Text.Basic
import Mathlib.Data.List.Nodup

namespace GuideBundles.Text

theorem before_total (s t : Text) : (before s t || before t s) = true := by
  induction s generalizing t with
  | nil => rfl
  | cons c s ih =>
    cases t with
    | nil => rfl
    | cons d t =>
      by_cases hcd : c = d
      · subst hcd
        simpa [before] using ih t
      · simp only [before, if_neg hcd, if_neg (Ne.symm hcd), Bool.or_eq_true, decide_eq_true_eq]
        omega

theorem before_antisymm {s t : Text} (h : before s t = true) (h' : before t s = true) : s = t := by
  induction s generalizing t with
  | nil =>
    cases t with
    | nil => rfl
    | cons d t => cases h'
  | cons c s ih =>
    cases t with
    | nil => cases h
    | cons d t =>
      by_cases hcd : c = d
      · subst hcd
        rw [ih (t := t) (by simpa [before] using h) (by simpa [before] using h')]
      · simp only [before, if_neg hcd, if_neg (Ne.symm hcd), decide_eq_true_eq] at h h'
        exact absurd (Char.toNat_inj.1 (Nat.le_antisymm h h')) hcd

theorem before_trans (s t u : Text) (h : before s t = true) (h' : before t u = true) :
    before s u = true := by
  induction s generalizing t u with
  | nil => rfl
  | cons c s ih =>
    cases t with
    | nil => cases h
    | cons d t =>
      cases u with
      | nil => cases h'
      | cons e u =>
        by_cases hcd : c = d
        · subst hcd
          by_cases hce : c = e
          · subst hce
            simp only [before, if_true] at h h' ⊢
            exact ih t u h h'
          · simpa [before, hce] using h'
        · by_cases hde : d = e
          · subst hde
            simpa [before, hcd] using h
          · simp only [before, if_neg hcd, if_neg hde, decide_eq_true_eq] at h h'
            have hne : d.toNat ≠ e.toNat := fun heq => hde (Char.toNat_inj.1 heq)
            have hce : c ≠ e := by
              rintro rfl
              omega
            simp only [before, if_neg hce, decide_eq_true_eq]
            omega

theorem pairwise_mergeSort (ts : List Text) :
    (ts.mergeSort before).Pairwise fun s t => before s t = true :=
  List.pairwise_mergeSort before_trans before_total ts

/-- Sorted, texts do not show in which order they were. -/
theorem mergeSort_eq_of_perm {ss ts : List Text} (h : ss.Perm ts) :
    ss.mergeSort before = ts.mergeSort before :=
  List.Perm.eq_of_pairwise (fun _ _ _ _ hab hba => before_antisymm hab hba) (pairwise_mergeSort ss)
    (pairwise_mergeSort ts)
    (((List.mergeSort_perm ss _).trans h).trans (List.mergeSort_perm ts _).symm)

/-- Ordered lists without repetitions are equal when they have the same members. -/
theorem eq_of_pairwise_of_mem_iff {ss ts : List Text}
    (hs : ss.Pairwise fun s t => before s t = true) (ht : ts.Pairwise fun s t => before s t = true)
    (hss : ss.Nodup) (hts : ts.Nodup) (h : ∀ t, t ∈ ss ↔ t ∈ ts) : ss = ts :=
  List.Perm.eq_of_pairwise (fun _ _ _ _ hab hba => before_antisymm hab hba) hs ht
    ((List.perm_ext_iff_of_nodup hss hts).2 h)

end GuideBundles.Text
