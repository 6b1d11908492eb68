/-
# `Proofs.Path.Inside` — joined texts that stay in a directory

A text that is joined to a directory stays there when it is not absolute and its steps never go up
further than they have gone down.  The last step does not count: nothing can be written to a path
that goes up with it.
-/
import GuideBundles.Proofs.Path.Steps

namespace GuideBundles.Path

/-- Whether steps from so many levels below a directory never leave that directory. -/
def keepIn : Nat → List Part → Bool
  | _, [] => true
  | depth, .name _ :: steps => keepIn (depth + 1) steps
  | depth, .here :: steps => keepIn depth steps
  | depth + 1, .up :: steps => keepIn depth steps
  | 0, .up :: _ => false
  | _, .root :: _ => false

theorem keepIn_append_name (depth : Nat) (steps : List Part) (n : Text) :
    keepIn depth (steps ++ [.name n]) = keepIn depth steps := by
  fun_induction keepIn depth steps with
  | case1 depth => rfl
  | case2 depth m steps ih => exact ih
  | case3 depth steps ih => exact ih
  | case4 depth steps ih => exact ih
  | case5 steps => rfl
  | case6 depth steps => rw [List.cons_append, keepIn]

/-- Whether a text that is joined to a directory stays there, up to its last step. -/
def staysIn (t : Text) : Bool := t.head? != some '/' && keepIn 0 (steps ⟨t⟩).dropLast

theorem staysIn_iff {t : Text} :
    staysIn t = true ↔ t.head? ≠ some '/' ∧ keepIn 0 (steps ⟨t⟩).dropLast = true := by
  simp [staysIn]

/-- A name stays. -/
theorem staysIn_name {n : Text} (hn : n ≠ []) (hs : '/' ∉ n) : staysIn n = true := by
  rw [staysIn_iff, steps_name hn hs]
  exact ⟨head?_ne_of_not_mem hs, rfl⟩

example : staysIn (Text.ofString "./s/../x") = true := by decide
example : staysIn (Text.ofString "./../../v/x") = false := by decide

end GuideBundles.Path
