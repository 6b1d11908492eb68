/-
# `Remainder` — what follows the start of a list

Texts are matched from their start, and places on a disk lie below one another, by the same test.
-/

namespace GuideBundles

variable {α : Type} [DecidableEq α]

/-- What follows `start` in a list that starts with it. -/
def remainder? : List α → List α → Option (List α)
  | [], t => some t
  | _ :: _, [] => none
  | c :: start, d :: t => if c = d then remainder? start t else none

theorem remainder?_eq_some_iff {start t rest : List α} :
    remainder? start t = some rest ↔ t = start ++ rest := by
  induction start generalizing t with
  | nil => simp [remainder?]
  | cons c start ih =>
    cases t with
    | nil => simp [remainder?]
    | cons d t => by_cases h : c = d <;> simp [remainder?, h, ih, eq_comm]

@[simp] theorem remainder?_append (start rest : List α) :
    remainder? start (start ++ rest) = some rest :=
  remainder?_eq_some_iff.2 rfl

end GuideBundles
