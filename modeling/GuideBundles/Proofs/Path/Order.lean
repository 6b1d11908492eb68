/-
# `Proofs.Path.Order` — paths in order

Paths are ordered part by part: the first part in which they differ decides, and names are ordered
by their bytes.  In one directory that is the order of the names, and everything below a name stands
before everything below a later one.
-/
import GuideBundles.Proofs.Path.Parts
import GuideBundles.Proofs.Text.Bytes
import Mathlib.Data.List.Lex

namespace GuideBundles.Path

/-- Whether a part comes before another one: by its kind, and a name by its bytes. -/
def Part.Precedes : Part → Part → Prop
  | .name m, .name n => Text.Precedes m n
  | a, b => a.rank < b.rank

/-- Whether a path comes before another one. -/
def Precedes (p q : Path) : Prop := List.Lex Part.Precedes p.parts q.parts

variable {p q : Path} {m n : Text}

theorem Part.Precedes.ne {a b : Part} (h : a.Precedes b) : a ≠ b := by
  rintro rfl
  cases a with
  | name n => exact List.lt_irrefl n.bytes h
  | _ => exact Nat.lt_irrefl _ h

/-- No path comes before itself. -/
theorem Precedes.ne (h : p.Precedes q) : p ≠ q := fun heq =>
  List.Lex.to_ne (List.Lex.imp (fun _ _ => Part.Precedes.ne) _ _ h) (congrArg parts heq)

/-- The first names in which two paths differ decide their order. -/
theorem precedes_of_parts {front more others : List Part} (hp : p.parts = front ++ .name m :: more)
    (hq : q.parts = front ++ .name n :: others) (h : Text.Precedes m n) : p.Precedes q := by
  have hname : Part.Precedes (.name m) (.name n) := h
  rw [Precedes, hp, hq]
  exact List.Lex.append_left _ (.rel hname) front

theorem beforeParts_append (front as bs : List Part) :
    beforeParts (front ++ as) (front ++ bs) = beforeParts as bs := by
  induction front with
  | nil => rfl
  | cons a front ih => rw [List.cons_append, List.cons_append, beforeParts, if_pos rfl, ih]

/-- What lies in one directory is listed in the order of its names. -/
theorem before_join (p : Path) (hm : m ≠ [] ∧ m ≠ ['.'] ∧ m ≠ ['.', '.'] ∧ '/' ∉ m)
    (hn : n ≠ [] ∧ n ≠ ['.'] ∧ n ≠ ['.', '.'] ∧ '/' ∉ n) :
    Text.before m n = (p.join m).before (p.join n) := by
  rw [before, parts_join p hm, parts_join p hn, beforeParts_append]
  by_cases hmn : m = n
  · simpa [beforeParts, hmn] using Text.before_total n n
  · simp [beforeParts, hmn, Part.before]

end GuideBundles.Path
