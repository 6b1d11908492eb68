/-
# `Proofs.Text.Pattern` — patterns with repetitions and anchors

A pattern is a list of atoms, which match one after another.  Of the ways to match from a place, the
one counts in which each repetition, the first one first, takes as many characters as it can without
keeping the rest of the pattern from matching; `Pattern.length?` finds it by trying.
`Pattern.replaceAll` goes through a text from the left, replaces what matches and goes on behind it.
-/
import Mathlib.Data.List.TakeWhile
import GuideBundles.Text.Basic

namespace GuideBundles.Text

/-- A piece of a pattern. -/
inductive Atom where
  /-- The start of a line, which is the start of the text or the place behind a newline. -/
  | lineStart
  /-- The end of a line, which is the end of the text or the place in front of a newline. -/
  | lineEnd
  /-- A character of a class. -/
  | one (p : Char → Bool)
  /-- Any number of characters of a class. -/
  | many (p : Char → Bool)

abbrev Pattern := List Atom

namespace Pattern

/-- How many characters match a repetition and what comes next: one more character of the class is
tried first, and what comes next only if that fails.  The first argument of `next` says whether a
line starts at the place. -/
def repeated (p : Char → Bool) (next : Bool → Text → Option Nat) : Bool → Text → Option Nat
  | fresh, [] => next fresh []
  | fresh, c :: t =>
    if p c then ((repeated p next (c == '\n') t).map (· + 1)).or (next fresh (c :: t))
    else next fresh (c :: t)

/-- How many characters at the front of a text match a pattern, if it matches there; `fresh` says
whether a line starts at the place. -/
def length? : Pattern → Bool → Text → Option Nat
  | [], _, _ => some 0
  | .lineStart :: ps, fresh, t => if fresh then length? ps fresh t else none
  | .lineEnd :: ps, fresh, t => if t.head?.all (· == '\n') then length? ps fresh t else none
  | .one _ :: _, _, [] => none
  | .one p :: ps, _, c :: t => if p c then (length? ps (c == '\n') t).map (· + 1) else none
  | .many p :: ps, fresh, t => repeated p (length? ps) fresh t

/-- Replacement that first drops as many characters as its number says.  Only what is not empty is
replaced. -/
def replaceFrom (ps : Pattern) (new : Text) : Nat → Bool → Text → Text
  | _, _, [] => []
  | skip + 1, _, c :: t => replaceFrom ps new skip (c == '\n') t
  | 0, fresh, c :: t =>
    match ps.length? fresh (c :: t) with
    | some (n + 1) => new ++ replaceFrom ps new n (c == '\n') t
    | _ => c :: replaceFrom ps new 0 (c == '\n') t

/-- A text with everything that matches a pattern replaced by `new`. -/
def replaceAll (ps : Pattern) (new t : Text) : Text := replaceFrom ps new 0 true t

/-! ## Repetitions -/

variable {p : Char → Bool} {next : Bool → Text → Option Nat}

/-- If the rest matches behind all characters of the class, the repetition takes them all. -/
theorem repeated_of_some {t : Text} {n : Nat}
    (h : ∀ fresh, next fresh (t.dropWhile p) = some n) (fresh : Bool) :
    repeated p next fresh t = some ((t.takeWhile p).length + n) := by
  induction t generalizing fresh with
  | nil => simpa [repeated] using h fresh
  | cons c t ih =>
    cases hc : p c with
    | false =>
      rw [List.dropWhile_cons_of_neg (by simp [hc])] at h
      simpa [repeated, hc] using h fresh
    | true =>
      rw [List.dropWhile_cons_of_pos hc] at h
      rw [repeated, if_pos hc, ih h, List.takeWhile_cons_of_pos hc, List.length_cons]
      simp only [Option.map_some, Option.some_or]
      congr 1
      omega

/-- If the rest matches neither there nor in front of a character of the class, nothing matches:
taking fewer characters does not help. -/
theorem repeated_of_none {t : Text} (h : ∀ fresh, next fresh (t.dropWhile p) = none)
    (hfewer : ∀ fresh c u, p c = true → next fresh (c :: u) = none) (fresh : Bool) :
    repeated p next fresh t = none := by
  induction t generalizing fresh with
  | nil => exact h fresh
  | cons c t ih =>
    cases hc : p c with
    | false =>
      rw [List.dropWhile_cons_of_neg (by simp [hc])] at h
      simpa [repeated, hc] using h fresh
    | true =>
      rw [List.dropWhile_cons_of_pos hc] at h
      rw [repeated, if_pos hc, ih h, hfewer fresh c t hc]
      rfl

/-! ## Replacing -/

variable {ps : Pattern} {new : Text}

theorem replaceFrom_of_none {fresh : Bool} {c : Char} {t : Text}
    (h : ps.length? fresh (c :: t) = none) :
    replaceFrom ps new 0 fresh (c :: t) = c :: replaceFrom ps new 0 (c == '\n') t := by
  rw [replaceFrom, h]

theorem replaceFrom_of_some {fresh : Bool} {c : Char} {t : Text} {n : Nat}
    (h : ps.length? fresh (c :: t) = some (n + 1)) :
    replaceFrom ps new 0 fresh (c :: t) = new ++ replaceFrom ps new n (c == '\n') t := by
  rw [replaceFrom, h]

end Pattern
end GuideBundles.Text
