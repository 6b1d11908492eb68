/-
# `Disk.Location` — places on a disk

A location is the list of names on the way from the root.  One location lies under another when it
starts with it, and everything under a location can be carried to another one.

Names are texts.  A file system also takes names whose bytes are the form of no text; there are none
of those on a disk here.
-/
import GuideBundles.Remainder
import GuideBundles.Text.Basic

namespace GuideBundles

/-- Where something lies: the names on the way to it from the root. -/
abbrev Location := List Text

namespace Disk

/-! ## Names -/

/-- The longest name that something can have, in bytes. -/
def longestName : Nat := 255

/-- Whether something in a directory can be called so. -/
def isName (n : Text) : Bool :=
  decide (n ≠ [] ∧ n ≠ ['.'] ∧ n ≠ ['.', '.'] ∧ '/' ∉ n ∧ '\x00' ∉ n ∧ Text.size n ≤ longestName)

/-! ## Locations under others -/

/-- Whether a location is `top` or lies below it. -/
def isUnder (top l : Location) : Bool := (remainder? top l).isSome

theorem isUnder_iff {top l : Location} : isUnder top l = true ↔ ∃ rest, l = top ++ rest := by
  rw [isUnder, Option.isSome_iff_exists]
  exact exists_congr fun _ => remainder?_eq_some_iff

@[simp] theorem isUnder_append (top rest : Location) : isUnder top (top ++ rest) = true :=
  isUnder_iff.2 ⟨rest, rfl⟩

@[simp] theorem isUnder_self (l : Location) : isUnder l l = true := by
  simpa using isUnder_append l []

theorem isUnder_trans {l m k : Location} (h : isUnder l m = true) (h' : isUnder m k = true) :
    isUnder l k = true := by
  obtain ⟨a, rfl⟩ := isUnder_iff.1 h
  obtain ⟨b, rfl⟩ := isUnder_iff.1 h'
  rw [List.append_assoc]
  exact isUnder_append l _

/-- What lies outside does so together with the directory that holds it. -/
theorem isUnder_parent {top l : Location} {n : Text} (h : isUnder top (l ++ [n]) = false) :
    isUnder top l = false := by
  cases hl : isUnder top l with
  | false => rfl
  | true =>
    rw [isUnder_trans hl (isUnder_append l [n])] at h
    cases h

/-- Nothing lies under what is below it. -/
theorem not_isUnder_above (l : Location) (n : Text) (rest : Location) :
    isUnder (l ++ n :: rest) l = false := by
  cases h : isUnder (l ++ n :: rest) l with
  | false => rfl
  | true =>
    obtain ⟨r, hr⟩ := isUnder_iff.1 h
    have := congrArg List.length hr
    simp only [List.length_append, List.length_cons] at this
    omega

/-- Of two locations above a third, one lies under the other. -/
theorem isUnder_or {l m k : Location} (hl : isUnder l k = true) (hm : isUnder m k = true) :
    isUnder l m = true ∨ isUnder m l = true := by
  obtain ⟨a, rfl⟩ := isUnder_iff.1 hl
  obtain ⟨b, hb⟩ := isUnder_iff.1 hm
  rcases List.append_eq_append_iff.1 hb with ⟨c, rfl, -⟩ | ⟨c, rfl, -⟩
  · exact .inl (isUnder_append l c)
  · exact .inr (isUnder_append m c)

/-- Below locations of which neither lies under the other nothing is shared. -/
theorem not_isUnder_apart {l m : Location} (hlm : isUnder l m = false) (hml : isUnder m l = false)
    (rest : Location) : isUnder l (m ++ rest) = false := by
  cases h : isUnder l (m ++ rest) with
  | false => rfl
  | true =>
    rcases isUnder_or h (isUnder_append m rest) with h | h
    · exact h.symm.trans hlm
    · exact h.symm.trans hml

/-- Nothing in a directory lies under what has another name there. -/
theorem not_isUnder_sibling {m n : Text} (hne : m ≠ n) (k rest : Location) :
    isUnder (k ++ [m]) (k ++ n :: rest) = false := by
  cases h : isUnder (k ++ [m]) (k ++ n :: rest) with
  | false => rfl
  | true =>
    obtain ⟨r, hr⟩ := isUnder_iff.1 h
    rw [List.append_assoc] at hr
    exact absurd (List.cons.inj (List.append_cancel_left hr)).1 hne.symm

/-- Nothing lies under a place in a directory when it does not lie in that directory. -/
theorem not_isUnder_child {l k : Location} (h : ∀ n rest, k ≠ l ++ n :: rest) (m : Text) :
    isUnder (l ++ [m]) k = false := by
  cases hu : isUnder (l ++ [m]) k with
  | false => rfl
  | true =>
    obtain ⟨rest, rfl⟩ := isUnder_iff.1 hu
    exact absurd (List.append_assoc ..) (h m rest)

/-! ## Carrying over -/

/-- Where an entry lies after everything at `source` was carried to `target`. -/
def movedKey (source target k : Location) : Location :=
  match remainder? source k with
  | some rest => target ++ rest
  | none => k

@[simp] theorem movedKey_append (source target rest : Location) :
    movedKey source target (source ++ rest) = target ++ rest := by
  simp [movedKey]

theorem movedKey_of_not_isUnder {source k : Location} (target : Location)
    (h : isUnder source k = false) : movedKey source target k = k := by
  have hr : remainder? source k = none := by simpa [isUnder] using h
  simp [movedKey, hr]

/-- Locations stay apart when they are carried over, if nothing lay at the target. -/
theorem movedKey_injective {source target j k : Location} (hj : isUnder target j = false)
    (hk : isUnder target k = false) (h : movedKey source target j = movedKey source target k) :
    j = k := by
  unfold movedKey at h
  cases hsj : remainder? source j with
  | some a =>
    cases hsk : remainder? source k with
    | some b =>
      rw [hsj, hsk] at h
      have := List.append_cancel_left h
      rw [remainder?_eq_some_iff.1 hsj, remainder?_eq_some_iff.1 hsk, this]
    | none =>
      rw [hsj, hsk] at h
      simp [isUnder, ← h] at hk
  | none =>
    cases hsk : remainder? source k with
    | some b =>
      rw [hsj, hsk] at h
      simp [isUnder, h] at hj
    | none => simpa [hsj, hsk] using h

end Disk
end GuideBundles
