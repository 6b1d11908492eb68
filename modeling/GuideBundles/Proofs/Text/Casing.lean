/-
# `Proofs.Text.Casing` — capitals and small letters leave the blanks of a text alone

A blank has no form but itself, and the forms of other characters are not empty and have no blanks
in them; the tables are looked through for that.  So in capitals or small letters a text has the
blanks that it had, and has ink if it had some.
-/
import GuideBundles.Proofs.Text.Trim
import GuideBundles.Text.Casing

namespace GuideBundles.Text.Casing

open CodePoints

/-! ## Forms of one character -/

/-- What can be a form of a character: a blank is its own, and another character has one or more in
its place that are no blanks. -/
def IsForm (c : Char) (t : Text) : Prop :=
  if isBlank c = true then t = [c] else t ≠ [] ∧ t.any isBlank = false

instance (c : Char) (t : Text) : Decidable (IsForm c t) :=
  inferInstanceAs (Decidable (if isBlank c = true then t = [c] else _))

theorem isForm_self (c : Char) : IsForm c [c] := by
  unfold IsForm
  split
  · rfl
  · next hink => simpa using hink

variable {c b : Char} {t u : Text}

theorem IsForm.mem_iff (h : IsForm c t) (hb : isBlank b = true) : b ∈ t ↔ b = c := by
  unfold IsForm at h
  split at h
  · rw [h, List.mem_singleton]
  · next hink =>
    constructor
    · intro hmem
      exact absurd hb (List.any_eq_false.1 h.2 b hmem)
    · rintro rfl
      exact absurd hb hink

theorem IsForm.hasInk_eq (h : IsForm c t) : hasInk t = !isBlank c := by
  unfold IsForm at h
  split at h
  · simp [h, hasInk]
  · next hink =>
    obtain ⟨d, hd⟩ := List.exists_mem_of_ne_nil t h.1
    rw [Bool.not_eq_true] at hink
    rw [hink, Bool.not_false, hasInk_iff]
    exact ⟨d, hd, by simpa using List.any_eq_false.1 h.2 d hd⟩

/-! ## The tables -/

/-- The code points of the blanks. -/
def blanks : Intervals :=
  [(9, 13), (0x20, 0x20), (0x85, 0x85), (0xA0, 0xA0), (0x1680, 0x1680), (0x2000, 0x200A),
    (0x2028, 0x2029), (0x202F, 0x202F), (0x205F, 0x205F), (0x3000, 0x3000)]

theorem exists_mem_blanks (h : isBlank c = true) :
    ∃ i ∈ blanks, i.1 ≤ c.toNat ∧ c.toNat ≤ i.2 := by
  simp only [isBlank, Bool.or_eq_true, Bool.and_eq_true, decide_eq_true_eq, beq_iff_eq] at h
  simp only [blanks, List.mem_cons, List.not_mem_nil, or_false, exists_eq_or_imp, exists_eq_left]
  omega

/-- What is no code point of a character stands for the null character, which is no blank. -/
theorem exists_mem_blanks_of_ofNat {n : Nat} (h : isBlank (Char.ofNat n) = true) :
    ∃ i ∈ blanks, i.1 ≤ n ∧ n ≤ i.2 := by
  by_cases hvalid : n.isValidChar
  · have hblank := exists_mem_blanks h
    rw [Char.ofNat, dif_pos hvalid] at hblank
    exact hblank
  · rw [Char.ofNat, dif_neg hvalid] at h
    exact absurd h (by decide)

/-- Whether a run neither starts from a blank nor leads to one. -/
def Avoids (r : Run) : Prop := ∀ i ∈ blanks, (i.2 < r.first ∨ r.last < i.1) ∧
  (i.2 < r.target ∨ r.target + (r.last - r.first) < i.1)

instance (r : Run) : Decidable (Avoids r) := inferInstanceAs (Decidable (∀ i ∈ blanks, _))

theorem isForm_image {rs : List Run} (hrs : ∀ r ∈ rs, Avoids r) (c : Char) :
    IsForm c [(image? rs c).getD c] := by
  cases himage : image? rs c with
  | none => exact isForm_self c
  | some d =>
    obtain ⟨n, hn, rfl⟩ := Option.map_eq_some_iff.1 himage
    obtain ⟨r, hr, hn⟩ := List.exists_of_findSome?_eq_some hn
    unfold Run.image? at hn
    split at hn
    · next hin =>
      obtain rfl := Option.some.inj hn
      have hblank : isBlank c ≠ true := fun hc => by
        obtain ⟨i, hi, hle⟩ := exists_mem_blanks hc
        have := (hrs r hr i hi).1
        omega
      have htarget : isBlank (Char.ofNat (r.target + (c.toNat - r.first))) ≠ true := fun hd => by
        obtain ⟨i, hi, hle⟩ := exists_mem_blanks_of_ofNat hd
        have := (hrs r hr i hi).2
        omega
      rw [IsForm, if_neg hblank]
      simpa using htarget
    · cases hn

theorem isForm_of_mapping? {ms : List (Nat × Text)} (hms : ∀ m ∈ ms, IsForm (Char.ofNat m.1) m.2)
    (h : mapping? ms c = some t) : IsForm c t := by
  obtain ⟨before, after, hsplit, -⟩ := List.lookup_eq_some_iff.1 h
  have hform := hms (c.toNat, t) (hsplit ▸ List.mem_append_right _ List.mem_cons_self)
  rwa [Char.ofNat_toNat] at hform

/-- The first characters can be tried one by one. -/
theorem isForm_of_ascii {f : Char → Char}
    (hf : ∀ n < 0x80, IsForm (Char.ofNat n) [f (Char.ofNat n)])
    (hascii : c.toNat < 0x80) : IsForm c [f c] := by
  have hform := hf c.toNat hascii
  rwa [Char.ofNat_toNat] at hform

theorem avoids_upperRuns : ∀ r ∈ upperRuns, Avoids r := by
  rw [upperRuns, runs, entries, String.toList_ofList]
  decide +kernel

theorem avoids_lowerRuns : ∀ r ∈ lowerRuns, Avoids r := by
  rw [lowerRuns, runs, entries, String.toList_ofList]
  decide +kernel

theorem isForm_upperMappings : ∀ m ∈ upperMappings, IsForm (Char.ofNat m.1) m.2 := by
  rw [upperMappings, mappings, entries, String.toList_ofList]
  decide +kernel

theorem isForm_lowerMappings : ∀ m ∈ lowerMappings, IsForm (Char.ofNat m.1) m.2 := by
  rw [lowerMappings, mappings, entries, String.toList_ofList]
  decide +kernel

theorem isForm_upper (c : Char) : IsForm c (upper c) := by
  unfold upper
  split
  · next hascii => exact isForm_of_ascii (by decide +kernel) hascii
  · split
    · next t ht => exact isForm_of_mapping? isForm_upperMappings ht
    · exact isForm_image avoids_upperRuns c

theorem isForm_lower (c : Char) : IsForm c (lower c) := by
  unfold lower
  split
  · next hascii => exact isForm_of_ascii (by decide +kernel) hascii
  · split
    · next t ht => exact isForm_of_mapping? isForm_lowerMappings ht
    · exact isForm_image avoids_lowerRuns c

/-! ## Texts -/

/-- A text with forms in the place of its characters. -/
inductive Recased : Text → Text → Prop
  | nil : Recased [] []
  | cons {c : Char} {form t u : Text} (hform : IsForm c form) (h : Recased t u) :
      Recased (c :: t) (form ++ u)

theorem Recased.mem_iff (h : Recased t u) (hb : isBlank b = true) : b ∈ u ↔ b ∈ t := by
  induction h with
  | nil => exact Iff.rfl
  | cons hform _ ih => rw [List.mem_append, List.mem_cons, hform.mem_iff hb, ih]

theorem Recased.hasInk_eq (h : Recased t u) : hasInk u = hasInk t := by
  induction h with
  | nil => rfl
  | @cons c form t u hform _ ih =>
    rw [hasInk_append, hform.hasInk_eq, ih]
    rfl

theorem recased_lowerFrom (passed t : Text) : Recased t (lowerFrom passed t) := by
  induction t generalizing passed with
  | nil => exact .nil
  | cons c t ih =>
    refine .cons ?_ (ih _)
    split
    · next hsigma =>
      subst hsigma
      split <;> decide
    · exact isForm_lower c

end GuideBundles.Text.Casing
