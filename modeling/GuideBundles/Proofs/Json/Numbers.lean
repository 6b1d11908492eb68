/-
# `Proofs.Json.Numbers` — numbers are read to their end

A number has no end of its own: it is read as far as it goes.  So what follows it must not be part
of a number, as is true of blanks, commas and brackets, and of the end of the text.
-/
import GuideBundles.Json.Reader
import GuideBundles.Proofs.Json.Grammar

namespace GuideBundles.Json

variable {c : Char} {t r ds : Text}

/-- Whether a text is empty or begins with something that may follow a value. -/
def IsEnd (r : Text) : Prop := ∀ c ∈ r.head?, isBlank c = true ∨ c = ',' ∨ c = ']' ∨ c = '}'

/-- Whether a text does not begin with a digit. -/
def IsPastDigits (r : Text) : Prop := ∀ c ∈ r.head?, c.isDigit = false

theorem takeWhile_isDigit (hds : ∀ c ∈ ds, c.isDigit = true) (hr : IsPastDigits r) :
    (ds ++ r).takeWhile Char.isDigit = ds ∧ (ds ++ r).dropWhile Char.isDigit = r := by
  have hnone : r.takeWhile Char.isDigit = [] ∧ r.dropWhile Char.isDigit = r := by
    cases r with
    | nil => exact ⟨rfl, rfl⟩
    | cons c r =>
      have hc : ¬ c.isDigit = true := by rw [hr c rfl]; decide
      exact ⟨List.takeWhile_cons_of_neg hc, List.dropWhile_cons_of_neg hc⟩
  rw [List.takeWhile_append_of_pos hds, List.dropWhile_append_of_pos hds, hnone.1, hnone.2,
    List.append_nil]
  exact ⟨rfl, rfl⟩

theorem digits?_append (hds : AreDigits ds) (hr : IsPastDigits r) :
    digits? (ds ++ r) = some (ds, r) := by
  obtain ⟨htake, hdrop⟩ := takeWhile_isDigit hds.2 hr
  obtain ⟨c, u, rfl⟩ := List.exists_cons_of_ne_nil hds.1
  rw [digits?, htake, hdrop]

/-! ## The parts of a number -/

theorem whole?_append (h : IsWhole t) (hr : IsPastDigits r) : whole? (t ++ r) = some (t, r) := by
  rcases h with rfl | ⟨hds, hzero⟩
  · have hnone : r.head?.any Char.isDigit = false := by
      cases hhead : r.head? with
      | none => rfl
      | some c => exact hr c hhead
    rw [List.singleton_append, whole?, hnone]
    rfl
  · have hread := digits?_append hds hr
    obtain ⟨c, u, rfl⟩ := List.exists_cons_of_ne_nil hds.1
    rw [List.cons_append] at hread ⊢
    rw [whole?]
    · exact hread
    · intro _ hc
      obtain ⟨rfl, -⟩ := List.cons.inj hc
      exact hzero rfl

theorem fraction?_append (h : IsFraction t) (hr : IsPastDigits r) (hdot : r.head? ≠ some '.') :
    fraction? (t ++ r) = some (t, r) := by
  rcases h with rfl | ⟨ds, rfl, hds⟩
  · cases r with
    | nil => rfl
    | cons c r =>
      rw [List.nil_append, fraction?]
      intro _ hc
      obtain ⟨rfl, -⟩ := List.cons.inj hc
      exact hdot rfl
  · rw [List.cons_append, fraction?, digits?_append hds hr]
    rfl

theorem exponent?_append (h : IsExponent t) (hr : IsPastDigits r)
    (he : r.head? ≠ some 'e' ∧ r.head? ≠ some 'E') : exponent? (t ++ r) = some (t, r) := by
  rcases h with rfl | ⟨e, sign, ds, hletter, hsign, rfl, hds⟩
  · cases r with
    | nil => rfl
    | cons c r =>
      have hc : ¬ (c = 'e' ∨ c = 'E') := by simpa using he
      simp [exponent?, hc]
  · have hread := digits?_append hds hr
    rcases hsign with rfl | rfl | rfl
    · obtain ⟨c, u, rfl⟩ := List.exists_cons_of_ne_nil hds.1
      have hdigit : c.isDigit = true := hds.2 c List.mem_cons_self
      have hplus : c ≠ '+' := by rintro rfl; exact absurd hdigit (by decide)
      have hminus : c ≠ '-' := by rintro rfl; exact absurd hdigit (by decide)
      rw [List.cons_append] at hread
      simp [exponent?, hletter, hplus, hminus, hread]
    · simp [exponent?, hletter, hread]
    · simp [exponent?, hletter, hread]

/-! ## Numbers -/

/-- What may follow a value may follow every part of a number. -/
theorem IsEnd.isPastDigits (h : IsEnd r) : IsPastDigits r := by
  intro c hc
  rcases h c hc with hblank | rfl | rfl | rfl
  · simp only [isBlank, Bool.or_eq_true, beq_iff_eq] at hblank
    rcases hblank with ((rfl | rfl) | rfl) | rfl <;> rfl
  all_goals rfl

theorem IsEnd.head?_ne (h : IsEnd r) (hblank : isBlank c = false)
    (hc : c ≠ ',' ∧ c ≠ ']' ∧ c ≠ '}') : r.head? ≠ some c := by
  intro hhead
  rcases h c hhead with hb | hb | hb | hb
  · exact absurd hb (by simp [hblank])
  · exact hc.1 hb
  · exact hc.2.1 hb
  · exact hc.2.2 hb

/-- The exponent, and what follows it, does not go on with the fraction. -/
theorem isPastDigits_exponent (h : IsExponent t) (hr : IsEnd r) :
    IsPastDigits (t ++ r) ∧ (t ++ r).head? ≠ some '.' := by
  rcases h with rfl | ⟨e, sign, ds, hletter, -, rfl, -⟩
  · exact ⟨hr.isPastDigits, hr.head?_ne rfl (by decide)⟩
  · refine ⟨fun c hc => ?_, fun hdot => ?_⟩
    · obtain rfl := Option.some.inj hc
      rcases hletter with rfl | rfl <;> rfl
    · obtain rfl := Option.some.inj hdot
      exact absurd hletter (by decide)

theorem isPastDigits_fraction (h : IsFraction t) (hr : IsPastDigits r) : IsPastDigits (t ++ r) := by
  rcases h with rfl | ⟨ds, rfl, -⟩
  · exact hr
  · intro c hc
    obtain rfl := Option.some.inj hc
    rfl

theorem magnitude?_append {whole fraction exponent : Text} (hwhole : IsWhole whole)
    (hfraction : IsFraction fraction) (hexponent : IsExponent exponent) (hr : IsEnd r) :
    magnitude? (whole ++ (fraction ++ exponent) ++ r) =
      some (whole ++ (fraction ++ exponent), r) := by
  obtain ⟨hpast, hdot⟩ := isPastDigits_exponent hexponent hr
  have hletter : r.head? ≠ some 'e' ∧ r.head? ≠ some 'E' :=
    ⟨hr.head?_ne rfl (by decide), hr.head?_ne rfl (by decide)⟩
  rw [List.append_assoc, List.append_assoc, magnitude?,
    whole?_append hwhole (isPastDigits_fraction hfraction hpast)]
  simp [fraction?_append hfraction hpast hdot, exponent?_append hexponent hr.isPastDigits hletter]

/-- A whole part begins with a digit. -/
theorem IsWhole.exists_cons (h : IsWhole t) : ∃ c u, t = c :: u ∧ c.isDigit = true := by
  rcases h with rfl | ⟨hds, -⟩
  · exact ⟨_, _, rfl, rfl⟩
  · obtain ⟨c, u, rfl⟩ := List.exists_cons_of_ne_nil hds.1
    exact ⟨c, u, rfl, hds.2 c List.mem_cons_self⟩

/-- A number is read to its end. -/
theorem number?_append (h : IsNumber t) (hr : IsEnd r) : number? (t ++ r) = some (t, r) := by
  obtain ⟨sign, whole, fraction, exponent, hsign, hwhole, hfraction, hexponent, rfl⟩ := h
  have hread := magnitude?_append hwhole hfraction hexponent hr
  rcases hsign with rfl | rfl
  · obtain ⟨c, u, rfl, hdigit⟩ := hwhole.exists_cons
    rw [List.nil_append]
    rw [List.cons_append, List.cons_append] at hread ⊢
    rw [number?, hread]
    intro _ hc
    obtain ⟨rfl, -⟩ := List.cons.inj hc
    exact absurd hdigit (by decide)
  · rw [List.append_assoc, List.singleton_append, number?, hread]
    rfl

/-- A number begins with its sign or with a digit. -/
theorem IsNumber.exists_cons (h : IsNumber t) :
    ∃ c u, t = c :: u ∧ (c = '-' ∨ c.isDigit = true) := by
  obtain ⟨sign, whole, fraction, exponent, hsign, hwhole, -, -, rfl⟩ := h
  obtain ⟨c, u, rfl, hdigit⟩ := hwhole.exists_cons
  rcases hsign with rfl | rfl
  · exact ⟨c, _, rfl, .inr hdigit⟩
  · exact ⟨'-', _, rfl, .inl rfl⟩

end GuideBundles.Json
