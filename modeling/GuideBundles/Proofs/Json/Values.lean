/-
# `Proofs.Json.Values` — what is written is read

Values, elements and members are read by one mutual recursion on a bound, so what one bound reads
follows from what the bound below reads.  A value takes a bound of its length, and what stands
between brackets one more, which the opening bracket provides.
-/
import Mathlib.Data.List.DropRight
import GuideBundles.Proofs.Json.Numbers
import GuideBundles.Proofs.Json.Strings

namespace GuideBundles.Json

variable {c : Char} {n : Nat} {gap r t : Text} {v : Value}

/-! ## Blanks -/

theorem AreBlanks.isBlank (h : AreBlanks gap) : ∀ c ∈ gap, isBlank c = true := by
  intro c hc
  rcases h c hc with rfl | rfl | rfl | rfl <;> rfl

theorem skip_append (h : AreBlanks gap) : skip (gap ++ t) = skip t :=
  List.dropWhile_append_of_pos h.isBlank

theorem skip_cons (hc : isBlank c = false) : skip (c :: t) = c :: t :=
  List.dropWhile_cons_of_neg (by simp [hc])

theorem skip_of_areBlanks (h : AreBlanks gap) : skip gap = [] :=
  List.dropWhile_eq_nil_iff.2 h.isBlank

theorem skip_skip : skip (skip t) = skip t := List.dropWhile_idempotent _ _

/-- Blanks, and then a token that may follow a value. -/
theorem isEnd_append (h : AreBlanks gap) (hr : IsEnd r) : IsEnd (gap ++ r) := by
  cases gap with
  | nil => exact hr
  | cons c gap =>
    intro d hd
    obtain rfl := Option.some.inj hd
    exact .inl (h.isBlank c List.mem_cons_self)

theorem elements?_skip : elements? n (skip t) = elements? n t := by
  cases n with
  | zero => rfl
  | succ n => rw [elements?, elements?, skip_skip]

theorem members?_skip : members? n (skip t) = members? n t := by
  cases n with
  | zero => rfl
  | succ n => rw [members?, members?, skip_skip]

/-! ## First characters -/

/-- Whether a character is neither a blank nor a closing bracket, as at the start of a value. -/
def IsHead (c : Char) : Prop := isBlank c = false ∧ c ≠ ']' ∧ c ≠ '}'

instance : DecidablePred IsHead := fun _ => inferInstanceAs (Decidable (_ ∧ _))

theorem ne_of_isDigit {d : Char} (h : c = '-' ∨ c.isDigit = true)
    (hd : d ≠ '-' ∧ d.isDigit = false) : c ≠ d := by
  rintro rfl
  rcases h with h | h
  · exact hd.1 h
  · simp [hd.2] at h

theorem isHead_of_isDigit (h : c = '-' ∨ c.isDigit = true) : IsHead c := by
  refine ⟨?_, ne_of_isDigit h (by decide), ne_of_isDigit h (by decide)⟩
  simp only [Json.isBlank, Bool.or_eq_false_iff, beq_eq_false_iff_ne]
  exact ⟨⟨⟨ne_of_isDigit h (by decide), ne_of_isDigit h (by decide)⟩,
    ne_of_isDigit h (by decide)⟩, ne_of_isDigit h (by decide)⟩

theorem Written.exists_cons (h : Written v t) : ∃ c u, t = c :: u ∧ IsHead c := by
  cases h with
  | null => exact ⟨_, _, rfl, by decide⟩
  | true => exact ⟨_, _, rfl, by decide⟩
  | false => exact ⟨_, _, rfl, by decide⟩
  | number h =>
    obtain ⟨c, u, rfl, hc⟩ := h.exists_cons
    exact ⟨c, u, rfl, isHead_of_isDigit hc⟩
  | string h =>
    obtain ⟨u, rfl, -⟩ := phrase?_of_quoted h
    exact ⟨_, _, rfl, by decide⟩
  | emptyArray h => exact ⟨_, _, rfl, by decide⟩
  | array h => exact ⟨_, _, rfl, by decide⟩
  | emptyObject h => exact ⟨_, _, rfl, by decide⟩
  | object h => exact ⟨_, _, rfl, by decide⟩

theorem Written.skip_append (h : Written v t) : skip (t ++ r) = t ++ r := by
  obtain ⟨c, u, rfl, hc⟩ := h.exists_cons
  exact skip_cons hc.1

/-! ## One step of the bound -/

/-- Whether a bound reads every value that is no longer. -/
def ReadsValues (n : Nat) : Prop :=
  ∀ {v t r}, Written v t → t.length ≤ n → IsEnd r → value? n (t ++ r) = some (v, r)

def ReadsElements (n : Nat) : Prop :=
  ∀ {vs t r}, Elements vs t → t.length < n → elements? n (t ++ ']' :: r) = some (vs, r)

def ReadsMembers (n : Nat) : Prop :=
  ∀ {ms t r}, Members ms t → t.length < n → members? n (t ++ '}' :: r) = some (ms, r)

/-- A value between blanks is read up to the token after it. -/
theorem ReadsValues.between {before after : Text} (hn : ReadsValues n) (hbefore : AreBlanks before)
    (h : Written v t) (hafter : AreBlanks after) (hlength : t.length ≤ n)
    (hc : IsEnd (c :: r)) :
    value? n (skip (before ++ (t ++ (after ++ c :: r)))) = some (v, after ++ c :: r) := by
  rw [Json.skip_append hbefore, h.skip_append, hn h hlength (isEnd_append hafter hc)]

theorem isEnd_cons (hc : c = ',' ∨ c = ']' ∨ c = '}') : IsEnd (c :: r) := by
  intro d hd
  obtain rfl := Option.some.inj hd
  exact .inr hc

theorem readsElements_succ (hvalues : ReadsValues n) (helements : ReadsElements n) :
    ReadsElements (n + 1) := by
  intro vs t r h hlength
  cases h with
  | @last v before t after hbefore hv hafter =>
    simp only [List.length_append] at hlength
    have hread := hvalues.between hbefore hv hafter (by omega)
      (isEnd_cons (r := r) (.inr (.inl rfl)))
    simp only [List.append_assoc, elements?, hread, Option.bind_eq_bind, Option.bind_some]
    rw [skip_append hafter, skip_cons rfl]
    rfl
  | @cons v vs before t after rest hbefore hv hafter hrest =>
    simp only [List.length_append, List.length_cons] at hlength
    have hread := hvalues.between hbefore hv hafter (by omega)
      (isEnd_cons (r := rest ++ ']' :: r) (.inl rfl))
    have hmore := helements hrest (show rest.length < n by omega) (r := r)
    simp only [List.append_assoc, List.cons_append, elements?, hread, Option.bind_eq_bind,
      Option.bind_some]
    rw [skip_append hafter, skip_cons rfl]
    simp [hmore]

/-- A member is read up to the token after it, which says whether there are more. -/
theorem members?_append {m : Phrase × Value} (hvalues : ReadsValues n) (h : Member m t)
    (hlength : t.length < n + 1) (hblank : Json.isBlank c = false) (hc : IsEnd (c :: r)) :
    members? (n + 1) (t ++ c :: r) =
      if c = '}' then some ([m], r)
      else if c = ',' then (members? n r).map fun x => (m :: x.1, x.2)
      else none := by
  obtain ⟨hbefore, hkey, hbetween, hgap, hv, hafter⟩ := h
  obtain ⟨key, rfl, hphrase⟩ := phrase?_of_quoted hkey
  simp only [List.length_append, List.length_cons] at hlength
  have hvalue := hvalues.between hgap hv hafter (by omega) hc
  simp only [List.append_assoc, List.cons_append, members?]
  rw [skip_append hbefore, skip_cons rfl]
  simp only [hphrase, Option.bind_eq_bind, Option.bind_some]
  rw [skip_append hbetween, skip_cons rfl]
  simp only [hvalue, Option.bind_some]
  rw [skip_append hafter, skip_cons hblank]
  split
  · next heq =>
    obtain ⟨rfl, rfl⟩ := List.cons.inj heq
    rfl
  · next heq =>
    obtain ⟨rfl, rfl⟩ := List.cons.inj heq
    rfl
  · next hbrace hcomma =>
    rw [if_neg, if_neg]
    · rintro rfl
      exact hcomma r rfl
    · rintro rfl
      exact hbrace r rfl

theorem readsMembers_succ (hvalues : ReadsValues n) (hmembers : ReadsMembers n) :
    ReadsMembers (n + 1) := by
  intro ms t r h hlength
  cases h with
  | last hm =>
    rw [members?_append hvalues hm hlength rfl (isEnd_cons (.inr (.inr rfl)))]
    rfl
  | @cons m ms t rest hm hrest =>
    simp only [List.length_append, List.length_cons] at hlength
    have hmore := hmembers hrest (show rest.length < n by omega) (r := r)
    rw [List.append_assoc, List.cons_append,
      members?_append hvalues hm (by omega) rfl (isEnd_cons (.inl rfl)), hmore]
    rfl

/-- The elements of an array do not begin with the bracket of an empty one. -/
theorem Elements.exists_skip {vs : List Value} (h : Elements vs t) :
    ∃ c u, skip (t ++ r) = c :: u ∧ c ≠ ']' := by
  cases h with
  | last hbefore hv hafter =>
    obtain ⟨c, u, rfl, hc⟩ := hv.exists_cons
    exact ⟨c, _, by rw [List.append_assoc, skip_append hbefore]; exact skip_cons hc.1, hc.2.1⟩
  | cons hbefore hv hafter hrest =>
    obtain ⟨c, u, rfl, hc⟩ := hv.exists_cons
    exact ⟨c, _, by rw [List.append_assoc, skip_append hbefore]; exact skip_cons hc.1, hc.2.1⟩

theorem Members.exists_skip {ms : List (Phrase × Value)} (h : Members ms t) :
    ∃ u, skip (t ++ r) = '"' :: u := by
  have hmember {m : Phrase × Value} {t r : Text} (h : Member m t) :
      ∃ u, skip (t ++ r) = '"' :: u := by
    obtain ⟨hbefore, hkey, -, -, -, -⟩ := h
    obtain ⟨key, rfl, -⟩ := phrase?_of_quoted hkey
    exact ⟨_, by rw [List.append_assoc, skip_append hbefore]; exact skip_cons rfl⟩
  cases h with
  | last hm => exact hmember hm
  | cons hm _ =>
    rw [List.append_assoc]
    exact hmember hm

theorem readsValues_succ (helements : ReadsElements n) (hmembers : ReadsMembers n) :
    ReadsValues (n + 1) := by
  intro v t r h hlength hr
  cases h with
  | null => rfl
  | true => rfl
  | false => rfl
  | number h =>
    have hread := number?_append h hr
    obtain ⟨c, u, rfl, hc⟩ := h.exists_cons
    have hne {d : Char} (hd : d ≠ '-' ∧ d.isDigit = false) : c ≠ d := ne_of_isDigit hc hd
    have hword : word? (c :: (u ++ r)) = none := by
      simp [word?, remainder?, (hne (d := 'n') (by decide)).symm,
        (hne (d := 't') (by decide)).symm, (hne (d := 'f') (by decide)).symm]
    rw [List.cons_append] at hread ⊢
    rw [value?, hword, hread]
    · rfl
    · intro _ h
      exact hne (d := '"') (by decide) (List.cons.inj h).1
    · intro _ h
      exact hne (d := '[') (by decide) (List.cons.inj h).1
    · intro _ h
      exact hne (d := '{') (by decide) (List.cons.inj h).1
  | string h =>
    obtain ⟨u, rfl, hread⟩ := phrase?_of_quoted h
    rw [List.cons_append, value?, hread]
    rfl
  | emptyArray hgap =>
    simp only [List.cons_append, List.append_assoc, value?]
    rw [skip_append hgap, skip_cons rfl]
    rfl
  | array h =>
    simp only [List.length_append, List.length_cons, List.length_nil] at hlength
    have hread := helements h (by omega) (r := r)
    obtain ⟨c, u, hskip, hc⟩ := h.exists_skip (r := ']' :: r)
    simp only [List.cons_append, List.append_assoc, List.nil_append, value?]
    rw [← elements?_skip, hskip] at hread
    rw [hskip]
    simp [hc, hread]
  | emptyObject hgap =>
    simp only [List.cons_append, List.append_assoc, value?]
    rw [skip_append hgap, skip_cons rfl]
    rfl
  | object h =>
    simp only [List.length_append, List.length_cons, List.length_nil] at hlength
    have hread := hmembers h (by omega) (r := r)
    obtain ⟨u, hskip⟩ := h.exists_skip (r := '}' :: r)
    simp only [List.cons_append, List.append_assoc, List.nil_append, value?]
    rw [← members?_skip, hskip] at hread
    rw [hskip]
    simp [hread]

/-! ## Every bound -/

theorem reads (n : Nat) : ReadsValues n ∧ ReadsElements n ∧ ReadsMembers n := by
  induction n with
  | zero =>
    refine ⟨fun h hlength _ => ?_, fun _ hlength => ?_, fun _ hlength => ?_⟩
    · obtain ⟨c, u, rfl, -⟩ := h.exists_cons
      exact absurd hlength (Nat.not_succ_le_zero _)
    · exact absurd hlength (Nat.not_lt_zero _)
    · exact absurd hlength (Nat.not_lt_zero _)
  | succ n ih =>
    obtain ⟨hvalues, helements, hmembers⟩ := ih
    exact ⟨readsValues_succ helements hmembers, readsElements_succ hvalues helements,
      readsMembers_succ hvalues hmembers⟩

/-- Whatever way a value is written, the value is what is read. -/
theorem Value.ofText?_of_writtenAlone (h : WrittenAlone v t) : Value.ofText? t = some v := by
  obtain ⟨before, u, after, hbefore, hv, hafter, rfl⟩ := h
  have hread : value? (2 * (before ++ (u ++ after)).length + 2) (u ++ after) = some (v, after) := by
    refine (reads _).1 hv ?_ ?_
    · simp only [List.length_append]
      omega
    · have hnil : IsEnd [] := by simp [IsEnd]
      simpa using isEnd_append hafter hnil
  rw [Value.ofText?, skip_append hbefore, hv.skip_append, hread]
  simp [skip_of_areBlanks hafter]

end GuideBundles.Json
