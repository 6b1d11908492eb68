/-
# `Proofs.Toml.Quotes` — reading a text back from between quotes

Between double quotes every text can be read back, because everything that would end it or mean
something else there is escaped.  Between single quotes a text can be read back that holds no
control characters and too few single quotes in a row to end it.  On several lines the quotes right
before the closing ones are the hard part: two of them belong to the text.
-/
import GuideBundles.Toml.Phrase

namespace GuideBundles.Toml

theorem toNat_lt_of_isPlain_eq_false {c : Char} (hc : isPlain c = false) : c.toNat < 0x80 := by
  simp only [isPlain, Bool.or_eq_false_iff, Bool.and_eq_false_iff, decide_eq_false_iff_not] at hc
  omega

theorem ne_return_of_isPlain {c : Char} (hc : isPlain c = true) : c ≠ '\r' := by
  rintro rfl
  exact absurd hc (by decide)

namespace Phrase

variable {c : Char} {t r rest : Text} {several : Bool} {run : Nat}

/-! ## Escapes -/

/-- The four digits that a control character is numbered with are those of the character. -/
theorem numbered_of_isPlain_eq_false (hc : isPlain c = false) :
    ∃ x y z w, numbered c = ['\\', 'u', x, y, z, w] ∧ charOf? [x, y, z, w] = some c := by
  have hall : ∀ n < 0x80, ((Text.hexOf 4 (Char.ofNat n)).map Char.toUpper).length = 4 ∧
      charOf? ((Text.hexOf 4 (Char.ofNat n)).map Char.toUpper) = some (Char.ofNat n) := by
    decide +kernel
  obtain ⟨hlength, hchar⟩ := hall c.toNat (toNat_lt_of_isPlain_eq_false hc)
  rw [Char.ofNat_toNat] at hlength hchar
  rw [numbered]
  match (Text.hexOf 4 c).map Char.toUpper, hlength, hchar with
  | [x, y, z, w], _, hchar => exact ⟨x, y, z, w, rfl, hchar⟩

/-- An escape is a short one or a number. -/
theorem escape?_eq_some {e : Text} (h : escape? several c = some e) :
    (∃ x, e = ['\\', x] ∧ short? x = some c) ∨
      ∃ x y z w, e = ['\\', 'u', x, y, z, w] ∧ charOf? [x, y, z, w] = some c := by
  unfold escape? at h
  split at h
  · next hc => exact .inl ⟨'b', (Option.some.inj h).symm, by rw [hc]; rfl⟩
  split at h
  · next hc => exact .inl ⟨'t', (Option.some.inj h).symm, by rw [hc]; rfl⟩
  split at h
  · next hc =>
    split at h
    · cases h
    · exact .inl ⟨'n', (Option.some.inj h).symm, by rw [hc]; rfl⟩
  split at h
  · next hc => exact .inl ⟨'f', (Option.some.inj h).symm, by rw [hc]; rfl⟩
  split at h
  · next hc => exact .inl ⟨'r', (Option.some.inj h).symm, by rw [hc]; rfl⟩
  split at h
  · next hc => exact .inl ⟨'\\', (Option.some.inj h).symm, by rw [hc]; rfl⟩
  split at h
  · cases h
  · next hplain =>
    rw [← Option.some.inj h]
    exact .inr (numbered_of_isPlain_eq_false (Bool.eq_false_iff.2 hplain))

/-- What stands for itself is no backslash, and a line end only on several lines. -/
theorem escape?_eq_none (h : escape? several c = none) :
    c ≠ '\\' ∧ (isPlain c = true ∨ several = true ∧ c = '\n') := by
  unfold escape? at h
  split at h
  · cases h
  split at h
  · cases h
  split at h
  · next hc =>
    split at h
    · next hseveral => exact ⟨hc ▸ by decide, .inr ⟨hseveral, hc⟩⟩
    · cases h
  split at h
  · cases h
  split at h
  · cases h
  split at h
  · cases h
  · next hbackslash =>
    split at h
    · next hplain => exact ⟨hbackslash, .inl hplain⟩
    · cases h

/-! ## In double quotes, on one line -/

theorem basic?_plain (hplain : isPlain c = true) (hquote : c ≠ '"') (hbackslash : c ≠ '\\') :
    basic? (c :: r) = (basic? r).map (cons c) := by
  rw [basic?]
  · rw [if_pos ⟨hplain, hbackslash⟩]
  · exact hquote
  all_goals intros; contradiction

theorem basic?_escape {e : Text} (h : escape? several c = some e) :
    basic? (e ++ r) = (basic? r).map (cons c) := by
  obtain ⟨x, rfl, hx⟩ | ⟨x, y, z, w, rfl, hx⟩ := escape?_eq_some h
  · rw [List.cons_append, List.cons_append, List.nil_append, basic?]
    · rw [hx]; rfl
    · rintro a b c d t rfl
      cases hx
    · rintro a b c d e f g h t rfl
      cases hx
  · simp [basic?, hx]

/-- A text in double quotes can be read back. -/
theorem basic?_escaped (t : Text) :
    basic? (escaped false 0 t ++ '"' :: rest) = some (t, rest) := by
  induction t with
  | nil => rfl
  | cons c t ih =>
    rw [escaped]
    split
    · next hc =>
      subst hc
      show (basic? (escaped false 0 t ++ '"' :: rest)).map (cons '"') = _
      rw [ih]
      rfl
    · next hc =>
      rw [List.append_assoc]
      cases he : escape? false c with
      | some e => rw [Option.getD_some, basic?_escape he, ih]; rfl
      | none =>
        obtain ⟨hbackslash, hplain⟩ := escape?_eq_none he
        rw [Option.getD_none, List.singleton_append,
          basic?_plain (hplain.resolve_right fun h => Bool.false_ne_true h.1) hc hbackslash, ih]
        rfl

/-! ## In single quotes, on one line -/

/-- A text without single quotes and control characters can be read back from single quotes. -/
theorem literal?_append (hplain : ∀ c ∈ t, isPlain c = true) (hquote : '\'' ∉ t) :
    literal? (t ++ '\'' :: rest) = some (t, rest) := by
  induction t with
  | nil => rfl
  | cons c t ih =>
    rw [List.mem_cons, not_or] at hquote
    rw [List.cons_append, literal?, if_neg (Ne.symm hquote.1),
      if_pos (hplain c List.mem_cons_self), ih (fun d hd => hplain d (List.mem_cons_of_mem _ hd))
        hquote.2]
    rfl

/-! ## Three quotes -/

/-- Where three quotes follow a text that is not a quote or two, three quotes in a row do not begin
with it unless they are in it. -/
theorem not_prefix_append {q : Char} (ht : t ≠ []) (hend : ¬ (t = [q] ∨ t = [q, q]))
    (hnot : ¬ [q, q, q] <+: t) : ¬ [q, q, q] <+: t ++ q :: q :: q :: rest := by
  intro h
  match t with
  | [] => exact ht rfl
  | [a] =>
    obtain ⟨rfl, -⟩ := List.cons_prefix_cons.1 h
    exact hend (.inl rfl)
  | [a, b] =>
    obtain ⟨rfl, h₁⟩ := List.cons_prefix_cons.1 h
    obtain ⟨rfl, -⟩ := List.cons_prefix_cons.1 h₁
    exact hend (.inr rfl)
  | a :: b :: c :: t =>
    obtain ⟨rfl, h₁⟩ := List.cons_prefix_cons.1 h
    obtain ⟨rfl, h₂⟩ := List.cons_prefix_cons.1 h₁
    obtain ⟨rfl, -⟩ := List.cons_prefix_cons.1 h₂
    exact hnot ⟨t, rfl⟩

theorem le_longestRun (q : Char) (run : Nat) (t : Text) : run ≤ longestRun q run t := by
  induction t generalizing run with
  | nil => exact Nat.le_refl run
  | cons c t ih =>
    rw [longestRun]
    split
    · exact Nat.le_trans (Nat.le_succ run) (ih (run + 1))
    · exact Nat.le_max_left _ _

theorem not_mem_of_longestRun {q : Char} (h : longestRun q run t = 0) : q ∉ t := by
  induction t generalizing run with
  | nil => exact List.not_mem_nil
  | cons c t ih =>
    rw [longestRun] at h
    split at h
    · exact absurd (le_longestRun q (run + 1) t) (by omega)
    · next hc =>
      rw [List.mem_cons, not_or]
      exact ⟨Ne.symm hc, ih (Nat.max_eq_zero_iff.1 h).2⟩

theorem not_prefix_of_longestRun {q : Char} (h : longestRun q run t ≤ 2) : ¬ [q, q, q] <+: t := by
  rintro ⟨u, rfl⟩
  simp only [List.cons_append, List.nil_append, longestRun, if_true] at h
  have := le_longestRun q (run + 1 + 1 + 1) u
  omega

/-! ## In single quotes, on several lines -/

theorem multiLiteral?_cons (hc : c = '\n' ∨ isPlain c = true)
    (hquotes : ¬ ['\'', '\'', '\''] <+: c :: r) :
    multiLiteral? (c :: r) = (multiLiteral? r).map (cons c) := by
  rw [multiLiteral?]
  · rw [if_pos hc]
  · rintro t rfl rfl
    exact hquotes ⟨'\'' :: '\'' :: t, rfl⟩
  · rintro t rfl rfl
    exact hquotes ⟨'\'' :: t, rfl⟩
  · rintro t rfl rfl
    exact hquotes ⟨t, rfl⟩
  · rintro t rfl rfl
    revert hc
    decide

/-- What stands right before three closing quotes is part of the text if it is a quote or two. -/
theorem multiLiteral?_end (ht : t = [] ∨ t = ['\''] ∨ t = ['\'', '\''])
    (hrest : rest.head? ≠ some '\'') :
    multiLiteral? (t ++ '\'' :: '\'' :: '\'' :: rest) = some (t, rest) := by
  obtain rfl | rfl | rfl := ht
  · rw [List.nil_append, multiLiteral?]
    all_goals
      rintro u rfl
      exact hrest rfl
  · rw [List.singleton_append, multiLiteral?]
    rintro u rfl
    exact hrest rfl
  · rfl

/-- A text without control characters and three single quotes in a row can be read back. -/
theorem multiLiteral?_append (hplain : ∀ c ∈ t, c = '\n' ∨ isPlain c = true)
    (hquotes : longestRun '\'' run t ≤ 2) (hrest : rest.head? ≠ some '\'') :
    multiLiteral? (t ++ '\'' :: '\'' :: '\'' :: rest) = some (t, rest) := by
  induction t generalizing run with
  | nil => exact multiLiteral?_end (.inl rfl) hrest
  | cons c t ih =>
    have hnot := not_prefix_of_longestRun hquotes
    -- A quote or two at the end are read together with the closing ones, everything else by itself.
    by_cases hend : c :: t = ['\''] ∨ c :: t = ['\'', '\'']
    · exact multiLiteral?_end (.inr hend) hrest
    · have hnext : ∃ run, longestRun '\'' run t ≤ 2 := by
        rw [longestRun] at hquotes
        split at hquotes
        · exact ⟨_, hquotes⟩
        · exact ⟨0, Nat.le_trans (Nat.le_max_right _ _) hquotes⟩
      obtain ⟨run, hnext⟩ := hnext
      rw [List.cons_append, multiLiteral?_cons (hplain c List.mem_cons_self),
        ih (fun d hd => hplain d (List.mem_cons_of_mem _ hd)) hnext]
      · rfl
      · exact not_prefix_append (List.cons_ne_nil c t) hend hnot

/-! ## In double quotes, on several lines -/

theorem multiBasic?_cons (hc : c = '\n' ∨ isPlain c = true) (hbackslash : c ≠ '\\')
    (hquotes : ¬ ['"', '"', '"'] <+: c :: r) :
    multiBasic? false (c :: r) = (multiBasic? false r).map (cons c) := by
  rw [multiBasic?]
  · rw [Bool.false_and, if_neg Bool.false_ne_true]
    exact if_pos (hc.imp_right fun hc => ⟨hc, hbackslash⟩)
  · rintro t rfl rfl
    exact hquotes ⟨'"' :: '"' :: t, rfl⟩
  · rintro t rfl rfl
    exact hquotes ⟨'"' :: t, rfl⟩
  · rintro t rfl rfl
    exact hquotes ⟨t, rfl⟩
  · rintro t rfl rfl
    revert hc
    decide
  all_goals intros; contradiction

theorem endsLine_of_short? {x : Char} (h : short? x = some c) : endsLine (x :: r) = false := by
  unfold short? at h
  split at h
  all_goals first | rfl | cases h

theorem multiBasic?_escape {e : Text} (h : escape? several c = some e) :
    multiBasic? false (e ++ r) = (multiBasic? false r).map (cons c) := by
  obtain ⟨x, rfl, hx⟩ | ⟨x, y, z, w, rfl, hx⟩ := escape?_eq_some h
  · rw [List.cons_append, List.cons_append, List.nil_append, multiBasic?]
    · rw [endsLine_of_short? hx, if_neg Bool.false_ne_true, hx]; rfl
    · rintro a b c d t rfl
      cases hx
    · rintro a b c d e f g h t rfl
      cases hx
  · simp [multiBasic?, hx]

theorem multiBasic?_end (ht : t = [] ∨ t = ['"'] ∨ t = ['"', '"'])
    (hrest : rest.head? ≠ some '"') :
    multiBasic? false (t ++ '"' :: '"' :: '"' :: rest) = some (t, rest) := by
  obtain rfl | rfl | rfl := ht
  · rw [List.nil_append, multiBasic?]
    all_goals
      rintro u rfl
      exact hrest rfl
  · rw [List.singleton_append, multiBasic?]
    rintro u rfl
    exact hrest rfl
  · rfl

/-- What is neither a quote nor escaped on several lines stands for itself. -/
theorem escaped_cons_of_ne (hc : c ≠ '"') : escaped several run (c :: t) =
    (escape? several c).getD [c] ++ escaped several 0 t := by
  rw [escaped, if_neg hc]

/-- A quote stands as it is when fewer than two stand right before it, and else it is escaped. -/
theorem escaped_quote : escaped true run ('"' :: t) =
    if run < 2 then '"' :: escaped true (run + 1) t else '\\' :: '"' :: escaped true 0 t := by
  rw [escaped, if_pos rfl, Bool.true_and]
  simp only [decide_eq_true_eq]

/-- A character other than a quote is not written with one at its start. -/
theorem head_escape_ne (several : Bool) (hc : c ≠ '"') :
    ∃ x u, (escape? several c).getD [c] = x :: u ∧ x ≠ '"' := by
  cases he : escape? several c with
  | none => exact ⟨c, [], rfl, hc⟩
  | some e =>
    obtain ⟨x, rfl, -⟩ | ⟨x, y, z, w, rfl, -⟩ := escape?_eq_some he
    · exact ⟨'\\', [x], rfl, by decide⟩
    · exact ⟨'\\', ['u', x, y, z, w], rfl, by decide⟩

/-- On several lines no three quotes in a row are written, those right before counted. -/
theorem not_prefix_escaped {n : Nat} (hn : 0 < n) (hrun : 2 < run + n) :
    ¬ List.replicate n '"' <+: escaped true run t := by
  induction t generalizing run n with
  | nil =>
    intro h
    rw [escaped, List.prefix_nil, List.replicate_eq_nil_iff] at h
    omega
  | cons c t ih =>
    obtain ⟨m, rfl⟩ : ∃ m, n = m + 1 := ⟨n - 1, by omega⟩
    rw [List.replicate_succ]
    by_cases hc : c = '"'
    · subst hc
      rw [escaped_quote]
      split
      · rw [List.cons_prefix_cons]
        exact fun h => ih (by omega) (by omega) h.2
      · rw [List.cons_prefix_cons]
        exact fun h => absurd h.1 (by decide)
    · obtain ⟨x, u, hx, hne⟩ := head_escape_ne true hc
      rw [escaped_cons_of_ne hc, hx, List.cons_append, List.cons_prefix_cons]
      exact fun h => hne h.1.symm

/-- What is written with quotes alone is these quotes. -/
theorem escaped_eq_self (h : ∀ x ∈ escaped true run t, x = '"') : escaped true run t = t := by
  induction t generalizing run with
  | nil => rfl
  | cons c t ih =>
    by_cases hc : c = '"'
    · subst hc
      rw [escaped_quote] at h ⊢
      split at h
      · next hrun =>
        rw [if_pos hrun, ih fun x hx => h x (List.mem_cons_of_mem _ hx)]
      · exact absurd (h '\\' List.mem_cons_self) (by decide)
    · obtain ⟨x, u, hx, hne⟩ := head_escape_ne true hc
      rw [escaped_cons_of_ne hc, hx] at h
      exact absurd (h x List.mem_cons_self) hne

/-- A text in three double quotes can be read back. -/
theorem multiBasic?_escaped (t : Text) (run : Nat) (hrest : rest.head? ≠ some '"') :
    multiBasic? false (escaped true run t ++ '"' :: '"' :: '"' :: rest) = some (t, rest) := by
  induction t generalizing run with
  | nil => exact multiBasic?_end (.inl rfl) hrest
  | cons c t ih =>
    -- How many quotes stood before matters for what is written, but the reader does not look back.
    by_cases hend : escaped true run (c :: t) = ['"'] ∨ escaped true run (c :: t) = ['"', '"']
    · have hself : escaped true run (c :: t) = c :: t :=
        escaped_eq_self (by rcases hend with h | h <;> simp [h])
      rw [hself] at hend ⊢
      exact multiBasic?_end (.inr hend) hrest
    · by_cases hc : c = '"'
      · subst hc
        have hnot : ¬ ['"', '"', '"'] <+: escaped true run ('"' :: t) :=
          not_prefix_escaped (n := 3) (by decide) (by omega)
        rw [escaped_quote] at hend hnot ⊢
        split at hend
        · next hrun =>
          rw [if_pos hrun] at hnot ⊢
          rw [List.cons_append, multiBasic?_cons (.inr rfl) (by decide), ih]
          · rfl
          · exact not_prefix_append (List.cons_ne_nil _ _) hend hnot
        · next hrun =>
          rw [if_neg hrun]
          show (multiBasic? false (escaped true 0 t ++ '"' :: '"' :: '"' :: rest)).map (cons '"') =
            _
          rw [ih]
          rfl
      · rw [escaped_cons_of_ne hc, List.append_assoc]
        cases he : escape? true c with
        | some e => rw [Option.getD_some, multiBasic?_escape he, ih]; rfl
        | none =>
          obtain ⟨hbackslash, hplain⟩ := escape?_eq_none he
          rw [Option.getD_none, List.singleton_append,
            multiBasic?_cons (hplain.symm.imp_left And.right) hbackslash, ih]
          · rfl
          · exact fun h => hc (List.cons_prefix_cons.1 h).1.symm

end Phrase
end GuideBundles.Toml
