/-
# `Proofs.Text.Parts` — the parts of a text between separators

A separator cuts a text in two, and the parts of the whole are the parts of both.  Between newlines
the parts are the rows of a text; joined by newlines they make it up again.
-/
import GuideBundles.Text.Basic

namespace GuideBundles.Text

variable {sep : Char → Bool}

theorem splitOn_ne_nil (t : Text) : splitOn sep t ≠ [] := by
  cases t with
  | nil => simp [splitOn]
  | cons c t =>
    rw [splitOn]
    split
    · simp
    · split <;> simp

theorem splitOn_append_sep {c : Char} (hc : sep c = true) (s t : Text) :
    splitOn sep (s ++ c :: t) = splitOn sep s ++ splitOn sep t := by
  induction s with
  | nil => simp [splitOn, hc]
  | cons d s ih =>
    obtain ⟨part, parts, hs⟩ := List.exists_cons_of_ne_nil (@splitOn_ne_nil sep s)
    rw [hs] at ih
    by_cases hd : sep d = true
    · simp [splitOn, hd, hs, ih]
    · simp [splitOn, hd, hs, ih]

theorem splitOn_of_forall {t : Text} (h : ∀ c ∈ t, sep c = false) : splitOn sep t = [t] := by
  induction t with
  | nil => rfl
  | cons c t ih =>
    have hc := h c (by simp)
    simp [splitOn, hc, ih fun d hd => h d (List.mem_cons_of_mem _ hd)]

theorem splitOn_of_not_mem {c : Char} {t : Text} (h : c ∉ t) : splitOn (· == c) t = [t] := by
  refine splitOn_of_forall fun d hd => ?_
  rw [beq_eq_false_iff_ne]
  rintro rfl
  exact h hd

/-- The first part of a text is all of it or ends at a separator, behind which the others stand. -/
theorem splitOn_eq_cons {t part : Text} {parts : List Text} (h : splitOn sep t = part :: parts) :
    (t = part ∧ parts = []) ∨
      ∃ c u, sep c = true ∧ t = part ++ c :: u ∧ splitOn sep u = parts := by
  induction t generalizing part parts with
  | nil =>
    obtain ⟨rfl, rfl⟩ := List.cons.inj h
    exact .inl ⟨rfl, rfl⟩
  | cons c t ih =>
    rw [splitOn] at h
    by_cases hc : sep c = true
    · rw [if_pos hc] at h
      obtain ⟨rfl, rfl⟩ := List.cons.inj h
      exact .inr ⟨c, t, hc, rfl, rfl⟩
    · rw [if_neg hc] at h
      obtain ⟨p, ps, ht⟩ := List.exists_cons_of_ne_nil (@splitOn_ne_nil sep t)
      rw [ht] at h
      obtain ⟨rfl, rfl⟩ := List.cons.inj h
      rcases ih ht with ⟨rfl, rfl⟩ | ⟨d, u, hd, rfl, rfl⟩
      · exact .inl ⟨rfl, rfl⟩
      · exact .inr ⟨d, u, hd, rfl, rfl⟩

/-- Parts are made of the characters of the text that are no separators. -/
theorem mem_of_mem_splitOn {t part : Text} {c : Char} (hp : part ∈ splitOn sep t) (hc : c ∈ part) :
    c ∈ t ∧ sep c = false := by
  induction t generalizing part with
  | nil =>
    obtain rfl : part = [] := by simpa [splitOn] using hp
    cases hc
  | cons d t ih =>
    rw [splitOn] at hp
    by_cases hd : sep d = true
    · rw [if_pos hd] at hp
      rcases List.mem_cons.1 hp with rfl | hp
      · cases hc
      · exact (ih hp hc).imp_left (List.mem_cons_of_mem _)
    · obtain ⟨p, ps, ht⟩ := List.exists_cons_of_ne_nil (@splitOn_ne_nil sep t)
      rw [if_neg hd, ht] at hp
      rw [ht] at ih
      rcases List.mem_cons.1 hp with rfl | hp
      · rcases List.mem_cons.1 hc with rfl | hc
        · exact ⟨by simp, by simpa using hd⟩
        · exact (ih (by simp) hc).imp_left (List.mem_cons_of_mem _)
      · exact (ih (List.mem_cons_of_mem _ hp) hc).imp_left (List.mem_cons_of_mem _)

/-- Every character that is no separator is in a part. -/
theorem exists_mem_splitOn_iff {t : Text} {c : Char} :
    (∃ part ∈ splitOn sep t, c ∈ part) ↔ c ∈ t ∧ sep c = false := by
  refine ⟨fun ⟨part, hp, hc⟩ => mem_of_mem_splitOn hp hc, ?_⟩
  rintro ⟨hc, hsep⟩
  induction t with
  | nil => cases hc
  | cons d t ih =>
    obtain ⟨p, ps, ht⟩ := List.exists_cons_of_ne_nil (@splitOn_ne_nil sep t)
    rw [splitOn, ht]
    rw [ht] at ih
    rcases List.mem_cons.1 hc with rfl | hc
    · exact ⟨c :: p, by simp [hsep], List.mem_cons_self⟩
    · obtain ⟨part, hp, hmem⟩ := ih hc
      split
      · exact ⟨part, List.mem_cons_of_mem _ hp, hmem⟩
      · rcases List.mem_cons.1 hp with rfl | hp
        · exact ⟨d :: part, List.mem_cons_self, List.mem_cons_of_mem _ hmem⟩
        · exact ⟨part, List.mem_cons_of_mem _ hp, hmem⟩

theorem splitOn_of_mem_splitOn {t part : Text} (h : part ∈ splitOn sep t) :
    splitOn sep part = [part] :=
  splitOn_of_forall fun _ hc => (mem_of_mem_splitOn h hc).2

/-! ## Rows -/

/-- The parts of a text between its newlines. -/
def rows (t : Text) : List Text := splitOn (· == '\n') t

theorem rows_ne_nil (t : Text) : rows t ≠ [] := splitOn_ne_nil t

theorem rows_append_newline (s t : Text) : rows (s ++ '\n' :: t) = rows s ++ rows t :=
  splitOn_append_sep rfl s t

theorem rows_of_not_mem {t : Text} (h : '\n' ∉ t) : rows t = [t] := splitOn_of_not_mem h

/-- A character in front of a text belongs to its first row, unless it is a newline. -/
theorem rows_cons {c : Char} (hc : c ≠ '\n') {t row : Text} {rest : List Text}
    (h : rows t = row :: rest) : rows (c :: t) = (c :: row) :: rest := by
  unfold rows at h ⊢
  rw [splitOn, h, if_neg (by simpa using hc)]

theorem length_rows (t : Text) : (rows t).length = t.count '\n' + 1 := by
  induction t with
  | nil => rfl
  | cons c t ih =>
    obtain ⟨row, rest, hrows⟩ := List.exists_cons_of_ne_nil (rows_ne_nil t)
    by_cases hc : c = '\n'
    · subst hc
      have hsplit : rows ('\n' :: t) = [] :: rows t := rows_append_newline [] t
      rw [hsplit, List.length_cons, ih, List.count_cons_self]
    · rw [rows_cons hc hrows, List.count_cons_of_ne hc, ← ih, hrows, List.length_cons,
        List.length_cons]

theorem join_cons_of_ne_nil (sep part : Text) {parts : List Text} (h : parts ≠ []) :
    join sep (part :: parts) = part ++ sep ++ join sep parts := by
  obtain ⟨next, rest, rfl⟩ := List.exists_cons_of_ne_nil h
  simp [join, List.intercalate]

/-- What is joined has the characters of its parts, and of what stands between them. -/
theorem mem_join_iff {sep : Text} {parts : List Text} {c : Char} (hsep : c ∉ sep) :
    c ∈ join sep parts ↔ ∃ part ∈ parts, c ∈ part := by
  induction parts with
  | nil => simp [join]
  | cons part rest ih =>
    cases rest with
    | nil => simp [join]
    | cons next rest =>
      rw [join_cons_of_ne_nil _ _ (List.cons_ne_nil _ _), List.mem_append, List.mem_append, ih,
        or_iff_left hsep]
      simp only [List.mem_cons, exists_eq_or_imp]

/-- The rows of a text make it up. -/
theorem join_rows (t : Text) : join ['\n'] (rows t) = t := by
  induction t with
  | nil => rfl
  | cons c t ih =>
    obtain ⟨row, rest, hrows⟩ := List.exists_cons_of_ne_nil (rows_ne_nil t)
    by_cases hc : c = '\n'
    · subst hc
      rw [← List.nil_append ('\n' :: t), rows_append_newline]
      change join ['\n'] ([] :: rows t) = _
      rw [join_cons_of_ne_nil _ _ (rows_ne_nil t), ih]
      rfl
    · rw [rows_cons hc hrows]
      rw [hrows] at ih
      cases rest with
      | nil => simpa [join, List.intercalate] using ih
      | cons next rest =>
        rw [join_cons_of_ne_nil _ _ (List.cons_ne_nil _ _)] at ih ⊢
        rw [List.cons_append, List.cons_append, ih]

end GuideBundles.Text
