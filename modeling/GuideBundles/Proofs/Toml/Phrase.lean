/-
# `Proofs.Toml.Phrase` — reading texts and arrays of texts back

The form of a phrase is chosen so that it can hold the text.  Therefore every text can be read back
from its phrase, and a value that is a text or an array of texts from what is written for it.
-/
import GuideBundles.Proofs.Toml.Quotes
import GuideBundles.Toml.Reader

namespace GuideBundles.Toml

variable {c : Char} {t r rest : Text} {n : Nat}

namespace Phrase

/-! ## Forms -/

theorem dropFirstBreak_of_head (h : t.head? ≠ some '\n') (h' : t.head? ≠ some '\r') :
    dropFirstBreak t = t := by
  unfold dropFirstBreak
  split
  · exact absurd rfl h
  · exact absurd rfl h'
  · rfl

/-- The line end behind the opening quotes, and nothing else, is dropped. -/
theorem dropFirstBreak_opening (h : '\n' ∉ t → r.head? ≠ some '\n' ∧ r.head? ≠ some '\r') :
    dropFirstBreak (opening t ++ r) = r := by
  unfold opening
  split
  · rfl
  · next hbreak =>
    have hnot : '\n' ∉ t := fun hmem => hbreak (List.any_eq_true.2 ⟨'\n', hmem, rfl⟩)
    exact dropFirstBreak_of_head (h hnot).1 (h hnot).2

theorem isPlain_or_of_isControl_eq_false (h : t.any isControl = false) (hc : c ∈ t) :
    c = '\n' ∨ isPlain c = true := by
  have := List.any_eq_false.1 h c hc
  cases hplain : isPlain c <;> simp_all [isControl]

/-- A literal form is chosen only for a text that it can hold. -/
theorem fits_of_formOf_eq_literal (h : formOf t = .literal) :
    (∀ c ∈ t, isPlain c = true) ∧ '\'' ∉ t := by
  simp only [formOf] at h
  split at h
  · cases h
  split at h
  · next hfits =>
    simp only [Bool.and_eq_true, Bool.not_eq_true', beq_iff_eq] at hfits
    obtain ⟨⟨hcontrol, hsingles⟩, hseveral⟩ := hfits
    refine ⟨fun c hc => ?_, not_mem_of_longestRun hsingles⟩
    refine (isPlain_or_of_isControl_eq_false hcontrol hc).resolve_left ?_
    rintro rfl
    exact List.any_eq_false.1 hseveral '\n' hc rfl
  split at h
  · cases h
  split at h
  · cases h
  split at h <;> cases h

theorem fits_of_formOf_eq_multiLiteral (h : formOf t = .multiLiteral) :
    (∀ c ∈ t, c = '\n' ∨ isPlain c = true) ∧ longestRun '\'' 0 t ≤ 2 := by
  simp only [formOf] at h
  split at h
  · cases h
  split at h
  · cases h
  split at h
  · cases h
  split at h
  · next hfits =>
    simp only [Bool.and_eq_true, Bool.not_eq_true', decide_eq_true_eq] at hfits
    exact ⟨fun c hc => isPlain_or_of_isControl_eq_false hfits.1 hc, hfits.2⟩
  split at h <;> cases h

/-- Only a text with line ends is written with one at its start, and none with a carriage return. -/
theorem head_escaped (ht : '\n' ∉ t) : (escaped true 0 t ++ '"' :: r).head? ≠ some '\n' ∧
    (escaped true 0 t ++ '"' :: r).head? ≠ some '\r' := by
  cases t with
  | nil => exact ⟨by simp [escaped], by simp [escaped]⟩
  | cons c t =>
    by_cases hc : c = '"'
    · subst hc
      exact ⟨by simp [escaped], by simp [escaped]⟩
    · rw [escaped_cons_of_ne hc]
      cases he : escape? true c with
      | some e =>
        obtain ⟨x, rfl, -⟩ | ⟨x, y, z, w, rfl, -⟩ := escape?_eq_some he <;> simp
      | none =>
        have hbreak : c ≠ '\n' := fun h => ht (h ▸ List.mem_cons_self)
        have hplain : isPlain c = true := (escape?_eq_none he).2.resolve_right fun h => hbreak h.2
        simp [hbreak, ne_return_of_isPlain hplain]

theorem read?_basic (t : Text) (hrest : rest.head? ≠ some '"') :
    read? (inForm t .basic ++ rest) = some (t, rest) := by
  have h : inForm t .basic ++ rest = '"' :: (escaped false 0 t ++ '"' :: rest) := by
    simp [inForm]
  rw [h, read?, basic?_escaped]
  -- Two more quotes cannot follow: the text would be empty, and then only one of them is its end.
  intro u hu
  cases t with
  | nil =>
    obtain ⟨-, rfl⟩ := List.cons_eq_cons.1 hu
    exact hrest rfl
  | cons c t =>
    by_cases hc : c = '"'
    · subst hc
      exact absurd (List.cons_eq_cons.1 hu).1 (by decide)
    · obtain ⟨x, v, hx, hne⟩ := head_escape_ne false hc
      rw [escaped_cons_of_ne hc, hx] at hu
      exact hne (List.cons_eq_cons.1 hu).1

theorem read?_literal (hplain : ∀ c ∈ t, isPlain c = true) (hquote : '\'' ∉ t)
    (hrest : rest.head? ≠ some '\'') : read? (inForm t .literal ++ rest) = some (t, rest) := by
  have h : inForm t .literal ++ rest = '\'' :: (t ++ '\'' :: rest) := by
    simp [inForm]
  rw [h, read?, literal?_append hplain hquote]
  intro u hu
  cases t with
  | nil =>
    obtain ⟨-, rfl⟩ := List.cons_eq_cons.1 hu
    exact hrest rfl
  | cons c t =>
    obtain ⟨rfl, -⟩ := List.cons_eq_cons.1 hu
    exact hquote List.mem_cons_self

theorem read?_multiBasic (t : Text) (hrest : rest.head? ≠ some '"') :
    read? (inForm t .multiBasic ++ rest) = some (t, rest) := by
  have h : inForm t .multiBasic ++ rest = '"' :: '"' :: '"' ::
      (opening t ++ (escaped true 0 t ++ '"' :: '"' :: '"' :: rest)) := by
    simp only [inForm, List.append_assoc]
    rfl
  rw [h, read?, dropFirstBreak_opening head_escaped, multiBasic?_escaped t 0 hrest]

theorem read?_multiLiteral (hplain : ∀ c ∈ t, c = '\n' ∨ isPlain c = true)
    (hquotes : longestRun '\'' 0 t ≤ 2) (hrest : rest.head? ≠ some '\'') :
    read? (inForm t .multiLiteral ++ rest) = some (t, rest) := by
  have h : inForm t .multiLiteral ++ rest = '\'' :: '\'' :: '\'' ::
      (opening t ++ (t ++ '\'' :: '\'' :: '\'' :: rest)) := by
    simp only [inForm, List.append_assoc]
    rfl
  rw [h, read?, dropFirstBreak_opening, multiLiteral?_append hplain hquotes hrest]
  intro hbreak
  cases t with
  | nil => exact ⟨by simp, by simp⟩
  | cons c t =>
    have hnot : c ≠ '\n' := fun h => hbreak (h ▸ List.mem_cons_self)
    have hreturn := ne_return_of_isPlain ((hplain c List.mem_cons_self).resolve_left hnot)
    exact ⟨by simpa using hnot, by simpa using hreturn⟩

/-- Every text can be read back from its phrase, unless another quote follows. -/
theorem read?_write (t : Text) (hdouble : rest.head? ≠ some '"')
    (hsingle : rest.head? ≠ some '\'') : read? (write t ++ rest) = some (t, rest) := by
  rw [write]
  cases hform : formOf t with
  | basic => exact read?_basic t hdouble
  | literal =>
    obtain ⟨hplain, hquote⟩ := fits_of_formOf_eq_literal hform
    exact read?_literal hplain hquote hsingle
  | multiBasic => exact read?_multiBasic t hdouble
  | multiLiteral =>
    obtain ⟨hplain, hquotes⟩ := fits_of_formOf_eq_multiLiteral hform
    exact read?_multiLiteral hplain hquotes hsingle

end Phrase

/-! ## Values -/

/-- A text, or texts as an array. -/
inductive Value where
  | text (t : Text)
  | texts (ts : List Text)

namespace Value

/-- A value as it is written. -/
def write : Value → Text
  | text t => Phrase.write t
  | texts ts => Phrase.writeList ts

/-- The item that is read for a value. -/
def item : Value → Item
  | text t => .text t
  | texts ts => .array (ts.map .text)

end Value

/-- A phrase begins with a quote. -/
theorem write_eq_cons (t : Text) : ∃ q u, Phrase.write t = q :: u ∧ (q = '"' ∨ q = '\'') := by
  rw [Phrase.write]
  cases Phrase.formOf t with
  | basic => exact ⟨_, _, rfl, .inl rfl⟩
  | literal => exact ⟨_, _, rfl, .inr rfl⟩
  | multiBasic => exact ⟨_, _, rfl, .inl rfl⟩
  | multiLiteral => exact ⟨_, _, rfl, .inr rfl⟩

theorem write_ne_bracket (t : Text) : ∃ q u, Phrase.write t = q :: u ∧ q ≠ ']' := by
  obtain ⟨q, u, hq, hquote⟩ := write_eq_cons t
  exact ⟨q, u, hq, by rcases hquote with rfl | rfl <;> decide⟩

theorem item?_write (t : Text) (hdouble : rest.head? ≠ some '"')
    (hsingle : rest.head? ≠ some '\'') :
    item? n (Phrase.write t ++ rest) = some (.text t, rest) := by
  have hread := Phrase.read?_write t hdouble hsingle
  have hphrase : item?.scalarOrPhrase? (Phrase.write t ++ rest) = some (.text t, rest) := by
    obtain ⟨q, u, hq, rfl | rfl⟩ := write_eq_cons t
    all_goals
      rw [hq, List.cons_append] at hread ⊢
      rw [item?.scalarOrPhrase?, hread]
      rfl
  cases n with
  | zero => exact hphrase
  | succ n =>
    obtain ⟨q, u, hq, rfl | rfl⟩ := write_eq_cons t
    all_goals
      rw [hq, List.cons_append] at hphrase ⊢
      exact hphrase

theorem skipLines_write (t rest : Text) :
    skipLines false (Phrase.write t ++ rest) = Phrase.write t ++ rest := by
  obtain ⟨q, u, hq, rfl | rfl⟩ := write_eq_cons t
  all_goals rw [hq]; rfl

/-- A text of an array on a line of its own. -/
def arrayLine (t : Text) : Text := Text.ofString "    " ++ Phrase.write t ++ Text.ofString ",\n"

theorem skipLines_arrayLine (t rest : Text) :
    skipLines false ('\n' :: (arrayLine t ++ rest)) =
      Phrase.write t ++ ',' :: '\n' :: rest := by
  rw [arrayLine, List.append_assoc, List.append_assoc]
  exact skipLines_write t (',' :: '\n' :: rest)

/-- An array whose bracket something other than a closing bracket follows holds items. -/
theorem item?_bracket {c : Char} (hnext : skipLines false r = c :: rest) (hc : c ≠ ']') :
    item? (n + 1) ('[' :: r) = (items? (item? n) ((c :: rest).length + 1) (c :: rest)).map
      fun (vs, r) => (.array vs, r) := by
  rw [item?]
  simp only [hnext]
  split
  · next h => exact absurd (List.cons_eq_cons.1 h).1 hc
  · rfl

/-- An item that a comma and something other than a bracket follow is not the last one. -/
theorem items?_cons {read? : Text → Option (Item × Text)} {v : Item} {c : Char}
    (hitem : read? t = some (v, ',' :: r)) (hnext : skipLines false r = c :: rest) (hc : c ≠ ']') :
    items? read? (n + 1) t =
      (items? read? n (c :: rest)).map fun (vs, r) => (v :: vs, r) := by
  have hcomma : skipLines false (',' :: r) = ',' :: r := rfl
  rw [items?, hitem, Option.bind_eq_bind, Option.bind_some]
  simp only [hcomma, hnext]
  split
  · next h => exact absurd (List.cons_eq_cons.1 h).1 hc
  · rfl

/-- Texts on lines of their own are read as the items of an array. -/
theorem items?_arrayLines (m : Nat) (t : Text) (ts : List Text) (hn : ts.length < n) :
    items? (item? m) n (Phrase.write t ++ ',' :: '\n' :: (ts.flatMap arrayLine ++ ']' :: rest)) =
      some ((t :: ts).map .text, rest) := by
  induction ts generalizing t n with
  | nil =>
    obtain ⟨n, rfl⟩ : ∃ k, n = k + 1 := ⟨n - 1, by omega⟩
    rw [items?, item?_write t (by simp) (by simp)]
    rfl
  | cons u ts ih =>
    obtain ⟨n, rfl⟩ : ∃ k, n = k + 1 := ⟨n - 1, by omega⟩
    obtain ⟨q, v, hq, hbracket⟩ := write_ne_bracket u
    have hnext := skipLines_arrayLine u (ts.flatMap arrayLine ++ ']' :: rest)
    have hrest := ih u (Nat.lt_of_succ_lt_succ hn)
    rw [hq, List.cons_append] at hnext hrest
    rw [List.flatMap_cons, List.append_assoc,
      items?_cons (item?_write t (by simp) (by simp)) hnext hbracket, hrest]
    rfl

theorem arrayLine_ne_nil (t : Text) : arrayLine t ≠ [] := List.cons_ne_nil _ _

theorem length_le_length_flatMap {α β : Type} (xs : List α) {f : α → List β} (hf : ∀ x, f x ≠ []) :
    xs.length ≤ (xs.flatMap f).length := by
  induction xs with
  | nil => exact Nat.le_refl 0
  | cons x xs ih =>
    have := List.length_pos_iff.2 (hf x)
    rw [List.flatMap_cons, List.length_append, List.length_cons]
    omega

theorem item?_writeList (n : Nat) (ts : List Text) (rest : Text) :
    item? (n + 1) (Phrase.writeList ts ++ rest) = some (.array (ts.map .text), rest) := by
  match ts with
  | [] => rfl
  | [t] =>
    obtain ⟨q, v, hq, hbracket⟩ := write_ne_bracket t
    have hnext := skipLines_write t (']' :: rest)
    have hitem : items? (item? n) ((Phrase.write t ++ ']' :: rest).length + 1)
        (Phrase.write t ++ ']' :: rest) = some ([.text t], rest) := by
      rw [items?, item?_write t (by simp) (by simp)]
      rfl
    have hwritten : Phrase.writeList [t] ++ rest = '[' :: (Phrase.write t ++ ']' :: rest) := by
      simp [Phrase.writeList]
    rw [hwritten]
    rw [hq, List.cons_append] at hnext hitem ⊢
    rw [item?_bracket hnext hbracket, hitem]
    rfl
  | t :: u :: ts =>
    obtain ⟨q, v, hq, hbracket⟩ := write_ne_bracket t
    have hnext := skipLines_arrayLine t ((u :: ts).flatMap arrayLine ++ ']' :: rest)
    have hwritten : Phrase.writeList (t :: u :: ts) ++ rest =
        '[' :: '\n' :: (arrayLine t ++ ((u :: ts).flatMap arrayLine ++ ']' :: rest)) := by
      simp only [Phrase.writeList, List.flatMap_cons, arrayLine, List.append_assoc]
      rfl
    have hlines : ∀ k, (u :: ts).length < k → items? (item? n) k (Phrase.write t ++ ',' :: '\n' ::
        ((u :: ts).flatMap arrayLine ++ ']' :: rest)) = some ((t :: u :: ts).map .text, rest) :=
      fun k => items?_arrayLines n t (u :: ts)
    have hlength := length_le_length_flatMap (u :: ts) arrayLine_ne_nil
    rw [hq, List.cons_append] at hnext hlines
    rw [hwritten, item?_bracket hnext hbracket, hlines]
    · rfl
    · simp only [List.length_append, List.length_cons] at hlength ⊢
      omega

/-- Every value can be read back, unless a quote follows. -/
theorem item?_value (v : Value) (hdouble : rest.head? ≠ some '"')
    (hsingle : rest.head? ≠ some '\'') :
    item? (n + 1) (v.write ++ rest) = some (v.item, rest) := by
  cases v with
  | text t => exact item?_write t hdouble hsingle
  | texts ts => exact item?_writeList n ts rest

end GuideBundles.Toml
