/-
# `Proofs.Text.Returns` — newlines with a carriage return in front

A carriage return is as blank as a newline.  So what is cut off by a class that holds both or
neither of them is cut off in the same way when every newline has a carriage return in front, and
the lines are the same but for that.
-/
import GuideBundles.Markdown.CodeBlock
import GuideBundles.Proofs.Text.Lines
import Mathlib.Data.List.Induction
import Mathlib.Data.List.TakeWhile

namespace GuideBundles.Text

variable {p : Char → Bool}

/-- A text with a carriage return in front of each newline. -/
def crlf (t : Text) : Text := replaceChar '\n' ['\r', '\n'] t

/-- A text without its carriage returns. -/
def dropReturns (t : Text) : Text := t.filter (· ≠ '\r')

@[simp] theorem crlf_nil : crlf [] = [] := rfl

@[simp] theorem crlf_newline (t : Text) : crlf ('\n' :: t) = '\r' :: '\n' :: crlf t := rfl

@[simp] theorem crlf_cons {c : Char} (hc : c ≠ '\n') (t : Text) : crlf (c :: t) = c :: crlf t := by
  rw [crlf, replaceChar, List.flatMap_cons, if_neg hc]
  rfl

@[simp] theorem crlf_append (s t : Text) : crlf (s ++ t) = crlf s ++ crlf t := List.flatMap_append

theorem crlf_flatten (ts : List Text) : crlf ts.flatten = (ts.map crlf).flatten := by
  induction ts with
  | nil => rfl
  | cons t ts ih => rw [List.flatten_cons, crlf_append, ih, List.map_cons, List.flatten_cons]

theorem crlf_eq_nil_iff {t : Text} : crlf t = [] ↔ t = [] := by
  cases t with
  | nil => simp
  | cons c t => by_cases hc : c = '\n' <;> simp [hc]

theorem crlf_of_not_mem {t : Text} (h : '\n' ∉ t) : crlf t = t := by
  induction t with
  | nil => rfl
  | cons c t ih =>
    rw [List.mem_cons, not_or] at h
    rw [crlf_cons (Ne.symm h.1), ih h.2]

theorem mem_crlf_iff {t : Text} {c : Char} (hc : c ≠ '\r') : c ∈ crlf t ↔ c ∈ t := by
  induction t with
  | nil => rfl
  | cons d t ih => by_cases hd : d = '\n' <;> simp [hd, hc, ih]

/-! ## Carriage returns dropped -/

@[simp] theorem dropReturns_append (s t : Text) :
    dropReturns (s ++ t) = dropReturns s ++ dropReturns t := List.filter_append s t

theorem dropReturns_cons {c : Char} (hc : c ≠ '\r') (t : Text) :
    dropReturns (c :: t) = c :: dropReturns t := List.filter_cons_of_pos (by simpa using hc)

theorem dropReturns_of_not_mem {t : Text} (h : '\r' ∉ t) : dropReturns t = t := by
  refine List.filter_eq_self.2 fun c hc => ?_
  rw [decide_eq_true_eq]
  rintro rfl
  exact h hc

@[simp] theorem dropReturns_crlf (t : Text) : dropReturns (crlf t) = dropReturns t := by
  induction t with
  | nil => rfl
  | cons c t ih =>
    by_cases hc : c = '\n'
    · subst hc
      exact congrArg ('\n' :: ·) ih
    · rw [crlf_cons hc, dropReturns, dropReturns, List.filter_cons, List.filter_cons]
      split
      · exact congrArg (c :: ·) ih
      · exact ih

theorem dropWhile_dropReturns (hp : p '\r' = true) (t : Text) :
    (dropReturns t).dropWhile p = dropReturns (t.dropWhile p) := by
  induction t with
  | nil => rfl
  | cons c t ih =>
    by_cases hc : c = '\r'
    · subst hc
      rw [List.dropWhile_cons_of_pos hp, ← ih]
      rfl
    · rw [dropReturns_cons hc, List.dropWhile_cons, List.dropWhile_cons]
      split
      · exact ih
      · exact (dropReturns_cons hc t).symm

theorem dropReturns_reverse (t : Text) : dropReturns t.reverse = (dropReturns t).reverse :=
  List.filter_reverse

theorem trim_dropReturns (t : Text) : trim (dropReturns t) = dropReturns (trim t) := by
  have hblank : isBlank '\r' = true := by decide
  unfold trim trimEnd trimStart dropEndWhile
  rw [dropWhile_dropReturns hblank, ← dropReturns_reverse, dropWhile_dropReturns hblank,
    dropReturns_reverse]

theorem trim_eq_nil_iff {t : Text} : trim t = [] ↔ ∀ c ∈ t, isBlank c = true := by
  unfold trim trimEnd trimStart dropEndWhile
  rw [List.reverse_eq_nil_iff, List.dropWhile_eq_nil_iff]
  constructor
  · intro h c hc
    rw [← List.takeWhile_append_dropWhile (p := isBlank) (l := t)] at hc
    rcases List.mem_append.1 hc with hc | hc
    · exact List.mem_takeWhile_imp hc
    · exact h c (List.mem_reverse.2 hc)
  · intro h c hc
    exact h c ((List.dropWhile_sublist _).subset (List.mem_reverse.1 hc))

/-- What is left of a trimmed text is not made of carriage returns alone. -/
theorem dropReturns_trim_eq_nil_iff {t : Text} : dropReturns (trim t) = [] ↔ trim t = [] := by
  rw [← trim_dropReturns, trim_eq_nil_iff, trim_eq_nil_iff]
  constructor
  · intro h c hc
    by_cases hr : c = '\r'
    · rw [hr]
      decide
    · exact h c (List.mem_filter.2 ⟨hc, by simpa using hr⟩)
  · exact fun h c hc => h c (List.mem_filter.1 hc).1

/-! ## Cutting at the ends -/

theorem takeWhile_crlf (hp : p '\r' = p '\n') (t : Text) :
    (crlf t).takeWhile p = crlf (t.takeWhile p) := by
  induction t with
  | nil => rfl
  | cons c t ih =>
    by_cases hc : c = '\n'
    · subst hc
      cases hn : p '\n' with
      | true => simp [hp, hn, ih]
      | false => simp [hp, hn]
    · cases hn : p c with
      | true => simp [hc, hn, ih]
      | false => simp [hc, hn]

theorem dropWhile_crlf (hp : p '\r' = p '\n') (t : Text) :
    (crlf t).dropWhile p = crlf (t.dropWhile p) := by
  have h := congrArg crlf (List.takeWhile_append_dropWhile (p := p) (l := t))
  rw [crlf_append, ← takeWhile_crlf hp] at h
  exact List.append_cancel_left ((List.takeWhile_append_dropWhile).trans h.symm)

theorem any_crlf (hp : p '\r' = p '\n') (t : Text) : (crlf t).any p = t.any p := by
  induction t with
  | nil => rfl
  | cons c t ih =>
    by_cases hc : c = '\n'
    · subst hc
      simp [hp, ih]
    · simp [hc, ih]

theorem dropEndWhile_append_singleton (t : Text) (c : Char) :
    dropEndWhile p (t ++ [c]) = if p c then dropEndWhile p t else t ++ [c] := by
  unfold dropEndWhile
  rw [List.reverse_append, List.reverse_singleton, List.singleton_append, List.dropWhile_cons]
  split <;> simp

theorem dropEndWhile_crlf (hp : p '\r' = p '\n') (t : Text) :
    dropEndWhile p (crlf t) = crlf (dropEndWhile p t) := by
  induction t using List.reverseRecOn with
  | nil => rfl
  | append_singleton t c ih =>
    rw [crlf_append, dropEndWhile_append_singleton]
    by_cases hc : c = '\n'
    · subst hc
      have hlast : crlf t ++ crlf ['\n'] = crlf t ++ ['\r'] ++ ['\n'] := by simp
      rw [hlast, dropEndWhile_append_singleton, dropEndWhile_append_singleton, hp, ih]
      split
      · rfl
      · simp
    · have hlast : crlf [c] = [c] := by simp [hc]
      rw [hlast, dropEndWhile_append_singleton, ih]
      split
      · rfl
      · rw [crlf_append, hlast]

theorem trimStart_crlf (t : Text) : trimStart (crlf t) = crlf (trimStart t) :=
  dropWhile_crlf (by decide) t

theorem trim_crlf (t : Text) : trim (crlf t) = crlf (trim t) := by
  rw [trim, trimStart_crlf, trimEnd, dropEndWhile_crlf (by decide)]
  rfl

theorem hasInk_crlf (t : Text) : hasInk (crlf t) = hasInk t := any_crlf (by decide) t

theorem dropBreaks_crlf (line : Text) : dropBreaks (crlf line) = crlf (dropBreaks line) :=
  dropEndWhile_crlf (by decide) line

theorem breaks_crlf (line : Text) : breaks (crlf line) = crlf (breaks line) := by
  have h := congrArg crlf (dropBreaks_append_breaks line)
  rw [crlf_append, ← dropBreaks_crlf] at h
  exact List.append_cancel_left ((dropBreaks_append_breaks _).trans h.symm)

/-- What holds no newline is taken as it is. -/
theorem takeWhile_crlf_of_neg (hr : p '\r' = false) (hn : p '\n' = false) (t : Text) :
    (crlf t).takeWhile p = t.takeWhile p := by
  rw [takeWhile_crlf (hr.trans hn.symm), crlf_of_not_mem]
  intro hmem
  rw [List.mem_takeWhile_imp hmem] at hn
  cases hn

theorem firstWord_crlf (t : Text) : firstWord (crlf t) = firstWord t := by
  rw [firstWord, trimStart_crlf]
  exact takeWhile_crlf_of_neg (by decide) (by decide) _

/-! ## Lines -/

theorem fullLines_crlf (t : Text) : fullLines (crlf t) = (fullLines t).map crlf := by
  have hlines {ls : List Text} (h : FullLines ls) : FullLines (ls.map crlf) := by
    induction h with
    | nil => exact .nil
    | last hne hw =>
      rw [List.map_singleton, crlf_of_not_mem hw]
      exact .last hne hw
    | @cons w rest hw _ ih =>
      have hline : crlf (w ++ ['\n']) = w ++ ['\r'] ++ ['\n'] := by
        simp [crlf_of_not_mem hw]
      rw [List.map_cons, hline]
      exact .cons (by simp [hw]) ih
  refine fullLines_eq_iff.2 ⟨hlines (fullLines_fullLines t), ?_⟩
  rw [← crlf_flatten, flatten_fullLines]

theorem dropNewline_return (w : Text) : dropNewline (w ++ ['\r', '\n']) = w := by
  simp [dropNewline]

theorem dropNewline_append_newline {w : Text} (hw : w.getLast? ≠ some '\r') :
    dropNewline (w ++ ['\n']) = w := by
  rw [← List.head?_reverse] at hw
  rw [dropNewline, List.reverse_append, List.reverse_singleton, List.singleton_append]
  split
  · next r hr =>
    rw [(List.cons.inj hr).2] at hw
    exact absurd rfl hw
  · next r _ hr => rw [← (List.cons.inj hr).2, List.reverse_reverse]
  · next _ hno => exact absurd rfl (hno w.reverse)

theorem dropNewline_newline {w : Text} (hw : '\r' ∉ w) : dropNewline (w ++ ['\n']) = w :=
  dropNewline_append_newline fun h => hw (List.mem_of_getLast? h)

/-- Without their ends the lines are the same. -/
theorem lines_crlf {t : Text} (h : '\r' ∉ t) : lines (crlf t) = lines t := by
  have hlines {ls : List Text} (hls : FullLines ls) (hr : ∀ l ∈ ls, '\r' ∉ l) :
      (ls.map crlf).map dropNewline = ls.map dropNewline := by
    induction hls with
    | nil => rfl
    | last hne hw => rw [List.map_singleton, crlf_of_not_mem hw]
    | @cons w rest hw _ ih =>
      have hline : dropNewline (crlf (w ++ ['\n'])) = dropNewline (w ++ ['\n']) := by
        have hw' : '\r' ∉ w := fun hmem => hr _ List.mem_cons_self (List.mem_append_left _ hmem)
        rw [dropNewline_newline hw', crlf_append, crlf_of_not_mem hw]
        exact dropNewline_return w
      rw [List.map_cons, List.map_cons, hline, List.map_cons,
        ih fun l hl => hr l (List.mem_cons_of_mem _ hl)]
  rw [lines, fullLines_crlf]
  refine hlines (fullLines_fullLines t) ?_
  intro l hl hmem
  exact h (flatten_fullLines t ▸ List.mem_flatten_of_mem hl hmem)

end GuideBundles.Text

namespace GuideBundles

theorem isHeading_of_ne {c : Char} (hc : c ≠ '#') (t : Text) : isHeading (c :: t) = false := by
  unfold isHeading
  split
  · next h => exact absurd (List.cons.inj h).1 hc
  · rfl

theorem isHeading_crlf (t : Text) : isHeading (Text.crlf t) = isHeading t := by
  cases t with
  | nil => rfl
  | cons c t =>
    by_cases hc : c = '#'
    · subst hc
      rw [Text.crlf_cons (by decide), isHeading, isHeading, Text.dropWhile_crlf (by decide)]
      cases t.dropWhile (· == '#') with
      | nil => rfl
      | cons d u =>
        by_cases hd : d = '\n'
        · subst hd
          rfl
        · rw [Text.crlf_cons hd]
          split <;> simp_all
    · rw [isHeading_of_ne hc]
      by_cases hn : c = '\n'
      · subst hn
        rfl
      · rw [Text.crlf_cons hn, isHeading_of_ne hc]

end GuideBundles
