/-
# `Proofs.Text.Search` — what a search from the left finds

A grammar says which spellings there are and what each one says.  Where at most one spelling can
begin at a place, a search that goes through a text from the left, takes what begins and goes on
behind it finds a list of occurrences that can be told without the search: they do not overlap, and
whatever else occurs in the text begins inside one of them.  `Leftmost` states this and
`Leftmost.unique` says that there is no other such list; `Found` is the search, one step at a time,
which a function follows that asks a reader of the grammar (`Reads`) at each place.
-/
import Mathlib.Data.List.Pairwise
import Mathlib.Data.List.Sort
import GuideBundles.Proofs.Text.Slice

namespace GuideBundles.Text

/-- A spelling at a place of a text: the byte offset of its first character, and what it says. -/
structure Occurrence (α : Type) where
  start : Nat
  spelling : Text
  value : α

namespace Occurrence

variable {α : Type}

/-- The byte offset behind the spelling. -/
def stop (m : Occurrence α) : Nat := m.start + size m.spelling

/-- One occurrence ends where another one begins, or before. -/
def Before (m n : Occurrence α) : Prop := m.stop ≤ n.start

/-- An occurrence begins behind the first character of another one and before its end. -/
def Inside (m n : Occurrence α) : Prop := n.start < m.start ∧ m.start < n.stop

end Occurrence

variable {α : Type} {grammar : Text → α → Prop} {offset : Nat} {s t : Text} {a : α}
  {m n : Occurrence α} {ms ns : List (Occurrence α)}

/-- What occurs in a text whose first character is at `offset`. -/
def OccursIn (grammar : Text → α → Prop) (offset : Nat) (t : Text) (m : Occurrence α) : Prop :=
  grammar m.spelling m.value ∧
    ∃ front back, t = front ++ (m.spelling ++ back) ∧ m.start = offset + size front

/-- Spellings are not empty, and at most one begins at any place and says one thing. -/
structure Separable (grammar : Text → α → Prop) : Prop where
  ne_nil {s : Text} {a : α} : grammar s a → s ≠ []
  unique {s s' : Text} {a a' : α} {back back' : Text} : grammar s a → grammar s' a' →
    s ++ back = s' ++ back' → s = s' ∧ a = a'

/-- Occurrences one after the other that leave out only what begins inside one of them. -/
structure Leftmost (grammar : Text → α → Prop) (offset : Nat) (t : Text)
    (ms : List (Occurrence α)) : Prop where
  occurs : ∀ m ∈ ms, OccursIn grammar offset t m
  disjoint : ms.Pairwise Occurrence.Before
  complete : ∀ m, OccursIn grammar offset t m → m ∈ ms ∨ ∃ n ∈ ms, m.Inside n

/-! ## Places -/

/-- A character has bytes, and what has as many in front of it is at the same place. -/
theorem eq_of_size_eq {front front' back back' : Text} (h : front ++ back = front' ++ back')
    (hsize : size front = size front') : front = front' ∧ back = back' := by
  have hcut := cutAt?_append front back
  rw [h, hsize, cutAt?_append] at hcut
  obtain ⟨hfront, hback⟩ := Prod.mk.inj (Option.some.inj hcut)
  exact ⟨hfront.symm, hback.symm⟩

theorem OccursIn.eq_of_start_eq (hg : Separable grammar) (hm : OccursIn grammar offset t m)
    (hn : OccursIn grammar offset t n) (h : m.start = n.start) : m = n := by
  obtain ⟨hm, front, back, ht, hstart⟩ := hm
  obtain ⟨hn, front', back', ht', hstart'⟩ := hn
  have hback := (eq_of_size_eq (ht.symm.trans ht') (by omega)).2
  obtain ⟨hspelling, hvalue⟩ := hg.unique hm hn hback
  cases m
  cases n
  simp_all

theorem OccursIn.start_lt_stop (hg : Separable grammar) (h : OccursIn grammar offset t m) :
    m.start < m.stop := by
  have hsize : size m.spelling ≠ 0 := mt size_eq_zero_iff.1 (hg.ne_nil h.1)
  rw [Occurrence.stop]
  omega

/-! ## Readers -/

/-- A reader takes the spellings of a grammar at the front of texts, and nothing else. -/
def Reads {β : Type} (read? : Text → Option (β × Text)) (grammar : Text → α → Prop)
    (meaning : α → β) : Prop :=
  ∀ t b rest, read? t = some (b, rest) ↔ ∃ s a, grammar s a ∧ b = meaning a ∧ t = s ++ rest

namespace Reads

variable {β : Type} {read? : Text → Option (β × Text)} {meaning : α → β}

theorem append (h : Reads read? grammar meaning) (hs : grammar s a) (rest : Text) :
    read? (s ++ rest) = some (meaning a, rest) :=
  (h _ _ _).2 ⟨s, a, hs, rfl, rfl⟩

theorem eq_none_iff (h : Reads read? grammar meaning) :
    read? t = none ↔ ∀ s a back, grammar s a → t ≠ s ++ back := by
  constructor
  · rintro hnone s a back hs rfl
    rw [h.append hs] at hnone
    cases hnone
  · intro hnone
    cases hread : read? t with
    | none => rfl
    | some x =>
      obtain ⟨s, a, hs, -, ht⟩ := (h _ _ _).1 hread
      exact absurd ht (hnone s a _ hs)

/-- What a reader takes ends at one place, so at most one spelling begins at a place; it says one
thing if its meaning is that of one thing only. -/
theorem separable (h : Reads read? grammar meaning)
    (hne : ∀ {s : Text} {a : α}, grammar s a → s ≠ [])
    (hvalue : ∀ {s : Text} {a a' : α},
      grammar s a → grammar s a' → meaning a = meaning a' → a = a') :
    Separable grammar where
  ne_nil := hne
  unique {s s' a a' back back'} hs hs' heq := by
    have hread := h.append hs back
    rw [heq, h.append hs'] at hread
    obtain ⟨hmeaning, rfl⟩ := Prod.mk.inj (Option.some.inj hread)
    obtain rfl : s = s' := List.append_cancel_right heq
    exact ⟨rfl, hvalue hs hs' hmeaning.symm⟩

end Reads

/-! ## Only one list -/

namespace Leftmost

/-- Occurrences of one list do not begin inside each other. -/
theorem not_inside (h : Leftmost grammar offset t ms) (hm : m ∈ ms) (hn : n ∈ ms) :
    ¬m.Inside n := by
  rintro ⟨hafter, hinside⟩
  have hne : m ≠ n := by
    rintro rfl
    exact Nat.lt_irrefl _ hafter
  have happart : ms.Pairwise fun m n => m.Before n ∨ n.Before m := h.disjoint.imp .inl
  let _ : Std.Symm fun m n : Occurrence α => m.Before n ∨ n.Before m := ⟨fun _ _ => Or.symm⟩
  rcases happart.forall hm hn hne with hbefore | hbefore
  · have hstop : m.start + size m.spelling ≤ n.start := hbefore
    omega
  · exact absurd hbefore (Nat.not_le.2 hinside)

/-- Going up from the left, what is in one list is in the other: it could be left out there only if
it began inside an earlier occurrence, which the first list had too. -/
theorem subset (hms : Leftmost grammar offset t ms) (hns : Leftmost grammar offset t ns) :
    ms ⊆ ns := by
  intro m hm
  induction hk : m.start using Nat.strong_induction_on generalizing m ms ns with
  | _ k ih =>
    subst hk
    rcases hns.complete m (hms.occurs m hm) with hmem | ⟨n, hn, hinside⟩
    · exact hmem
    · exact absurd hinside (hms.not_inside hm (ih n.start hinside.1 hns hms hn rfl))

theorem pairwise_start_lt (hg : Separable grammar) (h : Leftmost grammar offset t ms) :
    ms.Pairwise fun m n => m.start < n.start :=
  h.disjoint.imp_of_mem fun hm _ hbefore => ((h.occurs _ hm).start_lt_stop hg).trans_le hbefore

/-- There is at most one list of leftmost occurrences. -/
theorem unique (hg : Separable grammar) (hms : Leftmost grammar offset t ms)
    (hns : Leftmost grammar offset t ns) : ms = ns := by
  let _ : Std.Irrefl fun m n : Occurrence α => m.start < n.start := ⟨fun _ => Nat.lt_irrefl _⟩
  let _ : Std.Antisymm fun m n : Occurrence α => m.start < n.start :=
    ⟨fun _ _ h h' => absurd (h.trans h') (Nat.lt_irrefl _)⟩
  exact List.Subset.antisymm_of_pairwise (hms.pairwise_start_lt hg) (hns.pairwise_start_lt hg)
    (hms.subset hns) (hns.subset hms)

end Leftmost

/-! ## The search -/

/-- The search from the left: with nothing to take it passes over one character, and behind what it
takes it goes on. -/
inductive Found (grammar : Text → α → Prop) : Nat → Text → List (Occurrence α) → Prop
  | nil (offset : Nat) : Found grammar offset [] []
  | pass {offset : Nat} {c : Char} {t : Text} {ms : List (Occurrence α)} :
      (∀ s a back, grammar s a → c :: t ≠ s ++ back) → Found grammar (offset + c.utf8Size) t ms →
      Found grammar offset (c :: t) ms
  | take {offset : Nat} {s t : Text} {a : α} {ms : List (Occurrence α)} : grammar s a →
      Found grammar (offset + size s) t ms → Found grammar offset (s ++ t) (⟨offset, s, a⟩ :: ms)

/-- The search comes to its end. -/
theorem exists_found (hg : Separable grammar) (offset : Nat) (t : Text) :
    ∃ ms, Found grammar offset t ms := by
  induction hn : t.length using Nat.strong_induction_on generalizing offset t with
  | _ n ih =>
    subst hn
    cases t with
    | nil => exact ⟨[], .nil offset⟩
    | cons c t =>
      by_cases htake : ∃ s a back, grammar s a ∧ c :: t = s ++ back
      · obtain ⟨s, a, back, hs, ht⟩ := htake
        have hshort : back.length < (c :: t).length := by
          have hpos := List.length_pos_iff.2 (hg.ne_nil hs)
          rw [ht, List.length_append]
          omega
        obtain ⟨ms, hms⟩ := ih _ hshort (offset + size s) back rfl
        exact ⟨⟨offset, s, a⟩ :: ms, by rw [ht]; exact .take hs hms⟩
      · obtain ⟨ms, hms⟩ := ih t.length (by simp) (offset + c.utf8Size) t rfl
        exact ⟨ms, .pass (fun s a back hs ht => htake ⟨s, a, back, hs, ht⟩) hms⟩

namespace OccursIn

theorem le_start (h : OccursIn grammar offset t m) : offset ≤ m.start := by
  obtain ⟨-, front, back, -, hstart⟩ := h
  omega

/-- What occurs behind the beginning of a text occurs in the text. -/
theorem append_left (h : OccursIn grammar (offset + size s) t m) :
    OccursIn grammar offset (s ++ t) m := by
  obtain ⟨hm, front, back, rfl, hstart⟩ := h
  refine ⟨hm, s ++ front, back, by simp, ?_⟩
  rw [hstart, size_append]
  omega

/-- What occurs in a text begins before a place or occurs behind it. -/
theorem of_append (h : OccursIn grammar offset (s ++ t) m) :
    m.start < offset + size s ∨ OccursIn grammar (offset + size s) t m := by
  obtain ⟨hm, front, back, ht, hstart⟩ := h
  rcases List.append_eq_append_iff.1 ht with ⟨u, rfl, rfl⟩ | ⟨u, rfl, hu⟩
  · refine .inr ⟨hm, u, back, rfl, ?_⟩
    rw [hstart, size_append]
    omega
  · cases u with
    | nil => exact .inr ⟨hm, [], back, by simpa using hu.symm, by rw [hstart]; simp⟩
    | cons d u =>
      have hpos := d.utf8Size_pos
      refine .inl ?_
      rw [hstart, size_append, size_cons]
      omega

end OccursIn

namespace Found

theorem occurs (h : Found grammar offset t ms) : ∀ m ∈ ms, OccursIn grammar offset t m := by
  induction h with
  | nil => intro m hm; cases hm
  | @pass offset c t ms _ _ ih =>
    intro m hm
    exact OccursIn.append_left (s := [c]) (ih m hm)
  | @take offset s t a ms hs _ ih =>
    intro m hm
    rcases List.mem_cons.1 hm with rfl | hm
    · exact ⟨hs, [], t, rfl, rfl⟩
    · exact (ih m hm).append_left

theorem disjoint (h : Found grammar offset t ms) : ms.Pairwise Occurrence.Before := by
  induction h with
  | nil => exact .nil
  | pass _ _ ih => exact ih
  | take _ hrest ih => exact .cons (fun m hm => (hrest.occurs m hm).le_start) ih

/-- Where the search passes nothing begins, and where it takes nothing else does. -/
theorem complete (hg : Separable grammar) (h : Found grammar offset t ms) :
    ∀ m, OccursIn grammar offset t m → m ∈ ms ∨ ∃ n ∈ ms, m.Inside n := by
  induction h with
  | nil =>
    intro m ⟨hm, front, back, ht, _⟩
    simp [hg.ne_nil hm] at ht
  | @pass offset c t ms hnone _ ih =>
    rintro m ⟨hm, front, back, ht, hstart⟩
    cases front with
    | nil => exact absurd ht (hnone m.spelling m.value back hm)
    | cons d front =>
      obtain ⟨rfl, rfl⟩ := List.cons.inj ht
      refine ih m ⟨hm, front, back, rfl, ?_⟩
      rw [hstart, size_cons]
      omega
  | @take offset s t a ms hs hrest ih =>
    intro m hm
    have hfirst : OccursIn grammar offset (s ++ t) ⟨offset, s, a⟩ := ⟨hs, [], t, rfl, rfl⟩
    rcases hm.of_append with hbefore | hbehind
    · rcases Nat.eq_or_lt_of_le hm.le_start with hstart | hstart
      · exact .inl (List.mem_cons.2 (.inl (hm.eq_of_start_eq hg hfirst hstart.symm)))
      · exact .inr ⟨_, List.mem_cons_self, hstart, hbefore⟩
    · rcases ih m hbehind with hmem | ⟨n, hn, hinside⟩
      · exact .inl (List.mem_cons_of_mem _ hmem)
      · exact .inr ⟨n, List.mem_cons_of_mem _ hn, hinside⟩

/-- What the search finds are the leftmost occurrences. -/
theorem leftmost (hg : Separable grammar) (h : Found grammar offset t ms) :
    Leftmost grammar offset t ms :=
  ⟨h.occurs, h.disjoint, h.complete hg⟩

end Found

end GuideBundles.Text
