/-
# `Proofs.Text.Expression` — regular expressions with groups

An expression is matched as an engine does that goes back when it gets stuck: a choice tries its
first side first, what is optional is tried before it is left out, and a repetition goes on as long
as it can.  `Expression.ways` lists all ways to match at the front of a text in the order in which
they are tried, and the first one counts.  `Expression.Matches` says the same without an order, and
`mem_ways` is the bridge.  `Reads.eq_first?` compares a reader with an expression: it is enough that
what is tried first is spelled by the grammar of the reader, and that whatever is spelled can be
matched.

Expressions have groups and choices and no anchors; `Proofs.Text.Pattern` has anchors, which a
replacement line by line needs, and neither of the others.
-/
import GuideBundles.Proofs.Text.Search

namespace GuideBundles.Text

/-- A regular expression.  Groups are to stand outside of choices and repetitions. -/
inductive Expression where
  /-- A character of a class. -/
  | one (p : Char → Bool)
  /-- These characters. -/
  | word (w : Text)
  | seq (e f : Expression)
  | choice (e f : Expression)
  | optional (e : Expression)
  /-- Any number of times, each time at least one character. -/
  | many (e : Expression)
  /-- What is matched here is kept. -/
  | group (e : Expression)

/-- A way to match at the front of a text: what is matched, what its groups keep, and what is left
of the text. -/
structure Way where
  taken : Text
  groups : List Text
  rest : Text

namespace Way

/-- The way that matches nothing. -/
def stay (t : Text) : Way := ⟨[], [], t⟩

/-- A way, and another one in what it leaves. -/
def andThen (a b : Way) : Way := ⟨a.taken ++ b.taken, a.groups ++ b.groups, b.rest⟩

theorem stay_andThen (t : Text) : (stay t).andThen = id := rfl

/-- What a group keeps; the groups are counted from one, and zero stands for all that is matched. -/
def group (a : Way) (n : Nat) : Text := (a.taken :: a.groups).getD n []

end Way

namespace Expression

/-- Several expressions, one after the other. -/
def concat : List Expression → Expression
  | [] => word []
  | e :: es => seq e (concat es)

/-- One time or more. -/
def oneOrMore (e : Expression) : Expression := seq e (many e)

/-! ## Ways to match -/

/-- The ways to repeat a step, the longest ones first. -/
def repeated (step : Text → List Way) (t : Text) : List Way :=
  ((step t).flatMap fun a =>
    if _ : a.rest.length < t.length then (repeated step a.rest).map a.andThen else [])
    ++ [Way.stay t]
termination_by t.length

/-- The ways to match at the front of a text, in the order in which they are tried. -/
def ways : Expression → Text → List Way
  | one _, [] => []
  | one p, c :: t => if p c then [⟨[c], [], t⟩] else []
  | word w, t => if w.isPrefixOf t then [⟨w, [], t.drop w.length⟩] else []
  | seq e f, t => (e.ways t).flatMap fun a => (f.ways a.rest).map a.andThen
  | choice e f, t => e.ways t ++ f.ways t
  | optional e, t => e.ways t ++ [Way.stay t]
  | many e, t => repeated e.ways t
  | group e, t => (e.ways t).map fun a => { a with groups := a.taken :: a.groups }

/-- The way that counts. -/
def first? (e : Expression) (t : Text) : Option Way := (e.ways t).head?

/-- The matches in a text after its first `skip` characters, none of them empty, each with the
character before it. -/
def allFrom (e : Expression) : Nat → Option Char → Text → List (Option Char × Way)
  | _, _, [] => []
  | skip + 1, _, c :: t => e.allFrom skip (some c) t
  | 0, last, c :: t =>
    match e.first? (c :: t) with
    | none => e.allFrom 0 (some c) t
    | some a => (last, a) :: e.allFrom (a.taken.length - 1) (some c) t

/-- The matches in a text, from left to right and without overlap. -/
def all (e : Expression) (t : Text) : List (Option Char × Way) := e.allFrom 0 none t

/-! ## The language of an expression -/

/-- Repetitions, none of them empty. -/
inductive Repeats (once : Text → List Text → Prop) : Text → List Text → Prop
  | nil : Repeats once [] []
  | cons {s s' : Text} {g g' : List Text} :
      s ≠ [] → once s g → Repeats once s' g' → Repeats once (s ++ s') (g ++ g')

/-- Whether a text as a whole can be matched, with what the groups keep. -/
def Matches : Expression → Text → List Text → Prop
  | one p, s, g => (∃ c, p c = true ∧ s = [c]) ∧ g = []
  | word w, s, g => s = w ∧ g = []
  | seq e f, s, g => ∃ s₁ s₂ g₁ g₂, e.Matches s₁ g₁ ∧ f.Matches s₂ g₂ ∧ s = s₁ ++ s₂ ∧ g = g₁ ++ g₂
  | choice e f, s, g => e.Matches s g ∨ f.Matches s g
  | optional e, s, g => e.Matches s g ∨ s = [] ∧ g = []
  | many e, s, g => Repeats e.Matches s g
  | group e, s, g => ∃ g', e.Matches s g' ∧ g = s :: g'

variable {e f : Expression} {s t w : Text} {g : List Text} {a b : Way} {p : Char → Bool}

/-- Where a step is told by what it takes, so are its repetitions. -/
theorem mem_repeated {step : Text → List Way} {once : Text → List Text → Prop}
    (hstep : ∀ t a, a ∈ step t ↔ once a.taken a.groups ∧ t = a.taken ++ a.rest) :
    a ∈ repeated step t ↔ Repeats once a.taken a.groups ∧ t = a.taken ++ a.rest := by
  constructor
  · intro h
    induction hn : t.length using Nat.strong_induction_on generalizing t a with
    | _ n ih =>
      subst hn
      rw [repeated, List.mem_append, List.mem_flatMap, List.mem_singleton] at h
      rcases h with ⟨b, hb, h⟩ | rfl
      · split at h
        · next hshorter =>
          obtain ⟨c, hc, rfl⟩ := List.mem_map.1 h
          obtain ⟨honce, rfl⟩ := (hstep t b).1 hb
          obtain ⟨hrepeats, hrest⟩ := ih _ hshorter hc rfl
          have hne : b.taken ≠ [] := by
            rintro hnil
            simp [hnil] at hshorter
          exact ⟨.cons hne honce hrepeats, by rw [hrest]; simp [Way.andThen]⟩
        · cases h
      · exact ⟨.nil, rfl⟩
  · obtain ⟨s, g, rest⟩ := a
    rintro ⟨h, rfl⟩
    change Repeats once s g at h
    change _ ∈ repeated step (s ++ rest)
    induction h with
    | nil =>
      rw [repeated]
      exact List.mem_append_right _ (List.mem_singleton_self _)
    | @cons s s' g g' hne honce _ ih =>
      rw [repeated]
      refine List.mem_append_left _ (List.mem_flatMap.2
        ⟨⟨s, g, s' ++ rest⟩, (hstep _ _).2 ⟨honce, List.append_assoc ..⟩, ?_⟩)
      have hshorter : (s' ++ rest).length < (s ++ s' ++ rest).length := by
        have := List.length_pos_iff.2 hne
        simp only [List.length_append]
        omega
      rw [dif_pos hshorter]
      exact List.mem_map.2 ⟨_, ih, rfl⟩

/-- The ways to match at the front of a text are those that the language allows. -/
theorem mem_ways : a ∈ e.ways t ↔ e.Matches a.taken a.groups ∧ t = a.taken ++ a.rest := by
  induction e generalizing t a with
  | one p =>
    obtain ⟨s, g, rest⟩ := a
    simp only [Matches]
    constructor
    · intro h
      cases t with
      | nil => cases h
      | cons c t =>
        rw [ways] at h
        split at h
        · next hc =>
          obtain ⟨rfl, rfl, rfl⟩ := Way.mk.inj (List.mem_singleton.1 h)
          exact ⟨⟨⟨c, hc, rfl⟩, rfl⟩, rfl⟩
        · cases h
    · rintro ⟨⟨⟨c, hc, rfl⟩, rfl⟩, rfl⟩
      rw [List.singleton_append, ways, if_pos hc]
      exact List.mem_singleton_self _
  | word w =>
    obtain ⟨s, g, rest⟩ := a
    simp only [ways, Matches]
    constructor
    · intro h
      split at h
      · next hw =>
        obtain ⟨u, rfl⟩ := List.isPrefixOf_iff_prefix.1 hw
        rw [List.drop_left] at h
        obtain ⟨rfl, rfl, rfl⟩ := Way.mk.inj (List.mem_singleton.1 h)
        exact ⟨⟨rfl, rfl⟩, rfl⟩
      · cases h
    · rintro ⟨⟨rfl, rfl⟩, rfl⟩
      rw [if_pos (List.isPrefixOf_iff_prefix.2 (List.prefix_append _ _)), List.drop_left]
      exact List.mem_singleton_self _
  | seq e f ihe ihf =>
    simp only [ways, Matches, List.mem_flatMap, List.mem_map, ihe, ihf]
    constructor
    · rintro ⟨b, ⟨hb, rfl⟩, c, ⟨hc, hrest⟩, rfl⟩
      exact ⟨⟨_, _, _, _, hb, hc, rfl, rfl⟩, by rw [hrest]; simp [Way.andThen]⟩
    · obtain ⟨s, g, rest⟩ := a
      rintro ⟨⟨s₁, s₂, g₁, g₂, h₁, h₂, rfl, rfl⟩, rfl⟩
      exact ⟨⟨s₁, g₁, s₂ ++ rest⟩, ⟨h₁, List.append_assoc ..⟩, ⟨s₂, g₂, rest⟩, ⟨h₂, rfl⟩, rfl⟩
  | choice e f ihe ihf => simp only [ways, Matches, List.mem_append, ihe, ihf, or_and_right]
  | optional e ih =>
    simp only [ways, Matches, List.mem_append, List.mem_singleton, ih, or_and_right]
    refine or_congr_right ?_
    constructor
    · rintro rfl
      exact ⟨⟨rfl, rfl⟩, rfl⟩
    · obtain ⟨s, g, rest⟩ := a
      rintro ⟨⟨rfl, rfl⟩, rfl⟩
      rfl
  | many e ih => exact mem_repeated fun t a => ih
  | group e ih =>
    simp only [ways, Matches, List.mem_map, ih]
    constructor
    · rintro ⟨b, ⟨hb, ht⟩, rfl⟩
      exact ⟨⟨_, hb, rfl⟩, ht⟩
    · obtain ⟨s, g, rest⟩ := a
      rintro ⟨⟨g', hg, hgroups⟩, rfl⟩
      obtain rfl : g = s :: g' := hgroups
      exact ⟨⟨s, g', rest⟩, ⟨hg, rfl⟩, rfl⟩

/-- What is tried first is in the language. -/
theorem of_first? (h : e.first? t = some a) :
    e.Matches a.taken a.groups ∧ t = a.taken ++ a.rest :=
  mem_ways.1 (List.mem_of_head? h)

/-- A search passes over the rest of what is matched. -/
theorem skip_of_first? {c : Char} (h : e.first? (c :: t) = some a) :
    t.length - a.rest.length = a.taken.length - 1 := by
  have hlength := congrArg List.length (of_first? h).2
  simp only [List.length_cons, List.length_append] at hlength
  omega

/-- If a text begins with something in the language, there is a way to match. -/
theorem exists_first? (h : e.Matches s g) (rest : Text) : ∃ a, e.first? (s ++ rest) = some a := by
  have hmem : (⟨s, g, rest⟩ : Way) ∈ e.ways (s ++ rest) := mem_ways.2 ⟨h, rfl⟩
  obtain ⟨a, as, ha⟩ := List.exists_cons_of_ne_nil (List.ne_nil_of_mem hmem)
  exact ⟨a, by rw [first?, ha]; rfl⟩

/-! ### What is tried first in a sequence -/

theorem of_first?_seq (h : (seq e f).first? t = some a) :
    ∃ b ∈ e.ways t, ∃ c, f.first? b.rest = some c ∧ b.andThen c = a := by
  rw [first?, ways, List.head?_flatMap] at h
  obtain ⟨b, hb, hhead⟩ := List.exists_of_findSome?_eq_some h
  rw [List.head?_map] at hhead
  obtain ⟨c, hc, rfl⟩ := Option.map_eq_some_iff.1 hhead
  exact ⟨b, hb, c, hc, rfl⟩

/-- What is optional is left out only if there is no way to go on behind it. -/
theorem of_first?_optional_seq (h : (seq (optional e) f).first? t = some a) :
    (seq e f).first? t = some a ∨ (seq e f).ways t = [] ∧ f.first? t = some a := by
  have hways : (seq (optional e) f).ways t = (seq e f).ways t ++ f.ways t := by
    rw [ways, ways, ways, List.flatMap_append, List.flatMap_singleton, Way.stay_andThen,
      List.map_id]
    rfl
  rw [first?, hways] at h
  cases hinside : (seq e f).ways t with
  | nil =>
    rw [hinside, List.nil_append] at h
    exact .inr ⟨rfl, h⟩
  | cons b bs =>
    rw [hinside, List.cons_append, List.head?_cons] at h
    exact .inl (by rw [first?, hinside, List.head?_cons, h])

/-! ### What is matched by the parts of a concatenation -/

variable {es : List Expression}

theorem matches_seq : (seq e f).Matches s g ↔
    ∃ s₁ s₂ g₁ g₂, e.Matches s₁ g₁ ∧ f.Matches s₂ g₂ ∧ s = s₁ ++ s₂ ∧ g = g₁ ++ g₂ := Iff.rfl

theorem matches_word_concat : (concat (word w :: es)).Matches s g ↔
    ∃ s', (concat es).Matches s' g ∧ s = w ++ s' := by
  simp only [concat, Matches]
  constructor
  · rintro ⟨_, s', _, g, ⟨rfl, rfl⟩, h, rfl, rfl⟩
    exact ⟨s', h, rfl⟩
  · rintro ⟨s', h, rfl⟩
    exact ⟨w, s', [], g, ⟨rfl, rfl⟩, h, rfl, rfl⟩

theorem matches_optional_concat : (concat (optional e :: es)).Matches s g ↔
    (concat (e :: es)).Matches s g ∨ (concat es).Matches s g := by
  simp only [concat, Matches]
  constructor
  · rintro ⟨s₁, s₂, g₁, g₂, h₁ | ⟨rfl, rfl⟩, h₂, rfl, rfl⟩
    · exact .inl ⟨s₁, s₂, g₁, g₂, h₁, h₂, rfl, rfl⟩
    · exact .inr h₂
  · rintro (⟨s₁, s₂, g₁, g₂, h₁, h₂, rfl, rfl⟩ | h)
    · exact ⟨s₁, s₂, g₁, g₂, .inl h₁, h₂, rfl, rfl⟩
    · exact ⟨[], s, [], g, .inr ⟨rfl, rfl⟩, h, rfl, rfl⟩

theorem matches_many_one : (many (one p)).Matches s g ↔ (∀ c ∈ s, p c = true) ∧ g = [] := by
  constructor
  · intro h
    change Repeats _ s g at h
    induction h with
    | nil => exact ⟨List.forall_mem_nil _, rfl⟩
    | cons _ honce _ ih =>
      obtain ⟨⟨c, hc, rfl⟩, rfl⟩ := honce
      obtain ⟨hall, rfl⟩ := ih
      exact ⟨List.forall_mem_cons.2 ⟨hc, hall⟩, rfl⟩
  · rintro ⟨h, rfl⟩
    change Repeats _ s []
    induction s with
    | nil => exact .nil
    | cons c s ih =>
      obtain ⟨hc, hall⟩ := List.forall_mem_cons.1 h
      exact .cons (List.cons_ne_nil c []) ⟨⟨c, hc, rfl⟩, rfl⟩ (ih hall)

theorem matches_oneOrMore_one :
    (oneOrMore (one p)).Matches s g ↔ s ≠ [] ∧ (∀ c ∈ s, p c = true) ∧ g = [] := by
  simp only [oneOrMore, matches_seq, matches_many_one]
  constructor
  · rintro ⟨_, s, _, _, ⟨⟨c, hc, rfl⟩, rfl⟩, ⟨hall, rfl⟩, rfl, rfl⟩
    exact ⟨List.cons_ne_nil c s, List.forall_mem_cons.2 ⟨hc, hall⟩, rfl⟩
  · rintro ⟨hne, hall, rfl⟩
    obtain ⟨c, s, rfl⟩ := List.exists_cons_of_ne_nil hne
    obtain ⟨hc, hall⟩ := List.forall_mem_cons.1 hall
    exact ⟨[c], s, [], [], ⟨⟨c, hc, rfl⟩, rfl⟩, ⟨hall, rfl⟩, rfl, rfl⟩

theorem matches_many_one_concat : (concat (many (one p) :: es)).Matches s g ↔
    ∃ s₁ s₂, (∀ c ∈ s₁, p c = true) ∧ (concat es).Matches s₂ g ∧ s = s₁ ++ s₂ := by
  simp only [concat, matches_seq, matches_many_one]
  constructor
  · rintro ⟨s₁, s₂, _, g, ⟨h₁, rfl⟩, h₂, rfl, rfl⟩
    exact ⟨s₁, s₂, h₁, h₂, rfl⟩
  · rintro ⟨s₁, s₂, h₁, h₂, rfl⟩
    exact ⟨s₁, s₂, [], g, ⟨h₁, rfl⟩, h₂, rfl, rfl⟩

/-- A group that has no groups in it keeps what is matched there. -/
theorem matches_group_concat {P : Text → Prop} (he : ∀ s g, e.Matches s g ↔ P s ∧ g = []) :
    (concat (group e :: es)).Matches s g ↔
      ∃ s₁ s₂ g₂, P s₁ ∧ (concat es).Matches s₂ g₂ ∧ s = s₁ ++ s₂ ∧ g = s₁ :: g₂ := by
  simp only [concat, Matches, he]
  constructor
  · rintro ⟨s₁, s₂, _, g₂, ⟨_, ⟨h₁, rfl⟩, rfl⟩, h₂, rfl, rfl⟩
    exact ⟨s₁, s₂, g₂, h₁, h₂, rfl, rfl⟩
  · rintro ⟨s₁, s₂, g₂, h₁, h₂, rfl, rfl⟩
    exact ⟨s₁, s₂, [s₁], g₂, ⟨[], ⟨h₁, rfl⟩, rfl⟩, h₂, rfl, rfl⟩

end Expression

/-- A reader takes what an expression matches, if what the expression tries first is spelled, and
everything that is spelled can be matched. -/
theorem Reads.eq_first? {α β : Type} {read? : Text → Option (β × Text)}
    {grammar : Text → α → Prop} {meaning : α → β} (h : Reads read? grammar meaning)
    {e : Expression} {value : Way → β}
    (hfirst : ∀ t a, e.first? t = some a → ∃ x, grammar a.taken x ∧ value a = meaning x)
    (hspelled : ∀ s x, grammar s x → ∃ g, e.Matches s g) (t : Text) :
    read? t = (e.first? t).map fun a => (value a, a.rest) := by
  cases ha : e.first? t with
  | none =>
    refine h.eq_none_iff.2 fun s x rest hs ht => ?_
    obtain ⟨g, hg⟩ := hspelled s x hs
    obtain ⟨a, hsome⟩ := Expression.exists_first? hg rest
    rw [ht, hsome] at ha
    cases ha
  | some a =>
    obtain ⟨x, hx, hvalue⟩ := hfirst t a ha
    rw [(Expression.of_first? ha).2, h.append hx, Option.map_some, hvalue]

end GuideBundles.Text
