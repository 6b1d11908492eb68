/-
# `Proofs.Markdown.Expression` — links and images by regular expressions

Links and images are read from a text as two regular expressions match it.  `Link.read?_eq_first?`
and `Image.read?_eq_first?` say so for one place, whichever way the readers go about it, and
`Link.extract_eq_all` and `Image.extract_eq_all` for a whole text.  A link can be matched in one way
only.  For an image there may be a second one, in which an angle bracket before the target is part
of it; the expression tries the other one first.
-/
import GuideBundles.Proofs.Markdown.ImageForm
import GuideBundles.Proofs.Text.Expression

namespace GuideBundles

open Text (isBlank Expression Way)
open Text.Expression

variable {s t : Text} {g : List Text} {a b : Way}

/-- Two characters with anything between them but the second one. -/
theorem matches_enclosed {c d : Char} :
    (concat [.word [c], .many (.one (· != d)), .word [d]]).Matches s g ↔
      (∃ x, d ∉ x ∧ s = c :: (x ++ [d])) ∧ g = [] := by
  simp only [matches_word_concat, matches_many_one_concat, Image.forall_bne_iff]
  constructor
  · rintro ⟨_, ⟨x, _, hx, ⟨_, ⟨rfl, rfl⟩, rfl⟩, rfl⟩, rfl⟩
    exact ⟨⟨x, hx, rfl⟩, rfl⟩
  · rintro ⟨⟨x, hx, rfl⟩, rfl⟩
    exact ⟨_, ⟨x, _, hx, ⟨_, ⟨rfl, rfl⟩, rfl⟩, rfl⟩, rfl⟩

namespace Link

/-- The label of a link, `(?:[^\[\]]|\[[^\]]*\])*`. -/
def labelExpression : Expression :=
  .many (.choice (.one fun c => c != '[' && c != ']')
    (.concat [.word ['['], .many (.one (· != ']')), .word [']']]))

/-- The target of a link, `https?://[^\s)]+`. -/
def targetExpression : Expression :=
  .concat [.word "http".toList, .optional (.word ['s']), .word "://".toList,
    .oneOrMore (.one isTargetChar)]

/-- A link, `\[(label)\]\((target)\)`. -/
def expression : Expression :=
  .concat [.word ['['], .group labelExpression, .word "](".toList, .group targetExpression,
    .word [')']]

theorem matches_label : labelExpression.Matches s g ↔ IsLabel s ∧ g = [] := by
  constructor
  · intro h
    change Repeats _ s g at h
    induction h with
    | nil => exact ⟨.nil, rfl⟩
    | cons _ honce _ ih =>
      obtain ⟨hlabel, rfl⟩ := ih
      rcases honce with ⟨⟨c, hc, rfl⟩, rfl⟩ | hgroup
      · simp only [Bool.and_eq_true, bne_iff_ne] at hc
        exact ⟨.char hc.1 hc.2 hlabel, rfl⟩
      · obtain ⟨⟨x, hx, rfl⟩, rfl⟩ := matches_enclosed.1 hgroup
        have hgroup := IsLabel.group hx hlabel
        exact ⟨by simpa using hgroup, rfl⟩
  · rintro ⟨h, rfl⟩
    change Repeats _ s []
    induction h with
    | nil => exact .nil
    | @char c s hopen hclose _ ih =>
      exact .cons (List.cons_ne_nil c []) (.inl ⟨⟨c, by simp [hopen, hclose], rfl⟩, rfl⟩) ih
    | @group x s hx _ ih =>
      have hgroup := (matches_enclosed (c := '[')).2 ⟨⟨x, hx, rfl⟩, rfl⟩
      have hrepeats := Repeats.cons (List.cons_ne_nil '[' (x ++ [']'])) (.inr hgroup) ih
      simpa using hrepeats

/-- Only what follows the slashes of a target is free. -/
theorem isTarget_iff : IsTarget s ↔
    ∃ host, (host ≠ [] ∧ ∀ c ∈ host, isTargetChar c = true) ∧
      (s = "http://".toList ++ host ∨ s = "https://".toList ++ host) := by
  simp only [IsTarget, ← isTargetChar_iff]
  constructor
  · rintro ⟨⟨host, hne, h⟩, hall⟩
    refine ⟨host, ⟨hne, fun c hc => hall c ?_⟩, h⟩
    rcases h with rfl | rfl <;> exact List.mem_append_right _ hc
  · rintro ⟨host, ⟨hne, hall⟩, h⟩
    refine ⟨⟨host, hne, h⟩, ?_⟩
    rcases h with rfl | rfl <;> exact List.forall_mem_append.2 ⟨by decide, hall⟩

theorem matches_target : targetExpression.Matches s g ↔ IsTarget s ∧ g = [] := by
  have hhost {u : Text} {g : List Text} : (concat [.oneOrMore (.one isTargetChar)]).Matches u g ↔
      (u ≠ [] ∧ ∀ c ∈ u, isTargetChar c = true) ∧ g = [] := by
    simp [concat, Matches, matches_oneOrMore_one, and_assoc]
  rw [targetExpression, matches_word_concat, isTarget_iff]
  simp only [matches_optional_concat, matches_word_concat, hhost]
  constructor
  · rintro ⟨_, ⟨_, ⟨host, ⟨h, rfl⟩, rfl⟩, rfl⟩ | ⟨host, ⟨h, rfl⟩, rfl⟩, rfl⟩
    · exact ⟨⟨host, h, .inr rfl⟩, rfl⟩
    · exact ⟨⟨host, h, .inl rfl⟩, rfl⟩
  · rintro ⟨⟨host, h, rfl | rfl⟩, rfl⟩
    · exact ⟨_, .inr ⟨host, ⟨h, rfl⟩, rfl⟩, rfl⟩
    · exact ⟨_, .inl ⟨_, ⟨host, ⟨h, rfl⟩, rfl⟩, rfl⟩, rfl⟩

/-- What the expression matches are the link forms, with the label and the target as groups. -/
theorem matches_expression :
    expression.Matches s g ↔ ∃ p, Spells s p ∧ g = [p.label, p.target] := by
  simp only [expression, matches_word_concat, matches_group_concat fun _ _ => matches_label,
    matches_group_concat fun _ _ => matches_target]
  constructor
  · rintro ⟨_, ⟨l, _, _, hl, ⟨_, ⟨u, _, _, hu, ⟨_, ⟨rfl, rfl⟩, rfl⟩, rfl, rfl⟩, rfl⟩, rfl, rfl⟩,
      rfl⟩
    exact ⟨⟨l, u⟩, ⟨by simp [Element.enclosed], hl, hu⟩, rfl⟩
  · rintro ⟨⟨l, u⟩, ⟨rfl, hl, hu⟩, rfl⟩
    refine ⟨_, ⟨l, _, _, hl, ⟨_, ⟨u, _, _, hu, ⟨_, ⟨rfl, rfl⟩, rfl⟩, rfl, rfl⟩, rfl⟩, rfl, rfl⟩, ?_⟩
    simp [Element.enclosed]

/-- A link can be matched in one way only. -/
theorem way_unique (ha : a ∈ expression.ways t) (hb : b ∈ expression.ways t) : a = b := by
  obtain ⟨hmatch, htaken⟩ := mem_ways.1 ha
  obtain ⟨hmatch', htaken'⟩ := mem_ways.1 hb
  obtain ⟨p, hp, hgroups⟩ := matches_expression.1 hmatch
  obtain ⟨p', hp', hgroups'⟩ := matches_expression.1 hmatch'
  have heq := htaken.symm.trans htaken'
  obtain ⟨hsame, rfl⟩ := separable_spells.unique hp hp' heq
  rw [hsame] at heq
  have hrest := List.append_cancel_left heq
  cases a
  cases b
  simp_all

/-- The reader takes what the expression matches, and the target is its second group. -/
theorem read?_eq_first? (t : Text) :
    read? t = (expression.first? t).map fun a => (a.group 2, a.rest) := by
  refine reads_spells.eq_first? (fun t a ha => ?_) (fun s p hs => ?_) t
  · obtain ⟨p, hp, hgroups⟩ := matches_expression.1 (of_first? ha).1
    exact ⟨p, hp, by rw [Way.group, hgroups]; rfl⟩
  · exact ⟨_, matches_expression.2 ⟨p, hs, rfl⟩⟩

theorem targetsFrom_eq_allFrom {last : Char} {before : Option Char}
    (hlast : before = some '!' ↔ last = '!') (skip : Nat) (t : Text) :
    targetsFrom skip last t = ((expression.allFrom skip before t).filter
      fun m => m.1 != some '!').map fun m => m.2.group 2 := by
  induction t generalizing skip last before with
  | nil => rfl
  | cons c t ih =>
    have hnext : some c = some '!' ↔ c = '!' := by simp
    cases skip with
    | succ skip => exact ih hnext skip
    | zero =>
      rw [targetsFrom, allFrom, read?_eq_first?]
      cases ha : expression.first? (c :: t) with
      | none => exact ih hnext 0
      | some a =>
        simp only [Option.map_some, skip_of_first? ha, ih hnext]
        by_cases hbang : last = '!' <;> simp [hbang, hlast]

/-- The links of a text are the matches that have no exclamation mark before them and whose second
group is a web address. -/
theorem extract_eq_all (t : Text) : extract t = ((((expression.all t).filter
    fun m => m.1 != some '!').map fun m => m.2.group 2).filter Url.isWeb).map .link := by
  have hstart : (none : Option Char) = some '!' ↔ '\n' = '!' := by simp
  rw [extract, targetsFrom_eq_allFrom hstart, all]

end Link

namespace Image

/-- An image up to its target, `!\[([^\]]*)\]\(\s*`. -/
def leadExpression : Expression :=
  .concat [.word "![".toList, .group (.many (.one (· != ']'))), .word "](".toList,
    .many (.one isBlank)]

/-- A title, `\s+"[^"]*"`. -/
def titleExpression : Expression :=
  .concat [.oneOrMore (.one isBlank), .word ['"'], .many (.one (· != '"')), .word ['"']]

/-- An image from its target on, `([^)\s>]+)>?(?:title)?\s*\)`. -/
def targetExpression : Expression :=
  .concat [.group (.oneOrMore (.one isTargetChar)), .optional (.word ['>']),
    .optional titleExpression, .many (.one isBlank), .word [')']]

/-- An image, with an angle bracket between the two pieces that may be left out. -/
def expression : Expression :=
  .seq leadExpression (.seq (.optional (.word ['<'])) targetExpression)

theorem matches_lead : leadExpression.Matches s g ↔ ∃ alt gap, ']' ∉ alt ∧ IsGap gap ∧
    s = "![".toList ++ (alt ++ ("](".toList ++ gap)) ∧ g = [alt] := by
  simp only [leadExpression, matches_word_concat, matches_many_one_concat,
    matches_group_concat fun _ _ => matches_many_one, forall_bne_iff]
  constructor
  · rintro ⟨_, ⟨alt, _, _, halt, ⟨_, ⟨gap, _, hgap, ⟨rfl, rfl⟩, rfl⟩, rfl⟩, rfl, rfl⟩, rfl⟩
    exact ⟨alt, gap, halt, hgap, by rw [List.append_nil], rfl⟩
  · rintro ⟨alt, gap, halt, hgap, rfl, rfl⟩
    exact ⟨_, ⟨alt, _, _, halt, ⟨_, ⟨gap, [], hgap, ⟨rfl, rfl⟩, rfl⟩, rfl⟩, rfl, rfl⟩, by simp⟩

theorem matches_title : titleExpression.Matches s g ↔ (∃ gap title, gap ≠ [] ∧ IsGap gap ∧
    '"' ∉ title ∧ s = gap ++ '"' :: (title ++ ['"'])) ∧ g = [] := by
  constructor
  · rintro ⟨gap, _, _, _, hblanks, hrest, rfl, rfl⟩
    obtain ⟨hne, hgap, rfl⟩ := matches_oneOrMore_one.1 hblanks
    obtain ⟨⟨title, htitle, rfl⟩, rfl⟩ := matches_enclosed.1 hrest
    exact ⟨⟨gap, title, hne, hgap, htitle, rfl⟩, rfl⟩
  · rintro ⟨⟨gap, title, hne, hgap, htitle, rfl⟩, rfl⟩
    exact ⟨gap, _, [], [], matches_oneOrMore_one.2 ⟨hne, hgap, rfl⟩,
      matches_enclosed.2 ⟨⟨title, htitle, rfl⟩, rfl⟩, rfl, rfl⟩

theorem matches_end : (concat [.optional titleExpression, .many (.one isBlank),
    .word [')']]).Matches s g ↔ IsEnd s ∧ g = [] := by
  have hclose {u : Text} {g : List Text} : (concat [.many (.one isBlank), .word [')']]).Matches u g
      ↔ (∃ gap, IsGap gap ∧ u = gap ++ [')']) ∧ g = [] := by
    simp only [matches_many_one_concat, matches_word_concat]
    constructor
    · rintro ⟨gap, _, hgap, ⟨_, ⟨rfl, rfl⟩, rfl⟩, rfl⟩
      exact ⟨⟨gap, hgap, rfl⟩, rfl⟩
    · rintro ⟨⟨gap, hgap, rfl⟩, rfl⟩
      exact ⟨gap, _, hgap, ⟨_, ⟨rfl, rfl⟩, rfl⟩, rfl⟩
  rw [matches_optional_concat, hclose]
  constructor
  · rintro (⟨_, _, _, _, htitle, hrest, rfl, rfl⟩ | ⟨⟨gap, hgap, rfl⟩, rfl⟩)
    · obtain ⟨⟨gap, title, hne, hgap, hquote, rfl⟩, rfl⟩ := matches_title.1 htitle
      obtain ⟨⟨gap', hgap', rfl⟩, rfl⟩ := hclose.1 hrest
      have hend := IsEnd.titled hgap hne hquote hgap'
      exact ⟨by simpa using hend, rfl⟩
    · exact ⟨.plain hgap, rfl⟩
  · rintro ⟨hend, rfl⟩
    cases hend with
    | @plain gap hgap => exact .inr ⟨⟨gap, hgap, rfl⟩, rfl⟩
    | @titled gap title gap' hgap hne hquote hgap' =>
      exact .inl ⟨gap ++ '"' :: (title ++ ['"']), gap' ++ [')'], [], [],
        matches_title.2 ⟨⟨gap, title, hne, hgap, hquote, rfl⟩, rfl⟩,
        hclose.2 ⟨⟨gap', hgap', rfl⟩, rfl⟩, by simp, rfl⟩

theorem matches_targetExpression : targetExpression.Matches s g ↔ ∃ target tail, target ≠ [] ∧
    (∀ c ∈ target, isTargetChar c = true) ∧ IsTail tail ∧ s = target ++ tail ∧ g = [target] := by
  have htail {u : Text} {g : List Text} : (concat [.optional (.word ['>']),
      .optional titleExpression, .many (.one isBlank), .word [')']]).Matches u g ↔
      IsTail u ∧ g = [] := by
    rw [matches_optional_concat, matches_word_concat]
    simp only [matches_end]
    constructor
    · rintro (⟨e, ⟨he, rfl⟩, rfl⟩ | ⟨he, rfl⟩)
      · exact ⟨.angle he, rfl⟩
      · exact ⟨.plain he, rfl⟩
    · rintro ⟨he | he, rfl⟩
      · exact .inr ⟨he, rfl⟩
      · exact .inl ⟨_, ⟨he, rfl⟩, rfl⟩
  have htarget (s : Text) (g : List Text) : (oneOrMore (one isTargetChar)).Matches s g ↔
      (s ≠ [] ∧ ∀ c ∈ s, isTargetChar c = true) ∧ g = [] := by
    rw [matches_oneOrMore_one, and_assoc]
  rw [targetExpression, matches_group_concat htarget]
  simp only [htail]
  constructor
  · rintro ⟨target, tail, _, ⟨hne, hchars⟩, ⟨htail, rfl⟩, rfl, rfl⟩
    exact ⟨target, tail, hne, hchars, htail, rfl, rfl⟩
  · rintro ⟨target, tail, hne, hchars, htail, rfl, rfl⟩
    exact ⟨target, tail, [], ⟨hne, hchars⟩, ⟨htail, rfl⟩, rfl, rfl⟩

/-- Where no angle bracket can be matched in front of a target, none is part of the target, unless
the target is nothing else. -/
theorem eq_angle_of_no_way {target tail rest : Text}
    (h : (seq (.word ['<']) targetExpression).ways (target ++ tail ++ rest) = [])
    (hchars : ∀ c ∈ target, isTargetChar c = true) (htail : IsTail tail)
    (hhead : target.head? = some '<') : target = ['<'] := by
  obtain ⟨v, rfl⟩ := List.head?_eq_some_iff.1 hhead
  cases v with
  | nil => rfl
  | cons d v =>
    have htarget := matches_targetExpression.2
      ⟨d :: v, tail, List.cons_ne_nil d v, (List.forall_mem_cons.1 hchars).2, htail, rfl, rfl⟩
    have hmatch : (seq (.word ['<']) targetExpression).Matches ('<' :: (d :: v ++ tail)) [d :: v] :=
      ⟨['<'], d :: v ++ tail, [], [d :: v], ⟨rfl, rfl⟩, htarget, rfl, rfl⟩
    obtain ⟨a, ha⟩ := exists_first? hmatch rest
    exact absurd (List.mem_of_head? ha) (h ▸ List.not_mem_nil)

/-- What is tried first is an image form, with the alternative text and the target as groups. -/
theorem spells_of_first? (h : expression.first? t = some a) :
    ∃ p, Spells a.taken p ∧ a.groups = [p.alt, p.target] := by
  obtain ⟨b, hb, c, hc, rfl⟩ := of_first?_seq h
  obtain ⟨alt, gap, halt, hgap, hlead, hgroups⟩ := matches_lead.1 (mem_ways.1 hb).1
  rcases of_first?_optional_seq hc with hangle | ⟨hnone, hplain⟩
  · obtain ⟨⟨_, _, _, _, ⟨rfl, rfl⟩, htarget, htaken, hkept⟩, -⟩ := of_first? hangle
    obtain ⟨target, tail, hne, hchars, htail, rfl, rfl⟩ := matches_targetExpression.1 htarget
    refine ⟨⟨alt, gap ++ ['<'], target, tail⟩, ⟨?_, halt, .angle hgap, hne, hchars, htail⟩, ?_⟩
    · simp [Way.andThen, hlead, htaken]
    · simp [Way.andThen, hgroups, hkept]
  · obtain ⟨htarget, hrest⟩ := of_first? hplain
    obtain ⟨target, tail, hne, hchars, htail, htaken, hkept⟩ := matches_targetExpression.1 htarget
    rw [hrest, htaken] at hnone
    refine ⟨⟨alt, gap, target, tail⟩,
      ⟨?_, halt, .plain hgap (eq_angle_of_no_way hnone hchars htail), hne, hchars, htail⟩, ?_⟩
    · simp [Way.andThen, hlead, htaken]
    · simp [Way.andThen, hgroups, hkept]

theorem exists_matches (p : Parts) (h : Spells s p) : ∃ g, expression.Matches s g := by
  obtain ⟨alt, lead, target, tail⟩ := p
  obtain ⟨rfl, halt, hlead, hne, hchars, htail⟩ := h
  have htarget := matches_targetExpression.2 ⟨target, tail, hne, hchars, htail, rfl, rfl⟩
  cases hlead with
  | plain hgap _ =>
    have hplain : (seq (.optional (.word ['<'])) targetExpression).Matches (target ++ tail)
        [target] :=
      ⟨[], target ++ tail, [], [target], .inr ⟨rfl, rfl⟩, htarget, rfl, rfl⟩
    exact ⟨_, _, _, _, _, matches_lead.2 ⟨alt, lead, halt, hgap, rfl, rfl⟩, hplain, by simp, rfl⟩
  | @angle gap _ hgap =>
    have hangle : (seq (.optional (.word ['<'])) targetExpression).Matches
        ('<' :: (target ++ tail)) [target] :=
      ⟨['<'], target ++ tail, [], [target], .inl ⟨rfl, rfl⟩, htarget, rfl, rfl⟩
    exact ⟨_, _, _, _, _, matches_lead.2 ⟨alt, gap, halt, hgap, rfl, rfl⟩, hangle, by simp, rfl⟩

/-- The reader takes what the expression matches, and its groups are the alternative text and the
target. -/
theorem read?_eq_first? (t : Text) : read? t =
    (expression.first? t).map fun a => (.image (a.group 2) (a.group 1), a.rest) := by
  refine reads_spells.eq_first? (fun t a ha => ?_) (fun s p hs => exists_matches p hs) t
  obtain ⟨p, hp, hgroups⟩ := spells_of_first? ha
  exact ⟨p, hp, by rw [Way.group, Way.group, hgroups]; rfl⟩

theorem listFrom_eq_allFrom (skip : Nat) (before : Option Char) (t : Text) :
    listFrom skip t = (expression.allFrom skip before t).map fun m =>
      .image (m.2.group 2) (m.2.group 1) := by
  induction t generalizing skip before with
  | nil => rfl
  | cons c t ih =>
    cases skip with
    | succ skip => exact ih skip _
    | zero =>
      rw [listFrom, allFrom, read?_eq_first?]
      cases ha : expression.first? (c :: t) with
      | none => exact ih 0 _
      | some a =>
        simp only [Option.map_some, skip_of_first? ha, List.map_cons, ih _ (some c)]

/-- The images of a text are the matches in it. -/
theorem extract_eq_all (t : Text) :
    extract t = (expression.all t).map fun m => .image (m.2.group 2) (m.2.group 1) :=
  listFrom_eq_allFrom 0 none t

end Image
end GuideBundles
