/-
# `Proofs.Markdown.LinkForm` — links by their form

A link has a form that can be told without a reader: a label made of characters other than brackets
and of groups in brackets, and a target that starts as a web address does.  `Link.reads_spells` says
that the reader takes exactly what has this form, so there is at most one link form at each place;
`Link.leftmost_extract` says which of the link forms of a text are found.  A target is looked at
twice, by its form and as an address.  `Link.extract_alone` says when the two disagree: an address
whose scheme is written with capitals, or that lacks its slashes, is not found.
-/
import GuideBundles.Proofs.Markdown.Element
import GuideBundles.Proofs.Text.Search

namespace GuideBundles

open Text (isBlank size OccursIn Leftmost Found Separable Reads Occurrence)

namespace Link

open Element

variable {t u rest label target : Text}

-- Of a property of all characters of a text, these are looked at, and not all characters there are.
instance (p : Char → Prop) [DecidablePred p] (t : Text) : Decidable (∀ c ∈ t, p c) :=
  List.decidableBAll p t

/-! ## The form of a link -/

/-- A label: characters that are no brackets, and groups in brackets, in which only the closing
bracket counts. -/
inductive IsLabel : Text → Prop
  | nil : IsLabel []
  | char {c : Char} {t : Text} : c ≠ '[' → c ≠ ']' → IsLabel t → IsLabel (c :: t)
  | group {g t : Text} : ']' ∉ g → IsLabel t → IsLabel ('[' :: (g ++ ']' :: t))

/-- Whether an address is written with its scheme in lower case and two slashes behind it. -/
def IsPlain (target : Text) : Prop := "http://".toList <+: target ∨ "https://".toList <+: target

instance (target : Text) : Decidable (IsPlain target) := inferInstanceAs (Decidable (_ ∨ _))

/-- A target: a web scheme with its slashes, at least one character behind them, and neither blanks
nor a closing parenthesis anywhere. -/
def IsTarget (target : Text) : Prop :=
  (∃ host, host ≠ [] ∧ (target = "http://".toList ++ host ∨ target = "https://".toList ++ host)) ∧
    ∀ c ∈ target, isBlank c = false ∧ c ≠ ')'

/-- The two parts of a link. -/
structure Parts where
  label : Text
  target : Text
deriving DecidableEq

/-- A link form: `[label](target)`. -/
def Spells (s : Text) (p : Parts) : Prop :=
  s = enclosed p.label p.target ∧ IsLabel p.label ∧ IsTarget p.target

/-- One of the tests of `startsAsWeb`: there is something behind the start, and the start. -/
theorem exists_host_iff (start target : Text) {b : Bool}
    (hnil : target.drop start.length = [] → b = false)
    (hcons : ∀ c rest, target.drop start.length = c :: rest → b = start.isPrefixOf target) :
    b = true ↔ ∃ host, host ≠ [] ∧ target = start ++ host := by
  constructor
  · intro h
    cases hdrop : target.drop start.length with
    | nil =>
      rw [hnil hdrop] at h
      cases h
    | cons c rest =>
      rw [hcons c rest hdrop] at h
      obtain ⟨host, rfl⟩ := List.isPrefixOf_iff_prefix.1 h
      rw [List.drop_left] at hdrop
      exact ⟨host, by simp [hdrop], rfl⟩
  · rintro ⟨host, hne, rfl⟩
    obtain ⟨c, host, rfl⟩ := List.exists_cons_of_ne_nil hne
    rw [hcons c host List.drop_left]
    exact List.isPrefixOf_iff_prefix.2 (List.prefix_append _ _)

theorem startsAsWeb_iff : startsAsWeb target = true ↔
    ∃ host, host ≠ [] ∧
      (target = "http://".toList ++ host ∨ target = "https://".toList ++ host) := by
  rw [startsAsWeb, Bool.or_eq_true]
  refine (or_congr (exists_host_iff "http://".toList target (fun h => ?_) fun c rest h => ?_)
    (exists_host_iff "https://".toList target (fun h => ?_) fun c rest h => ?_)).trans ?_
  · simp only [h]
  · simp only [h]
  · simp only [h]
  · simp only [h]
  constructor
  · rintro (⟨host, hne, h⟩ | ⟨host, hne, h⟩)
    · exact ⟨host, hne, .inl h⟩
    · exact ⟨host, hne, .inr h⟩
  · rintro ⟨host, hne, h | h⟩
    · exact .inl ⟨host, hne, h⟩
    · exact .inr ⟨host, hne, h⟩

theorem isTargetChar_iff {c : Char} : isTargetChar c = true ↔ isBlank c = false ∧ c ≠ ')' := by
  simp [isTargetChar]

/-! ## What the reader takes -/

theorem afterLabel?_brackets {g : Text} (hg : ']' ∉ g) (u : Text) :
    afterLabel? false ('[' :: (g ++ ']' :: u)) = afterLabel? false u := by
  have hopen : afterLabel? false ('[' :: (g ++ ']' :: u)) = afterLabel? true (g ++ ']' :: u) := by
    simp [afterLabel?]
  rw [hopen, afterLabel?_group hg]

theorem afterLabel?_of_isLabel (h : IsLabel label) (u : Text) :
    afterLabel? false (label ++ ']' :: u) = some u := by
  induction h with
  | nil => rfl
  | @char c t hopen hclose _ ih =>
    rw [List.cons_append, afterLabel?, if_neg (by simp), if_neg hclose, beq_false_of_ne hopen]
    exact ih
  | @group g t hg _ ih =>
    rw [List.cons_append, List.append_assoc, List.cons_append, afterLabel?_brackets hg, ih]

/-- In front of what follows a label there is a label; in a group, the rest of the group comes
first. -/
theorem isLabel_of_afterLabel? (t u : Text) :
    (afterLabel? false t = some u → ∃ label, IsLabel label ∧ t = label ++ ']' :: u) ∧
    (afterLabel? true t = some u →
      ∃ g label, ']' ∉ g ∧ IsLabel label ∧ t = g ++ ']' :: (label ++ ']' :: u)) := by
  induction t with
  | nil => exact ⟨nofun, nofun⟩
  | cons c t ih =>
    obtain ⟨ihLabel, ihGroup⟩ := ih
    constructor
    · intro h
      rw [afterLabel?, if_neg (by simp)] at h
      split at h
      · next hclose =>
        obtain rfl := Option.some.inj h
        exact ⟨[], .nil, by rw [hclose]; rfl⟩
      · next hclose =>
        by_cases hopen : c = '['
        · subst hopen
          obtain ⟨g, label, hg, hlabel, rfl⟩ := ihGroup h
          exact ⟨'[' :: (g ++ ']' :: label), .group hg hlabel, by simp⟩
        · rw [beq_false_of_ne hopen] at h
          obtain ⟨label, hlabel, rfl⟩ := ihLabel h
          exact ⟨c :: label, .char hopen hclose hlabel, rfl⟩
    · intro h
      rw [afterLabel?, if_pos rfl] at h
      by_cases hclose : c = ']'
      · subst hclose
        obtain ⟨label, hlabel, rfl⟩ := ihLabel h
        exact ⟨[], label, List.not_mem_nil, hlabel, rfl⟩
      · rw [bne_iff_ne.2 hclose] at h
        obtain ⟨g, label, hg, hlabel, rfl⟩ := ihGroup h
        exact ⟨c :: g, label, by simp [Ne.symm hclose, hg], hlabel, rfl⟩

theorem read?_of_spells {s : Text} {p : Parts} (h : Spells s p) (rest : Text) :
    read? (s ++ rest) = some (p.target, rest) := by
  obtain ⟨rfl, hlabel, hstart, hchars⟩ := h
  rw [read?_enclosed (afterLabel?_of_isLabel hlabel) fun c hc => isTargetChar_iff.2 (hchars c hc),
    if_pos (startsAsWeb_iff.2 hstart)]

/-- The reader takes link forms and nothing else. -/
theorem reads_spells : Reads read? Spells Parts.target := by
  intro t target rest
  constructor
  · intro h
    have hread := h
    unfold read? at h
    split at h
    · next t =>
      obtain ⟨v, hv, htarget⟩ := Option.bind_eq_some_iff.1 h
      obtain ⟨label, hlabel, rfl⟩ := (isLabel_of_afterLabel? t v).1 hv
      obtain ⟨rfl, hchars⟩ := target?_ok htarget
      have hspelled : '[' :: (label ++ ']' :: '(' :: (target ++ ')' :: rest))
          = enclosed label target ++ rest := by
        simp [enclosed]
      rw [hspelled, read?_enclosed (afterLabel?_of_isLabel hlabel) hchars] at hread
      split at hread
      · next hstart =>
        exact ⟨_, ⟨label, target⟩, ⟨rfl, hlabel, startsAsWeb_iff.1 hstart,
          fun c hc => isTargetChar_iff.1 (hchars c hc)⟩, rfl, hspelled⟩
      · cases hread
    · cases h
  · rintro ⟨s, p, hs, rfl, rfl⟩
    exact read?_of_spells hs rest

/-- At most one link form begins at any place. -/
theorem separable_spells : Separable Spells := by
  refine reads_spells.separable (fun hs => ?_) (fun {s p p'} hs hs' htarget => ?_)
  · rw [hs.1]
    exact List.cons_ne_nil _ _
  · have hspelled := hs.1.symm.trans hs'.1
    rw [htarget] at hspelled
    have hlabel : p.label = p'.label := List.append_cancel_right (List.cons.inj hspelled).2
    cases p
    cases p'
    simp_all

/-! ## Which links are found -/

/-- The character that ends at a byte offset. -/
def charBefore? (n : Nat) (t : Text) : Option Char := (Text.cutAt? n t).bind fun p => p.1.getLast?

/-- Whether an exclamation mark stands right before an occurrence. -/
def isMarked (t : Text) (f : Occurrence Parts) : Bool := charBefore? f.start t == some '!'

theorem charBefore?_append (front back : Text) :
    charBefore? (size front) (front ++ back) = front.getLast? := by
  rw [charBefore?, Text.cutAt?_append, Option.bind_some]

theorem getLast?_enclosed (label target : Text) : (enclosed label target).getLast? = some ')' := by
  rw [enclosed, ← List.cons_append, ← List.cons_append, ← List.cons_append, ← List.append_assoc,
    List.getLast?_concat]

/-- The search takes the link forms one after the other and keeps the targets of those that are not
marked. -/
theorem targetsFrom_of_found {front : Text} {last : Char} {fs : List (Occurrence Parts)}
    (hlast : front.getLast? = some '!' ↔ last = '!') (h : Found Spells (size front) t fs) :
    targetsFrom 0 last t
      = (fs.filter fun f => !isMarked (front ++ t) f).map fun f => f.value.target := by
  generalize hoffset : size front = offset at h
  induction h generalizing front last with
  | nil => rfl
  | @pass offset c t fs hnone _ ih =>
    have hmark : (front ++ [c]).getLast? = some '!' ↔ c = '!' := by simp
    have hrest := ih hmark (by simp [hoffset])
    rw [List.append_assoc] at hrest
    rwa [targetsFrom_cons, reads_spells.eq_none_iff.2 hnone]
  | @take offset s t p fs hs _ ih =>
    have hend : (front ++ s).getLast? = some ')' := by
      rw [hs.1, List.getLast?_append, getLast?_enclosed]
      rfl
    have hmark : (front ++ s).getLast? = some '!' ↔ ')' = '!' := by simp [hend]
    have hrest := ih hmark (by simp [hoffset])
    rw [List.append_assoc] at hrest
    have hread := read?_of_spells hs t
    obtain ⟨c, u, hcons⟩ := List.exists_cons_of_ne_nil (separable_spells.ne_nil hs)
    have hmarked : isMarked (front ++ (s ++ t)) ⟨offset, s, p⟩ = decide (last = '!') := by
      rw [isMarked, ← hoffset, charBefore?_append, Bool.beq_eq_decide_eq, decide_eq_decide]
      exact hlast
    rw [List.filter_cons, hmarked, hcons, List.cons_append, targetsFrom_cons]
    rw [hcons, List.cons_append] at hread hrest
    rw [hread]
    simp only [hrest]
    by_cases hbang : last = '!' <;> simp [hbang]

/-- The links of a text are among its leftmost link forms. -/
theorem exists_leftmost (t : Text) : ∃ fs, Leftmost Spells 0 t fs ∧
    extract t = (fs.filter fun f => !isMarked t f && Url.isWeb f.value.target).map
      fun f => .link f.value.target := by
  obtain ⟨fs, hfs⟩ := Text.exists_found separable_spells 0 t
  refine ⟨fs, hfs.leftmost separable_spells, ?_⟩
  have hstart : ([] : Text).getLast? = some '!' ↔ '\n' = '!' := by simp
  rw [extract, targetsFrom_of_found hstart hfs, List.filter_map, List.map_map, List.filter_filter,
    List.nil_append]
  simp only [Function.comp_def, Bool.and_comm]

/-- The links of a text, told without a reader.  At most one link form begins at any place; exactly
one list of link forms one after the other leaves out only what begins inside one of them; and the
links are the targets in this list, in their order and as often as they are there, but for those
with an exclamation mark right before them and those that are no web addresses. -/
theorem leftmost_extract (t : Text) :
    (∀ f g, OccursIn Spells 0 t f → OccursIn Spells 0 t g → f.start = g.start → f = g) ∧
    ∃ fs, Leftmost Spells 0 t fs ∧ (∀ gs, Leftmost Spells 0 t gs → gs = fs) ∧
      extract t = (fs.filter fun f => !isMarked t f && Url.isWeb f.value.target).map
        fun f => .link f.value.target := by
  obtain ⟨fs, hfs, hextract⟩ := exists_leftmost t
  exact ⟨fun f g hf hg => hf.eq_of_start_eq separable_spells hg, fs, hfs,
    fun gs hgs => hgs.unique separable_spells hfs, hextract⟩

/-- A link in the label of another one begins inside it, and the last one here is marked. -/
theorem leftmost_extract_nested :
    let t := Text.ofString "[[a](http://x)](https://y)![d](http://z)"
    let inner : Occurrence Parts :=
      ⟨1, Text.ofString "[a](http://x)", ⟨['a'], Text.ofString "http://x"⟩⟩
    OccursIn Spells 0 t inner ∧ (∀ g, OccursIn Spells 0 t g → inner.start = g.start → inner = g) ∧
    (∃ fs, Leftmost Spells 0 t fs ∧ (∀ gs, Leftmost Spells 0 t gs → gs = fs) ∧
      extract t = (fs.filter fun f => !isMarked t f && Url.isWeb f.value.target).map
        fun f => .link f.value.target) ∧
    extract t = [.link (Text.ofString "https://y")] := by
  intro t inner
  have hinner : OccursIn Spells 0 t inner := by
    refine ⟨⟨rfl, .char (by decide) (by decide) .nil, ⟨['x'], by decide, .inl rfl⟩, by decide⟩,
      ['['], Text.ofString "](https://y)![d](http://z)", rfl, rfl⟩
  obtain ⟨hsame, hlinks⟩ := leftmost_extract t
  exact ⟨hinner, fun g => hsame inner g hinner, hlinks, by decide +kernel⟩

/-! ## Targets that are addresses -/

/-- A text that is one link has this link, unless it is marked.  If its target does not start as a
web address does, there is no link in it either, unless one begins in the target. -/
theorem targetsFrom_enclosed (hlabel : Unbracketed label)
    (hchars : ∀ c ∈ target, isBlank c = false ∧ c ≠ ')')
    (hopen : startsAsWeb target = false → '[' ∉ target) (last : Char) :
    targetsFrom 0 last (enclosed label target)
      = if last ≠ '!' ∧ startsAsWeb target = true then [target] else [] := by
  have hread := read?_enclosed (afterLabel?_plain hlabel)
    (fun c hc => isTargetChar_iff.2 (hchars c hc)) []
  rw [List.append_nil] at hread
  cases hstart : startsAsWeb target with
  | true =>
    rw [hstart, if_pos rfl] at hread
    rw [enclosed, targetsFrom_cons, ← enclosed, hread]
    by_cases hbang : last = '!' <;> simp [hbang, targetsFrom]
  | false =>
    rw [hstart, if_neg (by simp)] at hread
    have hinside : '[' ∉ label ++ ']' :: '(' :: (target ++ [')']) := by
      simp [hlabel.1, hopen hstart]
    have hskip := targetsFrom_skip hinside '[' []
    rw [List.append_nil] at hskip
    rw [enclosed, targetsFrom_cons, ← enclosed, hread]
    simp [hskip, targetsFrom]

theorem isPlain_of_startsAsWeb (h : startsAsWeb target = true) : IsPlain target := by
  obtain ⟨host, -, rfl | rfl⟩ := startsAsWeb_iff.1 h
  · exact .inl (List.prefix_append _ _)
  · exact .inr (List.prefix_append _ _)

/-- An address is found as the target of a link when it is written with its scheme in lower case and
two slashes behind it, and otherwise it is not. -/
theorem extract_alone (hlabel : Unbracketed label)
    (hchars : ∀ c ∈ target, isBlank c = false ∧ c ∉ ['(', ')', '[', ']'])
    (hweb : Url.isWeb target = true) :
    extract (enclosed label target) = if IsPlain target then [.link target] else [] := by
  have hbrackets : Unbracketed target :=
    ⟨fun h => (hchars _ h).2 (by decide), fun h => (hchars _ h).2 (by decide)⟩
  have hclose : ∀ c ∈ target, isBlank c = false ∧ c ≠ ')' := fun c hc =>
    (hchars c hc).imp_right fun hmarks heq => hmarks (by simp [heq])
  have hstart : startsAsWeb target = true ↔ IsPlain target :=
    ⟨isPlain_of_startsAsWeb, fun hplain => IsAddress.startsAsWeb ⟨hplain, hbrackets, hclose, hweb⟩⟩
  rw [extract, targetsFrom_enclosed hlabel hclose fun _ => hbrackets.1]
  by_cases hplain : IsPlain target <;> simp [hstart, hplain, hweb]

/-- A host behind credentials, and the same address with a capital letter in its scheme. -/
theorem extract_alone_capital :
    let plain := Text.ofString "http://me@a.b/c?d"
    let capital := Text.ofString "Http://me@a.b/c?d"
    (Unbracketed ['x'] ∧ (∀ c ∈ plain, isBlank c = false ∧ c ∉ ['(', ')', '[', ']']) ∧
      Url.isWeb plain = true ∧ extract (enclosed ['x'] plain) = [.link plain]) ∧
    (∀ c ∈ capital, isBlank c = false ∧ c ∉ ['(', ')', '[', ']']) ∧
      Url.isWeb capital = true ∧ extract (enclosed ['x'] capital) = [] := by
  intro plain capital
  have hlabel : Unbracketed ['x'] := by decide
  have hplain : ∀ c ∈ plain, isBlank c = false ∧ c ∉ ['(', ')', '[', ']'] := by decide
  have hcapital : ∀ c ∈ capital, isBlank c = false ∧ c ∉ ['(', ')', '[', ']'] := by decide
  have hplainWeb : Url.isWeb plain = true := by decide +kernel
  have hcapitalWeb : Url.isWeb capital = true := by decide +kernel
  refine ⟨⟨hlabel, hplain, hplainWeb, ?_⟩, hcapital, hcapitalWeb, ?_⟩
  · exact (extract_alone hlabel hplain hplainWeb).trans (if_pos (by decide))
  · exact (extract_alone hlabel hcapital hcapitalWeb).trans (if_neg (by decide))

/-- Addresses whose scheme has capitals, or no slashes behind it, are left out. -/
theorem address_left_out :
    Url.isWeb (Text.ofString "HTTP://a.b") = true ∧
    extract (Text.ofString "[x](HTTP://a.b)") = [] ∧
    Url.isWeb (Text.ofString "http:a.b") = true ∧
    extract (Text.ofString "[x](http:a.b)") = [] := by
  decide +kernel

end Link
end GuideBundles
