/-
# `Proofs.Markdown.ImageForm` — images by their form

Images have a form of their own: an alternative text that has no closing bracket, a target that may
stand in angle brackets, and a title that may be left out.  `Image.reads_spells` says that the
reader takes exactly what has this form, and `Image.exists_leftmost` that the images of a text are
its leftmost image forms.
-/
import GuideBundles.Proofs.Markdown.LinkForm

namespace GuideBundles

open Text (isBlank size OccursIn Leftmost Found Separable Reads Occurrence trimStart)

namespace Image

open Element

variable {s t u rest : Text}

/-! ## The form of an image -/

/-- Whether a text has blanks only. -/
def IsGap (t : Text) : Prop := ∀ c ∈ t, isBlank c = true

instance (t : Text) : Decidable (IsGap t) := List.decidableBAll _ t

/-- The parts of an image: the lead goes up to its target, and the tail is all behind it. -/
structure Parts where
  alt : Text
  lead : Text
  target : Text
  tail : Text
deriving DecidableEq

/-- The image that is read. -/
def Parts.image (p : Parts) : Reference := .image p.target p.alt

/-- In front of a target there may be blanks, and an angle bracket, which is part of the target only
if the target is nothing else. -/
inductive IsLead : Text → Text → Prop
  | plain {gap target : Text} : IsGap gap → (target.head? = some '<' → target = ['<']) →
      IsLead gap target
  | angle {gap target : Text} : IsGap gap → IsLead (gap ++ ['<']) target

/-- The end of an image: a closing parenthesis, before it a title in quotation marks behind a blank,
and blanks around it. -/
inductive IsEnd : Text → Prop
  | plain {gap : Text} : IsGap gap → IsEnd (gap ++ [')'])
  | titled {gap title gap' : Text} : IsGap gap → gap ≠ [] → '"' ∉ title → IsGap gap' →
      IsEnd (gap ++ '"' :: (title ++ '"' :: (gap' ++ [')'])))

/-- Behind a target an angle bracket may close. -/
inductive IsTail : Text → Prop
  | plain {e : Text} : IsEnd e → IsTail e
  | angle {e : Text} : IsEnd e → IsTail ('>' :: e)

/-- An image form: `![alt](target)`, with what may stand around the target. -/
structure Spells (s : Text) (p : Parts) : Prop where
  spelled : s = '!' :: '[' :: (p.alt ++ ']' :: '(' :: (p.lead ++ (p.target ++ p.tail)))
  alt : ']' ∉ p.alt
  lead : IsLead p.lead p.target
  ne_nil : p.target ≠ []
  target : ∀ c ∈ p.target, isTargetChar c = true
  tail : IsTail p.tail

/-! ## What the reader takes -/

theorem trimStart_gap {gap : Text} (h : IsGap gap) (t : Text) :
    trimStart (gap ++ t) = trimStart t :=
  List.dropWhile_append_of_pos h

theorem trimStart_of_ink {c : Char} (h : isBlank c = false) (t : Text) :
    trimStart (c :: t) = c :: t :=
  List.dropWhile_cons_of_neg (by simp [h])

/-- Blanks in front of a text, and the text. -/
theorem exists_gap (t : Text) : ∃ gap, IsGap gap ∧ t = gap ++ trimStart t :=
  ⟨t.takeWhile isBlank, fun _ hc => List.mem_takeWhile_imp hc, List.takeWhile_append_dropWhile.symm⟩

theorem forall_bne_iff {c : Char} : (∀ d ∈ s, (d != c) = true) ↔ c ∉ s :=
  ⟨fun h hc => by simpa using h c hc, fun h d hd => bne_iff_ne.2 fun heq => h (heq ▸ hd)⟩

theorem takeWhile_ne {c : Char} (h : c ∉ s) (t : Text) : (s ++ c :: t).takeWhile (· != c) = s := by
  rw [List.takeWhile_append_of_pos (forall_bne_iff.2 h), List.takeWhile_cons_of_neg (by simp),
    List.append_nil]

theorem dropWhile_ne {c : Char} (h : c ∉ s) (t : Text) :
    (s ++ c :: t).dropWhile (· != c) = c :: t := by
  rw [List.dropWhile_append_of_pos (forall_bne_iff.2 h), List.dropWhile_cons_of_neg (by simp)]

/-- A text up to a character and from it on. -/
theorem exists_of_dropWhile_ne {c d : Char} (h : t.dropWhile (· != c) = d :: u) :
    d = c ∧ c ∉ t.takeWhile (· != c) ∧ t = t.takeWhile (· != c) ++ c :: u := by
  obtain rfl := eq_of_dropWhile_ne h
  refine ⟨rfl, fun hmem => ?_, ?_⟩
  · simpa using List.mem_takeWhile_imp hmem
  · conv => lhs; rw [← List.takeWhile_append_dropWhile (p := (· != d)) (l := t), h]

theorem afterTitle?_of_isEnd (h : IsEnd s) (rest : Text) : afterTitle? (s ++ rest) = some rest := by
  have hclose (gap : Text) (hgap : IsGap gap) : trimStart (gap ++ ')' :: rest) = ')' :: rest := by
    rw [trimStart_gap hgap, trimStart_of_ink (by decide)]
  cases h with
  | @plain gap hgap =>
    rw [List.append_assoc, afterTitle?, List.singleton_append, hclose gap hgap]
    rfl
  | @titled gap title gap' hgap hne htitle hgap' =>
    obtain ⟨c, gap, rfl⟩ := List.exists_cons_of_ne_nil hne
    have hblank : isBlank c = true := hgap c List.mem_cons_self
    have hspelled : (c :: gap) ++ '"' :: (title ++ '"' :: (gap' ++ [')'])) ++ rest
        = (c :: gap) ++ '"' :: (title ++ '"' :: (gap' ++ ')' :: rest)) := by
      simp
    rw [hspelled, afterTitle?, trimStart_gap hgap, trimStart_of_ink (by decide)]
    simp only [List.cons_append, List.head?_cons, Option.any_some, hblank, if_true,
      dropWhile_ne htitle, hclose gap' hgap']

theorem isEnd_of_afterTitle? (h : afterTitle? t = some rest) : ∃ s, IsEnd s ∧ t = s ++ rest := by
  obtain ⟨gap, hgap, ht⟩ := exists_gap t
  unfold afterTitle? at h
  split at h
  · next r hr =>
    obtain rfl := Option.some.inj h
    exact ⟨gap ++ [')'], .plain hgap, by rw [ht, hr]; simp⟩
  · next title htitle =>
    split at h
    · next hhead =>
      split at h
      · next quote after hafter =>
        obtain ⟨rfl, hquote, hcut⟩ := exists_of_dropWhile_ne hafter
        obtain ⟨gap', hgap', hafter'⟩ := exists_gap after
        split at h
        · next r hr =>
          obtain rfl := Option.some.inj h
          have hne : gap ≠ [] := by
            rintro rfl
            rw [ht, htitle] at hhead
            cases hhead
          refine ⟨_, .titled hgap hne hquote hgap', ?_⟩
          rw [hr] at hafter'
          conv => lhs; rw [ht, htitle, hcut, hafter']
          simp
        · cases h
      · cases h
    · cases h
  · cases h

theorem IsEnd.head (h : IsEnd s) : ∃ c t, s = c :: t ∧ (isBlank c = true ∨ c = ')') := by
  cases h with
  | @plain gap hgap =>
    cases gap with
    | nil => exact ⟨')', [], rfl, .inr rfl⟩
    | cons c gap => exact ⟨c, _, rfl, .inl (hgap c List.mem_cons_self)⟩
  | @titled gap title gap' hgap hne htitle hgap' =>
    obtain ⟨c, gap, rfl⟩ := List.exists_cons_of_ne_nil hne
    exact ⟨c, _, rfl, .inl (hgap c List.mem_cons_self)⟩

/-- A target ends where its tail begins. -/
theorem IsTail.head (h : IsTail s) : ∃ c t, s = c :: t ∧ isTargetChar c = false := by
  cases h with
  | plain he =>
    obtain ⟨c, t, rfl, hc⟩ := he.head
    refine ⟨c, t, rfl, ?_⟩
    rcases hc with hblank | rfl
    · simp [isTargetChar, hblank]
    · rfl
  | angle _ => exact ⟨'>', _, rfl, rfl⟩

/-- What follows a target is read as its tail. -/
theorem afterTitle?_of_isTail (h : IsTail s) (rest : Text) : afterTitle? (match s ++ rest with
    | '>' :: v => v
    | v => v) = some rest := by
  cases h with
  | angle he => exact afterTitle?_of_isEnd he rest
  | plain he =>
    have hend := afterTitle?_of_isEnd he rest
    obtain ⟨c, t, rfl, hc⟩ := he.head
    have hangle : c ≠ '>' := by
      rintro rfl
      revert hc
      decide
    rw [← hend, List.cons_append]
    congr 1
    split
    · next v hv => exact absurd (List.cons.inj hv).1 hangle
    · rfl

/-- Lead, target and tail are found again. -/
theorem inner_of_isLead {lead target tail : Text} (hlead : IsLead lead target) (hne : target ≠ [])
    (htarget : ∀ c ∈ target, isTargetChar c = true) (htail : IsTail tail) (rest : Text) :
    let inner := trimStart (lead ++ (target ++ (tail ++ rest)))
    dropAngle (inner.takeWhile isTargetChar) = target ∧
      inner.dropWhile isTargetChar = tail ++ rest := by
  obtain ⟨d, tail, rfl, hstop⟩ := htail.head
  have hcut {w : Text} (hw : ∀ c ∈ w, isTargetChar c = true) :
      (w ++ (d :: tail ++ rest)).takeWhile isTargetChar = w ∧
      (w ++ (d :: tail ++ rest)).dropWhile isTargetChar = d :: tail ++ rest := by
    rw [List.takeWhile_append_of_pos hw, List.dropWhile_append_of_pos hw, List.cons_append,
      List.takeWhile_cons_of_neg (by simp [hstop]), List.dropWhile_cons_of_neg (by simp [hstop]),
      List.append_nil]
    exact ⟨rfl, rfl⟩
  obtain ⟨c, v, rfl⟩ := List.exists_cons_of_ne_nil hne
  have hink : isBlank c = false := by
    have hc := htarget c List.mem_cons_self
    simp only [isTargetChar, Bool.and_eq_true, Bool.not_eq_true'] at hc
    exact hc.1.1
  cases hlead with
  | plain hgap halone =>
    rw [trimStart_gap hgap, List.cons_append, trimStart_of_ink hink, ← List.cons_append]
    simp only [hcut htarget, and_true]
    unfold dropAngle
    split
    · next d u heq =>
      rw [heq] at halone
      cases halone rfl
    · rfl
  | @angle gap _ hgap =>
    rw [List.append_assoc, trimStart_gap hgap, List.singleton_append,
      trimStart_of_ink (by decide), ← List.cons_append]
    have hangle : ∀ e ∈ '<' :: c :: v, isTargetChar e = true := by
      intro e he
      rcases List.mem_cons.1 he with rfl | he
      · rfl
      · exact htarget e he
    simp only [hcut hangle, and_true]
    rfl

theorem read?_of_spells {p : Parts} (h : Spells s p) (rest : Text) :
    read? (s ++ rest) = some (p.image, rest) := by
  obtain ⟨halt, hrest⟩ := inner_of_isLead h.lead h.ne_nil h.target h.tail rest
  have hspelled : s ++ rest
      = '!' :: '[' :: (p.alt ++ ']' :: '(' :: (p.lead ++ (p.target ++ (p.tail ++ rest)))) := by
    rw [h.spelled]
    simp
  rw [hspelled, read?]
  simp only [takeWhile_ne h.alt, dropWhile_ne h.alt, halt, hrest, if_neg h.ne_nil]
  exact congrArg (Option.map _) (afterTitle?_of_isTail h.tail rest)

theorem exists_isTail (h : afterTitle? (match t with
    | '>' :: v => v
    | v => v) = some rest) : ∃ s, IsTail s ∧ t = s ++ rest := by
  split at h
  · obtain ⟨e, he, rfl⟩ := isEnd_of_afterTitle? h
    exact ⟨'>' :: e, .angle he, rfl⟩
  · obtain ⟨e, he, rfl⟩ := isEnd_of_afterTitle? h
    exact ⟨e, .plain he, rfl⟩

theorem exists_isLead (t : Text) : ∃ lead,
    IsLead lead (dropAngle ((trimStart t).takeWhile isTargetChar)) ∧
      t = lead ++ (dropAngle ((trimStart t).takeWhile isTargetChar)
        ++ (trimStart t).dropWhile isTargetChar) := by
  obtain ⟨gap, hgap, ht⟩ := exists_gap t
  have hinner := List.takeWhile_append_dropWhile (p := isTargetChar) (l := trimStart t)
  generalize hw : (trimStart t).takeWhile isTargetChar = w at hinner
  unfold dropAngle
  split
  · next c v =>
    refine ⟨gap ++ ['<'], .angle hgap, ?_⟩
    conv => lhs; rw [ht, ← hinner]
    simp
  · next hplain =>
    refine ⟨gap, .plain hgap ?_, ?_⟩
    · intro hhead
      obtain ⟨v, rfl⟩ := List.head?_eq_some_iff.1 hhead
      cases v with
      | nil => rfl
      | cons c v => exact absurd rfl (hplain c v)
    · conv => lhs; rw [ht, ← hinner]

/-- The reader takes image forms and nothing else. -/
theorem reads_spells : Reads read? Spells Parts.image := by
  intro t r rest
  constructor
  · intro h
    unfold read? at h
    split at h
    · next t =>
      simp only at h
      split at h
      · next bracket u hu =>
        split at h
        · cases h
        · next hne =>
          obtain ⟨v, hafter, hr⟩ := Option.map_eq_some_iff.1 h
          obtain ⟨rfl, rfl⟩ := Prod.mk.inj hr
          obtain ⟨rfl, halt, hcut⟩ := exists_of_dropWhile_ne hu
          obtain ⟨lead, hlead, hinner⟩ := exists_isLead u
          obtain ⟨tail, htail, htailEq⟩ := exists_isTail hafter
          refine ⟨_, ⟨t.takeWhile (· != ']'), lead,
            dropAngle ((trimStart u).takeWhile isTargetChar), tail⟩,
            ⟨rfl, halt, hlead, hne, fun c hc => ?_, htail⟩, rfl, ?_⟩
          · exact List.mem_takeWhile_imp (dropAngle_subset _ hc)
          · rw [htailEq] at hinner
            conv => lhs; rw [hcut, hinner]
            simp
      · cases h
    · cases h
  · rintro ⟨s, p, hs, rfl, rfl⟩
    exact read?_of_spells hs rest

/-- At most one image form begins at any place: its tail is behind the first run of characters that
can be part of a target, so its lead is what is left in front. -/
theorem separable_spells : Separable Spells := by
  refine reads_spells.separable (fun hs => ?_) (fun {s p p'} hs hs' himage => ?_)
  · rw [hs.spelled]
    exact List.cons_ne_nil _ _
  · obtain ⟨htarget, halt⟩ := Reference.image.inj himage
    have hspelled := hs.spelled.symm.trans hs'.spelled
    rw [halt, htarget] at hspelled
    have hinner : p.lead ++ (p'.target ++ p.tail) = p'.lead ++ (p'.target ++ p'.tail) := by
      simpa using hspelled
    have htail := (inner_of_isLead hs.lead hs.ne_nil hs.target hs.tail []).2
    have htail' := (inner_of_isLead hs'.lead hs'.ne_nil hs'.target hs'.tail []).2
    simp only [List.append_nil, htarget] at htail htail'
    rw [hinner, htail'] at htail
    rw [htail] at hinner
    have hlead := List.append_cancel_right hinner
    cases p
    cases p'
    simp_all

/-- The search takes the image forms one after the other. -/
theorem listFrom_of_found {offset : Nat} {ms : List (Occurrence Parts)}
    (h : Found Spells offset t ms) :
    listFrom 0 t = ms.map fun m => m.value.image := by
  induction h with
  | nil => rfl
  | pass hnone _ ih => rw [listFrom_cons, reads_spells.eq_none_iff.2 hnone, ih]
  | @take offset s t p ms hs _ ih =>
    have hread := read?_of_spells hs t
    obtain ⟨c, u, hcons⟩ := List.exists_cons_of_ne_nil (separable_spells.ne_nil hs)
    rw [hcons, List.cons_append] at hread ⊢
    rw [listFrom_cons, hread, List.map_cons, ← ih]

/-- The images of a text are its leftmost image forms. -/
theorem exists_leftmost (t : Text) : ∃ ms, Leftmost Spells 0 t ms ∧
    extract t = ms.map fun m => m.value.image := by
  obtain ⟨ms, hms⟩ := Text.exists_found separable_spells 0 t
  exact ⟨ms, hms.leftmost separable_spells, listFrom_of_found hms⟩

end Image
end GuideBundles
