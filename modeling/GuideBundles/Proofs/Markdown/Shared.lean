/-
# `Proofs.Markdown.Shared` — targets of images that are found as links

The search for links knows an image only by the exclamation mark in front of its first bracket, so
an image and a link can share a target.  `Link.opensLabel_of_shared` says that this takes a bracket
in the alternative text, whose last one has no exclamation mark before it; this is read off the
places of a link form and an image form in the text.  For an image alone the search is followed
through the alternative text, and `Link.shared_only_of_opensLabel` says that such a bracket is all
it takes.
-/
import GuideBundles.Proofs.Markdown.ImageForm

namespace GuideBundles

open Text (isBlank size OccursIn Leftmost Found Occurrence)

namespace Image

/-- Where the target of an image begins. -/
def targetStart (m : Occurrence Parts) : Nat :=
  m.start + size ('!' :: '[' :: (m.value.alt ++ ']' :: '(' :: m.value.lead))

/-- An alternative text with a label behind its last bracket that opens, in front of which there is
no exclamation mark. -/
def OpensLabel (alt label : Text) : Prop :=
  ∃ front, alt = front ++ '[' :: label ∧ '[' ∉ label ∧ front.getLast? ≠ some '!'

theorem IsLead.getLast?_ne {lead target : Text} (h : IsLead lead target) :
    lead.getLast? ≠ some '(' := by
  cases h with
  | plain hgap _ =>
    intro hlast
    have hblank := hgap _ (List.mem_of_getLast? hlast)
    revert hblank
    decide
  | angle _ => simp

end Image

/-! ## Links in alternative texts -/

namespace Link

open Element
open Image (OpensLabel)

variable {t label : Text}

/-- Where the target of a link begins. -/
def targetStart (f : Occurrence Parts) : Nat :=
  f.start + size ('[' :: (f.value.label ++ [']', '(']))

/-- A bracket that opens in a label is closed in it. -/
theorem IsLabel.closes {front back : Text} (h : IsLabel (front ++ '[' :: back)) : ']' ∈ back := by
  generalize hlabel : front ++ '[' :: back = label at h
  induction h generalizing front with
  | nil => simp at hlabel
  | char hopen _ _ ih =>
    cases front with
    | nil => exact absurd (List.cons.inj hlabel).1.symm hopen
    | cons d front => exact ih (List.cons.inj hlabel).2
  | @group g t _ _ ih =>
    cases front with
    | nil =>
      rw [(List.cons.inj hlabel).2]
      simp
    | cons d front =>
      rcases List.append_eq_append_iff.1 (List.cons.inj hlabel).2 with ⟨u, -, hu⟩ | ⟨u, -, hu⟩
      · cases u with
        | nil => cases (List.cons.inj hu).1
        | cons e u =>
          rw [(List.cons.inj hu).2]
          simp
      · cases u with
        | nil => cases (List.cons.inj hu).1
        | cons e u => exact ih (List.cons.inj hu).2.symm

/-- What a link has in front of its label's end, compared with what an image has in front of the end
of its alternative text: the bracket of the link cannot be the one of the image, which is marked,
nor stand before it, as nothing closes the image's bracket inside the label. -/
theorem opensLabel_of_eq {front front' alt : Text} (hlabel : IsLabel label) (halt : ']' ∉ alt)
    (hlast : front.getLast? ≠ some '!')
    (h : front ++ '[' :: label = (front' ++ ['!', '[']) ++ alt) : OpensLabel alt label := by
  have hinside {u : Text} (hu : alt = u ++ '[' :: label) : '[' ∉ label := by
    intro hopen
    obtain ⟨v, w, rfl⟩ := List.append_of_mem hopen
    exact halt (by simp [hu, hlabel.closes])
  rcases List.append_eq_append_iff.1 h with ⟨u, hu, hrest⟩ | ⟨u, rfl, hrest⟩
  · -- The bracket of the link stands right behind that of the image, or not behind it at all.
    cases u with
    | nil => exact ⟨[], hrest.symm, hinside (u := []) hrest.symm, by simp⟩
    | cons d u =>
      obtain ⟨rfl, rfl⟩ := List.cons.inj hrest
      exfalso
      cases u using List.reverseRecOn with
      | nil =>
        have hbang : front' ++ ['!'] ++ ['['] = front ++ ['['] := by
          simpa using hu
        exact hlast (by simp [← List.append_cancel_right hbang])
      | append_singleton u e =>
        have hends := congrArg List.getLast? hu
        obtain rfl : '[' = e := by
          simpa [List.getLast?_append, List.getLast?_cons] using hends
        have hsplit : IsLabel (u ++ '[' :: alt) := by
          rw [List.append_cons]
          exact hlabel
        exact halt hsplit.closes
  · -- The bracket of the link is further back in the alternative text.
    refine ⟨u, hrest, hinside hrest, fun hbang => hlast ?_⟩
    rw [List.getLast?_append, hbang]
    rfl

/-- In front of a target that a link and an image share, the label of the link ends where the
alternative text does, and nothing else stands before the target. -/
theorem eq_of_shared {front front' back back' : Text} {p : Parts} {q : Image.Parts}
    (hlead : q.lead.getLast? ≠ some '(')
    (h : front ++ (enclosed p.label p.target ++ back) =
      front' ++
        ('!' :: '[' :: (q.alt ++ ']' :: '(' :: (q.lead ++ (q.target ++ q.tail))) ++ back'))
    (hsize : size (front ++ '[' :: (p.label ++ [']', '(']))
      = size (front' ++ '!' :: '[' :: (q.alt ++ ']' :: '(' :: q.lead))) :
    front ++ '[' :: p.label = (front' ++ ['!', '[']) ++ q.alt := by
  have htext : front ++ '[' :: (p.label ++ [']', '(']) ++ (p.target ++ ')' :: back) =
      front' ++ '!' :: '[' :: (q.alt ++ ']' :: '(' :: q.lead) ++
        (q.target ++ q.tail ++ back') := by
    simpa [enclosed] using h
  have hfront := (Text.eq_of_size_eq htext hsize).1
  have hnone : q.lead = [] := by
    refine List.getLast?_eq_none_iff.1 (Option.eq_none_iff_forall_ne_some.2 fun c hc => hlead ?_)
    have hends := congrArg List.getLast? hfront
    have hparen : '(' = c := by
      simpa [List.getLast?_append, List.getLast?_cons, hc] using hends
    rw [hc, hparen]
  rw [hnone] at hfront
  have hlonger : (front ++ '[' :: p.label) ++ [']', '(']
      = ((front' ++ ['!', '[']) ++ q.alt) ++ [']', '('] := by
    simpa using hfront
  exact List.append_cancel_right hlonger

/-- A link that is not marked shares its target with an image only if the alternative text opens its
label. -/
theorem opensLabel_of_shared {f : Occurrence Parts} {m : Occurrence Image.Parts}
    (hf : OccursIn Spells 0 t f) (hm : OccursIn Image.Spells 0 t m)
    (hmark : isMarked t f = false) (hshared : targetStart f = Image.targetStart m) :
    OpensLabel m.value.alt f.value.label := by
  obtain ⟨⟨hs, hlabel, -⟩, front, back, ht, hstart⟩ := hf
  obtain ⟨hform, front', back', ht', hstart'⟩ := hm
  have hlast : front.getLast? ≠ some '!' := by
    intro hlast
    rw [isMarked, hstart, Nat.zero_add, ht, charBefore?_append, hlast] at hmark
    cases hmark
  rw [hs] at ht
  rw [hform.spelled] at ht'
  refine opensLabel_of_eq hlabel hform.alt hlast
    (eq_of_shared hform.lead.getLast?_ne (ht.symm.trans ht') ?_)
  rw [targetStart, Image.targetStart] at hshared
  rw [Text.size_append, Text.size_append]
  omega

/-! ## An image alone -/

variable {alt front target rest x : Text}

/-- In a text with one closing bracket at its end, the first bracket that opens makes it the end of
a group. -/
theorem afterLabel?_open (hclose : ']' ∉ alt) (hopen : '[' ∈ alt) (rest : Text) :
    afterLabel? false (alt ++ ']' :: rest) = afterLabel? false rest := by
  obtain ⟨u, g, rfl, hu⟩ := List.eq_append_cons_of_mem hopen
  simp only [List.mem_append, List.mem_cons, not_or] at hclose
  obtain ⟨hclose, -, hg⟩ := hclose
  rw [List.append_assoc, afterLabel?_append ⟨hu, hclose⟩, List.cons_append, afterLabel?_brackets hg]

theorem afterLabel?_eq_none (h : ']' ∉ t) : afterLabel? false t = none := by
  refine Option.eq_none_iff_forall_ne_some.2 fun u hu => h ?_
  obtain ⟨label, -, rfl⟩ := (isLabel_of_afterLabel? t u).1 hu
  simp

/-- What is read up to a parenthesis ends with the text, if there is no other one. -/
theorem rest_eq_nil (hclose : ')' ∉ target)
    (h : (afterLabel? false ('(' :: (target ++ [')']))).bind target? = some (x, rest)) :
    rest = [] := by
  obtain ⟨v, hv, htarget⟩ := Option.bind_eq_some_iff.1 h
  obtain ⟨rfl, -⟩ := target?_ok htarget
  obtain ⟨w, hw⟩ := suffix_of_afterLabel? hv
  cases rest using List.reverseRecOn with
  | nil => rfl
  | append_singleton rest e =>
    have hsplit : (w ++ '(' :: (x ++ ')' :: rest)) ++ [e] = ('(' :: target) ++ [')'] := by
      simpa using hw
    have hmem : ')' ∈ '(' :: target := by
      rw [← (List.append_inj' hsplit rfl).1]
      simp
    simp [hclose] at hmem

/-- Where nothing can be read from behind the image's label on, the search comes to the last bracket
that opens in the alternative text. -/
theorem targetsFrom_pass (hfront : ']' ∉ front) (hlabel : ']' ∉ label)
    (hnone : (afterLabel? false rest).bind target? = none) (last : Char) :
    targetsFrom 0 last (front ++ '[' :: (label ++ ']' :: rest))
      = targetsFrom 0 (front.getLast?.getD last) ('[' :: (label ++ ']' :: rest)) := by
  induction front generalizing last with
  | nil => rfl
  | cons c front ih =>
    rw [List.mem_cons, not_or] at hfront
    have hread : read? (c :: (front ++ '[' :: (label ++ ']' :: rest))) = none := by
      by_cases hc : c = '['
      · subst hc
        have hclose : ']' ∉ front ++ '[' :: label := by simp [hfront.2, hlabel]
        have hopen := afterLabel?_open hclose (by simp) rest
        rw [List.append_assoc, List.cons_append] at hopen
        rw [read?, hopen, hnone]
      · simp [read?, hc]
    rw [List.cons_append, targetsFrom_cons, hread]
    refine (ih hfront.2 c).trans ?_
    rw [List.getLast?_cons]
    cases front.getLast? <;> rfl

/-- If a bracket opens in the alternative text of an image, all of it is read as a marked link, or
the search comes to the last such bracket. -/
theorem targetsFrom_open (hfront : ']' ∉ front) (hlabel : ']' ∉ label) (htarget : ')' ∉ target) :
    let inner := targetsFrom 0 (('[' :: front).getLast?.getD '!') (enclosed label target)
    (targetsFrom 0 '!' (enclosed (front ++ '[' :: label) target) = [] ∨
      targetsFrom 0 '!' (enclosed (front ++ '[' :: label) target) = inner) ∧
    (']' ∉ target → targetsFrom 0 '!' (enclosed (front ++ '[' :: label) target) = inner) := by
  intro inner
  have hspelled : enclosed (front ++ '[' :: label) target
      = ('[' :: front) ++ '[' :: (label ++ ']' :: ('(' :: (target ++ [')']))) := by
    simp [enclosed]
  have hpass (hnone : (afterLabel? false ('(' :: (target ++ [')']))).bind target? = none) :
      targetsFrom 0 '!' (enclosed (front ++ '[' :: label) target) = inner := by
    rw [hspelled]
    exact targetsFrom_pass (by simp [hfront]) hlabel hnone '!'
  refine ⟨?_, fun hclose => hpass ?_⟩
  · cases hread : (afterLabel? false ('(' :: (target ++ [')']))).bind target? with
    | none => exact .inr (hpass hread)
    | some found =>
      obtain ⟨x, rest⟩ := found
      obtain rfl := rest_eq_nil htarget hread
      have hclose : ']' ∉ front ++ '[' :: label := by simp [hfront, hlabel]
      have hmatch : read? (enclosed (front ++ '[' :: label) target) = some (x, []) := by
        rw [enclosed, read?, afterLabel?_open hclose (by simp), hread]
      left
      rw [enclosed, targetsFrom_cons, ← enclosed, hmatch]
      rfl
  · have hnone : ']' ∉ '(' :: (target ++ [')']) := by simp [hclose]
    rw [afterLabel?_eq_none hnone]
    rfl

/-- A text with a bracket in it that opens has a last one. -/
theorem exists_last_open (h : '[' ∈ alt) :
    ∃ front label, alt = front ++ '[' :: label ∧ '[' ∉ label := by
  obtain ⟨label, front, hreverse, hlabel⟩ := List.eq_append_cons_of_mem (List.mem_reverse.2 h)
  refine ⟨front.reverse, label.reverse, ?_, by simpa using hlabel⟩
  have halt := congrArg List.reverse hreverse
  simpa using halt

theorem bracket_not_mem_of_plain (hplain : IsPlain target) (h : startsAsWeb target = false) :
    '[' ∉ target := by
  have hhost {host : Text} (hall : target = "http://".toList ++ host ∨
      target = "https://".toList ++ host) : host = [] := by
    by_contra hne
    rw [startsAsWeb_iff.2 ⟨host, hne, hall⟩] at h
    cases h
  rcases hplain with ⟨host, rfl⟩ | ⟨host, rfl⟩
  · rw [hhost (.inl rfl)]
    decide
  · rw [hhost (.inr rfl)]
    decide

/-- The search for links reads over an image, unless its alternative text opens a label. -/
theorem targetsFrom_image (halt : ']' ∉ alt) (hopen : startsAsWeb target = false → '[' ∉ target)
    (hchars : ∀ c ∈ target, isBlank c = false ∧ c ≠ ')') (hnone : ∀ label, ¬OpensLabel alt label) :
    targetsFrom 0 '!' (enclosed alt target) = [] := by
  have hmarked {label : Text} (hlabel : Unbracketed label) :
      targetsFrom 0 '!' (enclosed label target) = [] :=
    (targetsFrom_enclosed hlabel hchars hopen '!').trans (if_neg fun h => h.1 rfl)
  by_cases hlast : '[' ∈ alt
  · obtain ⟨front, label, rfl, hlabel⟩ := exists_last_open hlast
    simp only [List.mem_append, List.mem_cons, not_or] at halt
    have hbang : front.getLast? = some '!' := by
      by_contra hbefore
      exact hnone label ⟨front, rfl, hlabel, hbefore⟩
    have hclose : ')' ∉ target := fun hmem => (hchars _ hmem).2 rfl
    rcases (targetsFrom_open halt.1 halt.2.2 hclose).1 with hall | hinner
    · exact hall
    · rw [hinner, List.getLast?_cons, hbang]
      exact hmarked ⟨hlabel, halt.2.2⟩
  · exact hmarked ⟨hlast, halt⟩

/-- The search for links finds the target of an image whose alternative text opens a label. -/
theorem targetsFrom_opensLabel (halt : ']' ∉ alt) (hopens : OpensLabel alt label)
    (htarget : IsAddress target) : targetsFrom 0 '!' (enclosed alt target) = [target] := by
  obtain ⟨front, rfl, hlabel, hlast⟩ := hopens
  simp only [List.mem_append, List.mem_cons, not_or] at halt
  have hclose : ')' ∉ target := fun hmem => (htarget.2.2.1 _ hmem).2 rfl
  rw [(targetsFrom_open halt.1 halt.2.2 hclose).2 htarget.2.1.2,
    targetsFrom_enclosed ⟨hlabel, halt.2.2⟩ htarget.2.2.1 fun _ => htarget.2.1.1, if_pos]
  refine ⟨?_, htarget.startsAsWeb⟩
  rw [List.getLast?_cons]
  cases hend : front.getLast? with
  | none => simp
  | some c =>
    rintro rfl
    exact hlast hend

/-! ## What is both -/

/-- A link and an image share a target only if the alternative text of the image opens the label of
the link.  The search for links finds nothing in an image alone whose alternative text opens none
and whose target is written as a web address or has no bracket that opens; and in one whose
alternative text opens a label it finds the target, if this is an address. -/
theorem shared_only_of_opensLabel (t alt target : Text) :
    (∃ fs ms, Leftmost Spells 0 t fs ∧ Leftmost Image.Spells 0 t ms ∧
      extract t = ((fs.filter fun f => !isMarked t f && Url.isWeb f.value.target).map
        fun f => .link f.value.target) ∧
      Image.extract t = ms.map (fun m => m.value.image) ∧
      ∀ f ∈ fs, ∀ m ∈ ms, isMarked t f = false → targetStart f = Image.targetStart m →
        OpensLabel m.value.alt f.value.label) ∧
    (']' ∉ alt → IsPlain target ∨ '[' ∉ target → (∀ c ∈ target, isBlank c = false ∧ c ≠ ')') →
      (∀ label, ¬OpensLabel alt label) → extract ('!' :: enclosed alt target) = []) ∧
    (']' ∉ alt → IsAddress target → ∀ label, OpensLabel alt label →
      extract ('!' :: enclosed alt target) = [.link target]) := by
  have hbehind : extract ('!' :: enclosed alt target)
      = ((targetsFrom 0 '!' (enclosed alt target)).filter Url.isWeb).map .link := by
    rw [extract, targetsFrom_cons]
    rfl
  refine ⟨?_, fun halt hform hchars hnone => ?_, fun halt htarget label hopens => ?_⟩
  · obtain ⟨fs, hfs, hlinks⟩ := exists_leftmost t
    obtain ⟨ms, hms, himages⟩ := Image.exists_leftmost t
    exact ⟨fs, ms, hfs, hms, hlinks, himages, fun f hf m hm hmark hshared =>
      opensLabel_of_shared (hfs.occurs f hf) (hms.occurs m hm) hmark hshared⟩
  · have hopen (hstart : startsAsWeb target = false) : '[' ∉ target :=
      hform.elim (bracket_not_mem_of_plain · hstart) id
    rw [hbehind, targetsFrom_image halt hopen hchars hnone]
    rfl
  · rw [hbehind, targetsFrom_opensLabel halt hopens htarget]
    simp [htarget.2.2.2]

/-- An alternative text that opens a label, and one that opens none, as there is an exclamation mark
before its bracket. -/
theorem shared_only_of_opensLabel_both :
    let t := Text.ofString "![a[b](http://x.y)"
    let target := Text.ofString "http://x.y"
    let f : Occurrence Parts := ⟨3, Text.ofString "[b](http://x.y)", ⟨['b'], target⟩⟩
    let m : Occurrence Image.Parts := ⟨0, t, ⟨Text.ofString "a[b", [], target, [')']⟩⟩
    (Leftmost Spells 0 t [f] ∧ Leftmost Image.Spells 0 t [m] ∧ isMarked t f = false ∧
      targetStart f = Image.targetStart m ∧ OpensLabel m.value.alt f.value.label ∧
      extract t = [.link target]) ∧
    extract (Text.ofString "![a![b](http://x.y)") = [] := by
  intro t target f m
  obtain ⟨hshared, -, hopens⟩ := shared_only_of_opensLabel t m.value.alt target
  have hlinkForm : Spells f.spelling f.value :=
    ⟨rfl, .char (by decide) (by decide) .nil, ⟨Text.ofString "x.y", by decide, .inl rfl⟩, by decide⟩
  have hend : Image.IsEnd ([] ++ [')']) := .plain (by decide)
  have himageForm : Image.Spells m.spelling m.value :=
    ⟨rfl, by decide, .plain (by decide) (by decide), by decide, by decide, .plain hend⟩
  have hfoundLink : Found Spells 0 t [f] :=
    .pass (reads_spells.eq_none_iff.1 rfl) <| .pass (reads_spells.eq_none_iff.1 rfl) <|
      .pass (reads_spells.eq_none_iff.1 rfl) <| .take hlinkForm (.nil _)
  have hfoundImage : Found Image.Spells 0 t [m] := .take himageForm (.nil _)
  have hlink := hfoundLink.leftmost separable_spells
  have himage := hfoundImage.leftmost Image.separable_spells
  obtain ⟨fs, ms, hfs, hms, -, -, hall⟩ := hshared
  obtain rfl := hfs.unique separable_spells hlink
  obtain rfl := hms.unique Image.separable_spells himage
  have hlabel : OpensLabel m.value.alt f.value.label :=
    hall f List.mem_cons_self m List.mem_cons_self rfl rfl
  refine ⟨⟨hlink, himage, rfl, rfl, hlabel, ?_⟩, ?_⟩
  · exact hopens (by decide) (by decide +kernel) _ hlabel
  · obtain ⟨-, hnone, -⟩ := shared_only_of_opensLabel [] (Text.ofString "a![b") target
    refine hnone (by decide) (.inl (by decide)) (by decide) ?_
    rintro label ⟨front, halt, -, hlast⟩
    have hsplit : ['a', '!'] ++ '[' :: ['b'] = front ++ '[' :: label := halt
    obtain ⟨rfl, -⟩ := (List.append_cons_inj_of_notMem (by decide) (by decide)).1 hsplit
    exact hlast rfl

/-- The target of an image is found as the target of a link, too. -/
theorem image_target_as_link :
    let t := Text.ofString "![a[b](http://x.y)"
    let target := Text.ofString "http://x.y"
    Image.extract t = [.image target (Text.ofString "a[b")] ∧ extract t = [.link target] := by
  decide +kernel

end Link
end GuideBundles
