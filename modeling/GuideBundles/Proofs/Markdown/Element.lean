/-
# `Proofs.Markdown.Element` — links and images that touch each other

A text that is put together from plain text, links, images and linked badges is read back element by
element, whatever stands next to what.  The search for links reads over an image as a whole or finds
no bracket in it; the search for images finds no exclamation mark in front of a bracket but at an
image.
-/
import GuideBundles.Proofs.Markdown.Reference

namespace GuideBundles

open Text (isBlank)

/-! ## Elements -/

/-- A piece of a text: plain text, a link, an image, or an image as the label of a link. -/
inductive Element where
  | text (t : Text)
  | link (label target : Text)
  | image (alt source : Text)
  | badge (alt source target : Text)
deriving DecidableEq

namespace Element

/-- A label in brackets and a target in parentheses. -/
def enclosed (label target : Text) : Text := '[' :: (label ++ ']' :: '(' :: (target ++ [')']))

/-- How an element is written. -/
def spelling : Element → Text
  | text t => t
  | link label target => enclosed label target
  | image alt source => '!' :: enclosed alt source
  | badge alt source target => enclosed ('!' :: enclosed alt source) target

/-- The target of the link that an element is. -/
def links : Element → List Text
  | link _ target => [target]
  | badge _ _ target => [target]
  | _ => []

/-- The source and the alternative text of the image in an element. -/
def images : Element → List (Text × Text)
  | image alt source => [(source, alt)]
  | badge alt source _ => [(source, alt)]
  | _ => []

/-- Whether a text has no brackets. -/
def Unbracketed (t : Text) : Prop := '[' ∉ t ∧ ']' ∉ t

/-- Whether a text is a web address that can stand in parentheses. -/
def IsAddress (t : Text) : Prop :=
  ("http://".toList <+: t ∨ "https://".toList <+: t) ∧ Unbracketed t ∧
    (∀ c ∈ t, isBlank c = false ∧ c ≠ ')') ∧ Url.isWeb t = true

/-- Whether a text names an image without need for quotation. -/
def IsSource (t : Text) : Prop :=
  t ≠ [] ∧ Unbracketed t ∧ ∀ c ∈ t, isBlank c = false ∧ c ∉ ['(', ')', '<', '>']

/-- Whether an element is written in a way that can be told from its neighbours. -/
def Fits : Element → Prop
  | text t => Unbracketed t ∧ '!' ∉ t
  | link label target => Unbracketed label ∧ IsAddress target
  | image alt source => Unbracketed alt ∧ IsSource source
  | badge alt source target => Unbracketed alt ∧ IsSource source ∧ IsAddress target

instance (t : Text) : Decidable (Unbracketed t) := inferInstanceAs (Decidable (_ ∧ _))

-- The characters of the text are looked at, and not all characters there are.
instance (t : Text) : Decidable (IsAddress t) :=
  let _ : Decidable (∀ c ∈ t, isBlank c = false ∧ c ≠ ')') := List.decidableBAll _ t
  inferInstanceAs (Decidable (_ ∧ _ ∧ _ ∧ _))

instance (t : Text) : Decidable (IsSource t) :=
  let _ : Decidable (∀ c ∈ t, isBlank c = false ∧ c ∉ ['(', ')', '<', '>']) :=
    List.decidableBAll _ t
  inferInstanceAs (Decidable (_ ∧ _ ∧ _))

instance : DecidablePred Fits
  | text _ => inferInstanceAs (Decidable (_ ∧ _))
  | link _ _ => inferInstanceAs (Decidable (_ ∧ _))
  | image _ _ => inferInstanceAs (Decidable (_ ∧ _))
  | badge _ _ _ => inferInstanceAs (Decidable (_ ∧ _ ∧ _))

variable {t u label alt source target rest : Text}

theorem Unbracketed.append (ht : Unbracketed t) (hu : Unbracketed u) : Unbracketed (t ++ u) :=
  ⟨by simp [ht.1, hu.1], by simp [ht.2, hu.2]⟩

/-- Behind its bracket, an element has no further one that opens. -/
theorem bracket_not_mem_enclosed (hlabel : Unbracketed label) (htarget : Unbracketed target) :
    '[' ∉ label ++ ']' :: '(' :: (target ++ [')']) := by
  simp [hlabel.1, htarget.1]

/-! ## Addresses and sources as targets -/

theorem IsAddress.isTargetChar (h : IsAddress t) : ∀ c ∈ t, Link.isTargetChar c = true := by
  intro c hc
  obtain ⟨hblank, hclose⟩ := h.2.2.1 c hc
  simp [Link.isTargetChar, hblank, hclose]

/-- An address has a host behind its slashes. -/
theorem IsAddress.startsAsWeb (h : IsAddress t) : Link.startsAsWeb t = true := by
  obtain ⟨hstart, -, -, hweb⟩ := h
  rcases hstart with ⟨host, rfl⟩ | ⟨host, rfl⟩
  · cases host with
    | nil =>
      rw [show Url.isWeb ("http://".toList ++ []) = false by decide +kernel] at hweb
      cases hweb
    | cons c host => rfl
  · cases host with
    | nil =>
      rw [show Url.isWeb ("https://".toList ++ []) = false by decide +kernel] at hweb
      cases hweb
    | cons c host => rfl

theorem IsSource.isTargetChar (h : IsSource t) :
    ∀ c ∈ t, Link.isTargetChar c = true ∧ Image.isTargetChar c = true := by
  intro c hc
  obtain ⟨hblank, hmarks⟩ := h.2.2 c hc
  simp only [List.mem_cons, List.not_mem_nil, or_false, not_or] at hmarks
  simp [Link.isTargetChar, Image.isTargetChar, hblank, hmarks]

end Element

/-! ## Reading one element -/

namespace Link

open Element

variable {t u label alt source target rest : Text}

/-- A label goes on behind what has no brackets. -/
theorem afterLabel?_append (h : Unbracketed t) (u : Text) :
    afterLabel? false (t ++ u) = afterLabel? false u := by
  induction t with
  | nil => rfl
  | cons c t ih =>
    obtain ⟨hopen, hclose⟩ := h
    rw [List.mem_cons, not_or] at hopen hclose
    have hc : (c == '[') = false := beq_false_of_ne (Ne.symm hopen.1)
    rw [List.cons_append, afterLabel?, if_neg (by simp), if_neg (Ne.symm hclose.1), hc]
    exact ih ⟨hopen.2, hclose.2⟩

/-- A group in a label ends with the first bracket that closes. -/
theorem afterLabel?_group (h : ']' ∉ t) (u : Text) :
    afterLabel? true (t ++ ']' :: u) = afterLabel? false u := by
  induction t with
  | nil => rfl
  | cons c t ih =>
    rw [List.mem_cons, not_or] at h
    have hc : (c != ']') = true := bne_iff_ne.2 (Ne.symm h.1)
    rw [List.cons_append, afterLabel?, if_pos rfl, hc]
    exact ih h.2

/-- A label can be one without brackets, or a single image. -/
theorem afterLabel?_image (halt : Unbracketed alt) (hsource : Unbracketed source) (u : Text) :
    afterLabel? false (('!' :: enclosed alt source) ++ ']' :: u) = some u := by
  have hinner : Unbracketed ('(' :: (source ++ [')'])) :=
    Unbracketed.append (t := ['(']) (by decide) (hsource.append (by decide))
  have hopen : afterLabel? false (('!' :: enclosed alt source) ++ ']' :: u)
      = afterLabel? true (alt ++ ']' :: (('(' :: (source ++ [')'])) ++ ']' :: u)) := by
    rw [enclosed]
    simp [afterLabel?]
  rw [hopen, afterLabel?_group halt.2, afterLabel?_append hinner]
  rfl

theorem afterLabel?_plain (h : Unbracketed label) (u : Text) :
    afterLabel? false (label ++ ']' :: u) = some u := by
  rw [afterLabel?_append h]
  rfl

/-- With a label and a target in their places, it is up to the target whether there is a link. -/
theorem read?_enclosed
    (hlabel : ∀ u, afterLabel? false (label ++ ']' :: u) = some u)
    (htarget : ∀ c ∈ target, isTargetChar c = true) (rest : Text) :
    read? (enclosed label target ++ rest)
      = if startsAsWeb target then some (target, rest) else none := by
  have hclose : isTargetChar ')' = false := rfl
  have htake : (target ++ ')' :: rest).takeWhile isTargetChar = target := by
    rw [List.takeWhile_append_of_pos htarget, List.takeWhile_cons_of_neg (by simp [hclose]),
      List.append_nil]
  have hdrop : (target ++ ')' :: rest).dropWhile isTargetChar = ')' :: rest := by
    rw [List.dropWhile_append_of_pos htarget, List.dropWhile_cons_of_neg (by simp [hclose])]
  have hspelled : enclosed label target ++ rest
      = '[' :: (label ++ ']' :: '(' :: (target ++ ')' :: rest)) := by
    simp [enclosed]
  rw [hspelled, read?, hlabel, Option.bind_some, target?]
  simp only [htake, hdrop]

/-- A text without a bracket that opens has no link. -/
theorem targetsFrom_skip (h : '[' ∉ t) (last : Char) (rest : Text) :
    targetsFrom 0 last (t ++ rest) = targetsFrom 0 (t.getLast?.getD last) rest := by
  induction t generalizing last with
  | nil => rfl
  | cons c t ih =>
    rw [List.mem_cons, not_or] at h
    have hread : read? (c :: (t ++ rest)) = none := by
      simp [read?, Ne.symm h.1]
    rw [List.cons_append, targetsFrom_cons, hread]
    refine (ih h.2 c).trans ?_
    cases t with
    | nil => rfl
    | cons d t =>
      rw [List.getLast?_cons_cons, List.getLast?_eq_some_getLast (List.cons_ne_nil d t)]
      rfl

theorem targetsFrom_address
    (hlabel : ∀ u, afterLabel? false (label ++ ']' :: u) = some u) (htarget : IsAddress target)
    {last : Char} (hlast : last ≠ '!') (rest : Text) :
    targetsFrom 0 last (enclosed label target ++ rest) = target :: targetsFrom 0 ')' rest := by
  have hread := read?_enclosed hlabel htarget.isTargetChar rest
  rw [if_pos htarget.startsAsWeb] at hread
  rw [enclosed, List.cons_append] at hread ⊢
  rw [targetsFrom_cons, hread]
  simp only [if_neg hlast, List.singleton_append]

/-- The search goes on behind an element, and does not come upon an exclamation mark right there. -/
theorem targetsFrom_spelling {e : Element} (he : e.Fits) {last : Char} (hlast : last ≠ '!')
    (rest : Text) : ∃ last', last' ≠ '!' ∧
      targetsFrom 0 last (e.spelling ++ rest) = e.links ++ targetsFrom 0 last' rest := by
  have hclose : ')' ≠ '!' := by decide
  cases e with
  | text t =>
    refine ⟨t.getLast?.getD last, ?_, targetsFrom_skip he.1.1 last rest⟩
    cases hend : t.getLast? with
    | none => exact hlast
    | some c =>
      rintro rfl
      exact he.2 (List.mem_of_getLast? hend)
  | link label target =>
    exact ⟨')', hclose, targetsFrom_address (afterLabel?_plain he.1) he.2 hlast rest⟩
  | badge alt source target =>
    have hlabel := afterLabel?_image he.1 he.2.1.2.1
    exact ⟨')', hclose, targetsFrom_address hlabel he.2.2 hlast rest⟩
  | image alt source =>
    obtain ⟨halt, hsource⟩ := he
    refine ⟨')', hclose, ?_⟩
    have hread := read?_enclosed (afterLabel?_plain halt)
      (fun c hc => (hsource.isTargetChar c hc).1) rest
    have hmark : read? ('!' :: (enclosed alt source ++ rest)) = none := rfl
    rw [spelling, List.cons_append, targetsFrom_cons, hmark]
    rw [enclosed, List.cons_append] at hread ⊢
    change targetsFrom 0 '!' _ = targetsFrom 0 ')' rest
    rw [targetsFrom_cons, hread]
    by_cases hweb : startsAsWeb source = true
    · rw [if_pos hweb]
      rfl
    · rw [if_neg hweb]
      refine (targetsFrom_skip (bracket_not_mem_enclosed halt hsource.2.1) '[' rest).trans ?_
      rw [← List.cons_append, ← List.cons_append, ← List.append_assoc, List.getLast?_concat]
      rfl

theorem targetsFrom_flatMap {es : List Element} (h : ∀ e ∈ es, e.Fits) {last : Char}
    (hlast : last ≠ '!') : targetsFrom 0 last (es.flatMap spelling) = es.flatMap links := by
  induction es generalizing last with
  | nil => rfl
  | cons e es ih =>
    obtain ⟨last', hlast', hread⟩ :=
      targetsFrom_spelling (h e List.mem_cons_self) hlast (es.flatMap spelling)
    rw [List.flatMap_cons, hread, ih (fun f hf => h f (List.mem_cons_of_mem _ hf)) hlast']
    rfl

end Link

namespace Image

open Element

variable {t u label alt source target rest : Text}

theorem read?_enclosed (halt : ']' ∉ alt) (hsource : IsSource source) (rest : Text) :
    read? ('!' :: enclosed alt source ++ rest) = some (.image source alt, rest) := by
  have hspelled : '!' :: enclosed alt source ++ rest
      = '!' :: '[' :: (alt ++ ']' :: '(' :: (source ++ ')' :: rest)) := by
    simp [enclosed]
  have hinside : ∀ c ∈ alt, (c != ']') = true := by
    intro c hc
    rw [bne_iff_ne]
    rintro rfl
    exact halt hc
  have htake (u : Text) : (alt ++ ']' :: u).takeWhile (· != ']') = alt := by
    rw [List.takeWhile_append_of_pos hinside]
    simp
  have hdrop (u : Text) : (alt ++ ']' :: u).dropWhile (· != ']') = ']' :: u := by
    rw [List.dropWhile_append_of_pos hinside]
    rfl
  have hchars : ∀ c ∈ source, isTargetChar c = true := fun c hc => (hsource.isTargetChar c hc).2
  have htarget : (source ++ ')' :: rest).takeWhile isTargetChar = source := by
    rw [List.takeWhile_append_of_pos hchars, List.takeWhile_cons_of_neg (by decide),
      List.append_nil]
  have hafter : (source ++ ')' :: rest).dropWhile isTargetChar = ')' :: rest := by
    rw [List.dropWhile_append_of_pos hchars, List.dropWhile_cons_of_neg (by decide)]
  obtain ⟨c, s, rfl⟩ := List.exists_cons_of_ne_nil hsource.1
  obtain ⟨hblank, hmarks⟩ := hsource.2.2 c List.mem_cons_self
  have htrim : Text.trimStart (c :: s ++ ')' :: rest) = c :: s ++ ')' :: rest :=
    List.dropWhile_cons_of_neg (by simp [hblank])
  have hangle : dropAngle (c :: s) = c :: s := by
    unfold dropAngle
    split
    · next d u hd =>
      obtain ⟨rfl, -⟩ := List.cons.inj hd
      simp at hmarks
    · rfl
  rw [hspelled, read?]
  simp only [htake, hdrop, htrim, htarget, hafter, hangle]
  rfl

/-- A text without a bracket that opens has no image, and none begins with its end. -/
theorem listFrom_skip (h : '[' ∉ t) (hlast : t.getLast? ≠ some '!') (rest : Text) :
    listFrom 0 (t ++ rest) = listFrom 0 rest := by
  induction t with
  | nil => rfl
  | cons c t ih =>
    rw [List.mem_cons, not_or] at h
    have hread : read? (c :: (t ++ rest)) = none := by
      cases t with
      | nil =>
        have hc : c ≠ '!' := fun hc => hlast (by rw [hc]; rfl)
        simp [read?, hc]
      | cons d t =>
        have hd : d ≠ '[' := fun hd => h.2 (by simp [hd])
        simp [read?, hd]
    rw [List.cons_append, listFrom_cons, hread]
    refine ih h.2 ?_
    cases t with
    | nil => simp
    | cons d t => rwa [List.getLast?_cons_cons] at hlast

/-- The search goes on behind an element. -/
theorem listFrom_spelling {e : Element} (he : e.Fits) (rest : Text) :
    listFrom 0 (e.spelling ++ rest)
      = e.images.map (fun x => .image x.1 x.2) ++ listFrom 0 rest := by
  have hend (t : Text) : (t ++ [')']).getLast? ≠ some '!' := by
    rw [List.getLast?_concat]
    decide
  have hbracket (u : Text) : listFrom 0 ('[' :: u) = listFrom 0 u := listFrom_cons '[' u
  have himage {alt source : Text} (halt : Unbracketed alt) (hsource : IsSource source)
      (rest : Text) : listFrom 0 ('!' :: enclosed alt source ++ rest)
        = .image source alt :: listFrom 0 rest := by
    have hread := read?_enclosed halt.2 hsource rest
    rw [List.cons_append] at hread ⊢
    rw [listFrom_cons, hread]
  cases e with
  | text t =>
    exact listFrom_skip he.1.1 (fun hlast => he.2 (List.mem_of_getLast? hlast)) rest
  | link label target =>
    rw [spelling, enclosed, List.cons_append, hbracket]
    refine listFrom_skip (bracket_not_mem_enclosed he.1 he.2.2.1) ?_ rest
    rw [← List.cons_append, ← List.cons_append, ← List.append_assoc]
    exact hend _
  | image alt source => exact himage he.1 he.2 rest
  | badge alt source target =>
    have hspelled : (badge alt source target).spelling ++ rest = '[' :: ('!' :: enclosed alt source
        ++ ((']' :: '(' :: (target ++ [')'])) ++ rest)) := by
      simp [spelling, enclosed]
    rw [hspelled, hbracket, himage he.1 he.2.1, listFrom_skip]
    · rfl
    · simp [he.2.2.2.1.1]
    · rw [← List.cons_append, ← List.cons_append]
      exact hend _

theorem listFrom_flatMap {es : List Element} (h : ∀ e ∈ es, e.Fits) :
    listFrom 0 (es.flatMap spelling)
      = (es.flatMap images).map fun x => .image x.1 x.2 := by
  induction es with
  | nil => rfl
  | cons e es ih =>
    rw [List.flatMap_cons, listFrom_spelling (h e List.mem_cons_self),
      ih fun f hf => h f (List.mem_cons_of_mem _ hf), List.flatMap_cons, List.map_append]

end Image

/-! ## Reading a text of elements -/

namespace Element

theorem isWeb_of_mem_links {e : Element} (he : e.Fits) {t : Text} (ht : t ∈ e.links) :
    Url.isWeb t = true := by
  cases e with
  | text t => cases ht
  | link label target =>
    rw [List.mem_singleton.1 ht]
    exact he.2.2.2.2
  | image alt source => cases ht
  | badge alt source target =>
    rw [List.mem_singleton.1 ht]
    exact he.2.2.2.2.2

/-- From a text of elements, in whatever order they touch each other, the links that are read are
the targets of its links and badges, and the images those of its images and badges, each in order
and with an alternative text unless that is empty. -/
theorem extract_spelling {es : List Element} (h : ∀ e ∈ es, e.Fits) :
    let t := es.flatMap spelling
    Link.extract t = (es.flatMap links).map .link ∧
      Image.extract t = (es.flatMap images).map (fun x => .image x.1 x.2) ∧
      (Image.extract t).map (fun r => (r.target, r.alt?))
        = (es.flatMap images).map fun x => (x.1, if x.2 = [] then none else some x.2) := by
  intro t
  have hlinks : Link.extract t = (es.flatMap links).map .link := by
    rw [Link.extract, Link.targetsFrom_flatMap h (by decide), List.filter_eq_self.2]
    intro target htarget
    obtain ⟨e, he, htarget⟩ := List.mem_flatMap.1 htarget
    exact isWeb_of_mem_links (h e he) htarget
  have himages : Image.extract t = (es.flatMap images).map fun x => .image x.1 x.2 :=
    Image.listFrom_flatMap h
  refine ⟨hlinks, himages, ?_⟩
  rw [himages, List.map_map]
  rfl

/-- A link right behind an image on the web, a badge, and a label that ends with a mark. -/
theorem extract_spelling_touching :
    let http := Text.ofString "http://x"
    let es : List Element := [.image [] http, .link ['a', '!'] http, .badge ['\n'] ['i'] http,
      .text [')'], .link [] http]
    (∀ e ∈ es, e.Fits) ∧
      Link.extract (es.flatMap spelling) = [.link http, .link http, .link http] ∧
      Image.extract (es.flatMap spelling) = [.image http [], .image ['i'] ['\n']] := by
  intro http es
  have hfits : ∀ e ∈ es, e.Fits := by decide +kernel
  obtain ⟨hlinks, himages, -⟩ := extract_spelling hfits
  exact ⟨hfits, hlinks, himages⟩

end Element
end GuideBundles
