/-
# `Proofs.Markdown.Reference` — links and images, one after the other

A search passes over what it has read by a count of characters.  `targetsFrom_cons` and
`listFrom_cons` say what that comes to: the search goes on with what follows the link or the image.
From them it is read off that all that is found is made of characters of the text, and that carriage
returns in front of newlines change nothing but alternative texts.
-/
import GuideBundles.Markdown.Reference
import GuideBundles.Proofs.Text.Returns

namespace GuideBundles

/-! ## Links -/

namespace Link

theorem suffix_of_afterLabel? {inGroup : Bool} {t u : Text} (h : afterLabel? inGroup t = some u) :
    u <:+ t := by
  induction t generalizing inGroup with
  | nil => cases h
  | cons c t ih =>
    unfold afterLabel? at h
    split at h
    · exact (ih h).trans (List.suffix_cons c t)
    · split at h
      · obtain rfl := Option.some.inj h
        exact List.suffix_cons c t
      · exact (ih h).trans (List.suffix_cons c t)

theorem target?_ok {t target rest : Text} (h : target? t = some (target, rest)) :
    t = '(' :: (target ++ ')' :: rest) ∧ ∀ c ∈ target, isTargetChar c = true := by
  unfold target? at h
  split at h
  · next u =>
    simp only at h
    split at h
    · next v hv =>
      split at h
      · obtain ⟨rfl, rfl⟩ := Prod.mk.inj (Option.some.inj h)
        refine ⟨?_, fun c hc => List.mem_takeWhile_imp hc⟩
        rw [← hv, List.takeWhile_append_dropWhile]
      · cases h
    · cases h
  · cases h

/-- A link is a label, and a target in parentheses right after it. -/
theorem read?_ok {t target rest : Text} (h : read? t = some (target, rest)) :
    (∃ label, t = '[' :: (label ++ '(' :: (target ++ ')' :: rest))) ∧
      ∀ c ∈ target, isTargetChar c = true := by
  unfold read? at h
  split at h
  · next u =>
    obtain ⟨v, hlabel, htarget⟩ := Option.bind_eq_some_iff.1 h
    obtain ⟨rfl, hchars⟩ := target?_ok htarget
    obtain ⟨label, hlabel⟩ := suffix_of_afterLabel? hlabel
    exact ⟨⟨label, by rw [hlabel]⟩, hchars⟩
  · cases h

/-- Characters that are passed over count only by the last of them. -/
theorem targetsFrom_append (u v : Text) (last : Char) :
    targetsFrom u.length last (u ++ v) = targetsFrom 0 (u.getLast?.getD last) v := by
  induction u generalizing last with
  | nil => rfl
  | cons c u ih =>
    rw [List.cons_append, List.length_cons, targetsFrom, ih]
    cases u with
    | nil => rfl
    | cons d u =>
      rw [List.getLast?_cons_cons, List.getLast?_eq_some_getLast (List.cons_ne_nil d u)]
      rfl

/-- The search goes on behind a link, or with the next character. -/
theorem targetsFrom_cons (last c : Char) (t : Text) :
    targetsFrom 0 last (c :: t) = match read? (c :: t) with
      | some (target, rest) => (if last = '!' then [] else [target]) ++ targetsFrom 0 ')' rest
      | none => targetsFrom 0 c t := by
  rw [targetsFrom]
  cases hread : read? (c :: t) with
  | none => rfl
  | some x =>
    obtain ⟨target, rest⟩ := x
    obtain ⟨⟨label, hlabel⟩, -⟩ := read?_ok hread
    have ht : t = (label ++ '(' :: target ++ [')']) ++ rest := by
      rw [(List.cons.inj hlabel).2]
      simp
    have hskip : targetsFrom (t.length - rest.length) c t = targetsFrom 0 ')' rest := by
      rw [ht, List.length_append, Nat.add_sub_cancel, targetsFrom_append, List.getLast?_concat]
      rfl
    simp only [hskip]
    split <;> rfl

/-- What is left behind a link is shorter. -/
theorem length_of_read? {c : Char} {t target rest : Text}
    (h : read? (c :: t) = some (target, rest)) : rest.length < (c :: t).length := by
  obtain ⟨⟨label, hlabel⟩, -⟩ := read?_ok h
  rw [hlabel]
  simp only [List.length_cons, List.length_append]
  omega

/-- A target is made of characters of the text, and none of them is blank. -/
theorem subset_of_mem_targetsFrom {last : Char} {t x : Text} (h : x ∈ targetsFrom 0 last t) :
    x ⊆ t ∧ ∀ c ∈ x, isTargetChar c = true := by
  induction hn : t.length using Nat.strong_induction_on generalizing t last with
  | _ n ih =>
    subst hn
    cases t with
    | nil => cases h
    | cons c t =>
      rw [targetsFrom_cons] at h
      split at h
      · next target rest hread =>
        obtain ⟨⟨label, hlabel⟩, hchars⟩ := read?_ok hread
        have hsub {y : Text} (hy : y ⊆ target ++ ')' :: rest) : y ⊆ c :: t := by
          rw [hlabel]
          intro d hd
          exact List.mem_cons_of_mem _ (List.mem_append_right _ (List.mem_cons_of_mem _ (hy hd)))
        rcases List.mem_append.1 h with h | h
        · split at h
          · cases h
          · rw [List.mem_singleton.1 h]
            exact ⟨hsub (List.subset_append_left _ _), hchars⟩
        · obtain ⟨hrest, hall⟩ := ih _ (length_of_read? hread) h rfl
          refine ⟨hsub ?_, hall⟩
          exact List.Subset.trans hrest fun d hd =>
            List.mem_append_right _ (List.mem_cons_of_mem _ hd)
      · obtain ⟨hrest, hall⟩ := ih _ (by simp) h rfl
        exact ⟨List.Subset.trans hrest (List.subset_cons_self c t), hall⟩

/-! ### Carriage returns -/

theorem afterLabel?_crlf (inGroup : Bool) (t : Text) :
    afterLabel? inGroup (Text.crlf t) = (afterLabel? inGroup t).map Text.crlf := by
  induction t generalizing inGroup with
  | nil => rfl
  | cons c t ih =>
    by_cases hc : c = '\n'
    · subst hc
      cases inGroup with
      | true => exact ih true
      | false => exact ih false
    · rw [Text.crlf_cons hc, afterLabel?, afterLabel?, ih, ih]
      split
      · rfl
      · split <;> rfl

theorem target?_crlf (t : Text) :
    target? (Text.crlf t) = (target? t).map fun x => (x.1, Text.crlf x.2) := by
  have htake (u : Text) : (Text.crlf u).takeWhile isTargetChar = u.takeWhile isTargetChar :=
    Text.takeWhile_crlf_of_neg (by decide) (by decide) u
  have hdrop (u : Text) :
      (Text.crlf u).dropWhile isTargetChar = Text.crlf (u.dropWhile isTargetChar) :=
    Text.dropWhile_crlf (by decide) u
  cases t with
  | nil => rfl
  | cons c t =>
    by_cases hc : c = '('
    · subst hc
      rw [Text.crlf_cons (by decide), target?, target?, htake, hdrop]
      cases t.dropWhile isTargetChar with
      | nil => rfl
      | cons d u =>
        by_cases hd : d = ')'
        · subst hd
          simp only [Text.crlf_cons (show ')' ≠ '\n' by decide)]
          split <;> rfl
        · by_cases hn : d = '\n' <;> simp [hd, hn]
    · by_cases hn : c = '\n' <;> simp [hc, hn, target?]

theorem read?_crlf (t : Text) :
    read? (Text.crlf t) = (read? t).map fun x => (x.1, Text.crlf x.2) := by
  cases t with
  | nil => rfl
  | cons c t =>
    by_cases hc : c = '['
    · subst hc
      rw [Text.crlf_cons (by decide), read?, read?, afterLabel?_crlf]
      cases afterLabel? false t with
      | none => rfl
      | some u => exact target?_crlf u
    · by_cases hn : c = '\n' <;> simp [hc, hn, read?]

theorem targetsFrom_crlf {last last' : Char} (h : last' = '!' ↔ last = '!') (t : Text) :
    targetsFrom 0 last' (Text.crlf t) = targetsFrom 0 last t := by
  induction hn : t.length using Nat.strong_induction_on generalizing t last last' with
  | _ n ih =>
    subst hn
    cases t with
    | nil => rfl
    | cons c t =>
      by_cases hc : c = '\n'
      · subst hc
        have hskip (l d : Char) (hd : d ≠ '[') (u : Text) :
            targetsFrom 0 l (d :: u) = targetsFrom 0 d u := by
          rw [targetsFrom_cons]
          simp [read?, hd]
        rw [Text.crlf_newline, hskip _ _ (by decide), hskip _ _ (by decide), hskip _ _ (by decide)]
        exact ih _ (by simp) Iff.rfl t rfl
      · rw [Text.crlf_cons hc, targetsFrom_cons, targetsFrom_cons, ← Text.crlf_cons hc, read?_crlf]
        cases hread : read? (c :: t) with
        | none => exact ih _ (by simp) Iff.rfl t rfl
        | some x =>
          simp only [Option.map_some]
          rw [ih _ (length_of_read? hread) Iff.rfl x.2 rfl]
          simp only [h]

theorem extract_crlf (t : Text) : extract (Text.crlf t) = extract t := by
  rw [extract, targetsFrom_crlf Iff.rfl]
  rfl

end Link

/-! ## Images -/

/-- A reference with a carriage return in front of each newline of its alternative text. -/
def Reference.crlf : Reference → Reference
  | link target => link target
  | image target alt => image target (Text.crlf alt)

namespace Image

theorem suffix_of_afterTitle? {t rest : Text} (h : afterTitle? t = some rest) : rest <:+ t := by
  have htrim (u : Text) : Text.trimStart u <:+ u := List.dropWhile_suffix _
  unfold afterTitle? at h
  split at h
  · next r hr =>
    obtain rfl := Option.some.inj h
    exact (hr ▸ List.suffix_cons _ _).trans (htrim t)
  · next title htitle =>
    split at h
    · split at h
      · next quote after hafter =>
        split at h
        · next r hr =>
          obtain rfl := Option.some.inj h
          have hlast : r <:+ after := (hr ▸ List.suffix_cons _ _).trans (htrim after)
          have hclose : after <:+ title :=
            (hafter ▸ List.suffix_cons _ _).trans (List.dropWhile_suffix _)
          exact ((hlast.trans hclose).trans (htitle ▸ List.suffix_cons _ _)).trans (htrim t)
        · cases h
      · cases h
    · cases h
  · cases h

theorem dropAngle_subset (t : Text) : dropAngle t ⊆ t := by
  unfold dropAngle
  split
  · exact List.subset_cons_self _ _
  · exact List.Subset.refl _

/-- Target and alternative text of an image are made of characters of the text, and what follows the
image is shorter. -/
theorem read?_ok {c : Char} {t rest : Text} {image : Reference}
    (h : read? (c :: t) = some (image, rest)) :
    (∃ target alt, image = .image target alt ∧ target ⊆ t ∧ alt ⊆ t ∧
      ∀ d ∈ target, isTargetChar d = true) ∧ rest <:+ t := by
  unfold read? at h
  split at h
  · next u hu =>
    obtain ⟨rfl, rfl⟩ := List.cons.inj hu
    simp only at h
    split at h
    · next bracket v hv =>
      split at h
      · cases h
      · obtain ⟨r, hafter, hr⟩ := Option.map_eq_some_iff.1 h
        obtain ⟨rfl, rfl⟩ := Prod.mk.inj hr
        have hdrop : v <:+ '[' :: u := by
          have hcut : v <:+ u.dropWhile (· != ']') := by
            rw [hv]
            exact ⟨[bracket, '('], rfl⟩
          exact (hcut.trans (List.dropWhile_suffix _)).trans (List.suffix_cons _ _)
        have hinner : Text.trimStart v <:+ '[' :: u := (List.dropWhile_suffix _).trans hdrop
        refine ⟨⟨_, _, rfl, ?_, ?_, ?_⟩, ?_⟩
        · exact List.Subset.trans (dropAngle_subset _)
            (List.Subset.trans (List.takeWhile_subset _) hinner.subset)
        · exact List.Subset.trans (List.takeWhile_subset _) (List.subset_cons_self _ _)
        · exact fun d hd => List.mem_takeWhile_imp (dropAngle_subset _ hd)
        · refine (suffix_of_afterTitle? hafter).trans (List.IsSuffix.trans ?_ hinner)
          split
          · next w hw => exact (hw ▸ List.suffix_cons _ _).trans (List.dropWhile_suffix _)
          · exact List.dropWhile_suffix _
    · cases h
  · cases h

theorem listFrom_append (u v : Text) : listFrom u.length (u ++ v) = listFrom 0 v := by
  induction u with
  | nil => rfl
  | cons c u ih => exact ih

/-- The search goes on behind an image, or with the next character. -/
theorem listFrom_cons (c : Char) (t : Text) :
    listFrom 0 (c :: t) = match read? (c :: t) with
      | some (image, rest) => image :: listFrom 0 rest
      | none => listFrom 0 t := by
  rw [listFrom]
  cases hread : read? (c :: t) with
  | none => rfl
  | some x =>
    obtain ⟨image, rest⟩ := x
    obtain ⟨u, hu⟩ := (read?_ok hread).2
    have hskip : listFrom (t.length - rest.length) t = listFrom 0 rest := by
      rw [← hu, List.length_append, Nat.add_sub_cancel, listFrom_append]
    simp only [hskip]

/-- Each image is made of characters of the text. -/
theorem subset_of_mem_listFrom {t : Text} {image : Reference} (h : image ∈ listFrom 0 t) :
    ∃ target alt, image = .image target alt ∧ target ⊆ t ∧ alt ⊆ t ∧
      ∀ d ∈ target, isTargetChar d = true := by
  induction hn : t.length using Nat.strong_induction_on generalizing t with
  | _ n ih =>
    subst hn
    cases t with
    | nil => cases h
    | cons c t =>
      have hlater {u : Text} (hu : u <:+ t) (h : image ∈ listFrom 0 u) :
          ∃ target alt, image = .image target alt ∧ target ⊆ c :: t ∧ alt ⊆ c :: t ∧
            ∀ d ∈ target, isTargetChar d = true := by
        have hlength := hu.length_le
        obtain ⟨target, alt, himage, htarget, halt, hchars⟩ :=
          ih u.length (by rw [List.length_cons]; omega) h rfl
        have hsub : u ⊆ c :: t := List.Subset.trans hu.subset (List.subset_cons_self c t)
        exact ⟨target, alt, himage, List.Subset.trans htarget hsub, List.Subset.trans halt hsub,
          hchars⟩
      rw [listFrom_cons] at h
      split at h
      · next first rest hread =>
        obtain ⟨⟨target, alt, hfirst, htarget, halt, hchars⟩, hrest⟩ := read?_ok hread
        rcases List.mem_cons.1 h with rfl | h
        · have hsub := List.subset_cons_self c t
          exact ⟨target, alt, hfirst, List.Subset.trans htarget hsub, List.Subset.trans halt hsub,
            hchars⟩
        · exact hlater hrest h
      · exact hlater List.suffix_rfl h

/-! ### Carriage returns -/

/-- What is left from a character on begins with it. -/
theorem eq_of_dropWhile_ne {t u : Text} {c d : Char} (h : t.dropWhile (· != c) = d :: u) :
    d = c := by
  have hhead := List.head?_dropWhile_not (· != c) t
  rw [h] at hhead
  simpa using hhead

theorem dropWhile_quote_crlf (t : Text) :
    (Text.crlf t).dropWhile (· != '"') = Text.crlf (t.dropWhile (· != '"')) :=
  Text.dropWhile_crlf (by decide) t

/-- What follows a closing parenthesis. -/
theorem afterClose_crlf (t : Text) :
    (match Text.crlf t with
      | ')' :: rest => some rest
      | _ => none) = (match t with
      | ')' :: rest => some rest
      | _ => none).map Text.crlf := by
  cases t with
  | nil => rfl
  | cons c t =>
    by_cases hc : c = ')'
    · subst hc
      rfl
    · by_cases hn : c = '\n' <;> simp [hc, hn]

/-- What follows a target that may end with an angle bracket. -/
theorem dropClose_crlf (t : Text) :
    (match Text.crlf t with
      | '>' :: u => u
      | u => u) = Text.crlf (match t with
      | '>' :: u => u
      | u => u) := by
  cases t with
  | nil => rfl
  | cons c t =>
    by_cases hc : c = '>'
    · subst hc
      rfl
    · by_cases hn : c = '\n' <;> simp [hc, hn]

theorem afterTitle?_crlf (t : Text) :
    afterTitle? (Text.crlf t) = (afterTitle? t).map Text.crlf := by
  have hblank (u : Text) : (Text.crlf u).head?.any Text.isBlank = u.head?.any Text.isBlank := by
    cases u with
    | nil => rfl
    | cons c u =>
      by_cases hn : c = '\n'
      · subst hn
        rfl
      · rw [Text.crlf_cons hn]
        rfl
  unfold afterTitle?
  rw [Text.trimStart_crlf]
  match Text.trimStart t with
  | [] => rfl
  | c :: u =>
    by_cases hc : c = ')'
    · subst hc
      rfl
    · by_cases hq : c = '"'
      · subst hq
        simp only [Text.crlf_cons (show '"' ≠ '\n' by decide), hblank, dropWhile_quote_crlf]
        split
        · cases hdrop : u.dropWhile (· != '"') with
          | nil => rfl
          | cons q after =>
            obtain rfl := eq_of_dropWhile_ne hdrop
            simp only [Text.crlf_cons (show '"' ≠ '\n' by decide), Text.trimStart_crlf]
            exact afterClose_crlf _
        · rfl
      · by_cases hn : c = '\n' <;> simp [hc, hq, hn]

theorem read?_crlf (t : Text) :
    read? (Text.crlf t) = (read? t).map fun x => (x.1.crlf, Text.crlf x.2) := by
  have halt (u : Text) : (Text.crlf u).takeWhile (· != ']') = Text.crlf (u.takeWhile (· != ']')) :=
    Text.takeWhile_crlf (by decide) u
  have hbody (u : Text) : (Text.crlf u).dropWhile (· != ']') = Text.crlf (u.dropWhile (· != ']')) :=
    Text.dropWhile_crlf (by decide) u
  have htarget (u : Text) : (Text.crlf u).takeWhile isTargetChar = u.takeWhile isTargetChar :=
    Text.takeWhile_crlf_of_neg (by decide) (by decide) u
  have hafter (u : Text) :
      (Text.crlf u).dropWhile isTargetChar = Text.crlf (u.dropWhile isTargetChar) :=
    Text.dropWhile_crlf (by decide) u
  match t with
  | [] => rfl
  | [c] => by_cases hn : c = '\n' <;> simp [read?, hn]
  | c :: c' :: u =>
    by_cases hc : c = '!'
    · subst hc
      by_cases hc' : c' = '['
      · subst hc'
        simp only [Text.crlf_cons (show '!' ≠ '\n' by decide),
          Text.crlf_cons (show '[' ≠ '\n' by decide), read?, halt, hbody]
        cases hdrop : u.dropWhile (· != ']') with
        | nil => rfl
        | cons q v =>
          obtain rfl := eq_of_dropWhile_ne hdrop
          rw [Text.crlf_cons (by decide)]
          cases v with
          | nil => rfl
          | cons d w =>
            by_cases hd : d = '('
            · subst hd
              simp only [Text.crlf_cons (show '(' ≠ '\n' by decide), Text.trimStart_crlf, htarget,
                hafter]
              split
              · rfl
              · have hrest := (congrArg afterTitle? (dropClose_crlf
                  ((Text.trimStart w).dropWhile isTargetChar))).trans (afterTitle?_crlf _)
                refine (congrArg (Option.map _) hrest).trans ?_
                rw [Option.map_map, Option.map_map]
                rfl
            · by_cases hn : d = '\n' <;> simp [hd, hn]
      · by_cases hn : c' = '\n' <;> simp [read?, hc', hn]
    · by_cases hn : c = '\n' <;> simp [read?, hc, hn]

theorem extract_crlf (t : Text) : extract (Text.crlf t) = (extract t).map Reference.crlf := by
  unfold extract
  induction hn : t.length using Nat.strong_induction_on generalizing t with
  | _ n ih =>
    subst hn
    cases t with
    | nil => rfl
    | cons c t =>
      by_cases hc : c = '\n'
      · subst hc
        have hskip (d : Char) (hd : d ≠ '!') (u : Text) : listFrom 0 (d :: u) = listFrom 0 u := by
          rw [listFrom_cons]
          simp [read?, hd]
        rw [Text.crlf_newline, hskip _ (by decide), hskip _ (by decide), hskip _ (by decide)]
        exact ih _ (by simp) t rfl
      · rw [Text.crlf_cons hc, listFrom_cons, listFrom_cons, ← Text.crlf_cons hc, read?_crlf]
        cases hread : read? (c :: t) with
        | none => exact ih _ (by simp) t rfl
        | some x =>
          have hlength := (read?_ok hread).2.length_le
          simp only [Option.map_some, List.map_cons]
          rw [ih x.2.length (by rw [List.length_cons]; omega) x.2 rfl]

end Image
end GuideBundles
