/-
# `Proofs.Disk.Request` — what a granted request changes

Each change that a disk grants is told by where its paths lead.  Making or writing one thing sets
one entry and nothing else; making a directory with those above it paves the way to it.
-/
import GuideBundles.Disk.Request
import GuideBundles.Proofs.Disk.Walk

namespace GuideBundles.Disk

/-- A request of two parts is granted when the first part is and then the second one. -/
theorem bind_eq_ok_iff {α β : Type} {x : Except Fault α} {k : α → Except Fault β} {b : β} :
    (x >>= k) = .ok b ↔ ∃ a, x = .ok a ∧ k a = .ok b := by
  cases x with
  | error f => exact ⟨nofun, nofun⟩
  | ok a => exact ⟨fun h => ⟨a, rfl, h⟩, fun ⟨_, ha, h⟩ => Except.ok.inj ha ▸ h⟩

/-! ## One entry set -/

/-- The second disk is the first one but for the entry at a location. -/
structure Sets (l : Location) (e : Entry) (d d' : Disk) : Prop where
  here : d'.here = d.here
  get? : ∀ k, d'.get? k = if k = l then some e else d.get? k

theorem sets_put {d : Disk} {l : Location} (hroom : d.hasRoom l = true)
    (hl : d.get? l ≠ some .directory) (e : Entry) : Sets l e d (d.put l e) := by
  refine ⟨here_put d l e, ?_⟩
  intro k
  rw [get?_put hroom]
  by_cases hk : k = l
  · rw [if_pos hk, if_pos hk]
  · rw [if_neg hk, if_neg hk]
    cases hu : isUnder l k with
    | false => rfl
    | true =>
      obtain ⟨rest, rfl⟩ := isUnder_iff.1 hu
      cases rest with
      | nil => simp at hk
      | cons n rest => exact (get?_below_eq_none hl n rest).symm

theorem makeDir_ok {d d' : Disk} {p : Path} (h : d.makeDir p = .ok d') :
    p.flaw? = none ∧ d.get? (d.locate p) = none ∧ Sets (d.locate p) .directory d d' := by
  obtain ⟨⟨l, n | n⟩, hplace, h⟩ := bind_eq_ok_iff.1 h
  · cases h
  · obtain ⟨m, hchild, h⟩ := bind_eq_ok_iff.1 h
    obtain ⟨rfl, hroom⟩ := hasRoom_of_place hplace hchild
    split at h
    · cases h
    · next hnone =>
      have hm : d.get? (d.locate p) = none := by simpa using hnone
      obtain rfl := Except.ok.inj h
      exact ⟨(place_ok hplace).1, hm, sets_put hroom (by simp [hm]) _⟩

/-- A file can be written where a path ends with a name and no directory lies. -/
theorem target_ok {d : Disk} {p : Path} {m : Location} (h : d.target p = .ok m) :
    m = d.locate p ∧ (∃ n, p.steps.getLast? = some (.name n)) ∧ d.hasRoom m = true ∧
      d.get? m ≠ some .directory := by
  obtain ⟨⟨l, n | n⟩, hplace, h⟩ := bind_eq_ok_iff.1 h
  · cases h
  · simp only at h
    split at h
    · cases h
    · obtain ⟨k, hchild, h⟩ := bind_eq_ok_iff.1 h
      obtain ⟨rfl, hroom⟩ := hasRoom_of_place hplace hchild
      split at h
      · cases h
      · next hdir =>
        obtain rfl := Except.ok.inj h
        exact ⟨rfl, ⟨n, (place_ok hplace).2.2.1⟩, hroom, fun hk => hdir (isDirectoryAt_iff.2 hk)⟩

theorem writeBytes_ok {d d' : Disk} {p : Path} {data : ByteArray}
    (h : d.writeBytes p data = .ok d') :
    (∃ n, p.steps.getLast? = some (.name n)) ∧ Sets (d.locate p) (.file data) d d' := by
  obtain ⟨m, htarget, h⟩ := bind_eq_ok_iff.1 h
  obtain ⟨rfl, hname, hroom, hm⟩ := target_ok htarget
  obtain rfl := Except.ok.inj h
  exact ⟨hname, sets_put hroom hm _⟩

/-- There is room for an entry where one was just set. -/
theorem Sets.hasRoom {d d' : Disk} {l : Location} {e : Entry} (h : Sets l e d d')
    (hroom : d.hasRoom l = true) : d'.hasRoom l = true := by
  obtain ⟨k, n, rfl, hn, hk⟩ := exists_of_hasRoom hroom
  rw [hasRoom_append, h.get?, if_neg (by simp)]
  exact ⟨hn, hk⟩

/-- A file that is copied to another place is there with its bytes; one that is copied onto itself
is empty. -/
theorem copyFile_ok {d d' : Disk} {p q : Path} (h : d.copyFile p q = .ok d') :
    ∃ data, d.find p = .ok (d.locate p, .file data) ∧
      (∃ n, q.steps.getLast? = some (.name n)) ∧ Sets (d.locate q)
        (.file (if d.locate p = d.locate q then ByteArray.empty else data)) d d' := by
  obtain ⟨⟨l, data | -⟩, hfind, h⟩ := bind_eq_ok_iff.1 h
  · obtain ⟨rfl, hl⟩ := find_ok hfind
    obtain ⟨m, htarget, h⟩ := bind_eq_ok_iff.1 h
    obtain ⟨rfl, hname, hroom, hm⟩ := target_ok htarget
    refine ⟨data, hfind, hname, ?_⟩
    have hempty := sets_put hroom hm (.file ByteArray.empty)
    have hsource : (d.put (d.locate q) (.file ByteArray.empty)).get? (d.locate p)
        = some (.file (if d.locate p = d.locate q then ByteArray.empty else data)) := by
      rw [hempty.get?]
      split
      · rfl
      · exact hl
    simp only [hsource] at h
    obtain rfl := Except.ok.inj h
    have hfull := sets_put (hempty.hasRoom hroom) (by rw [hempty.get?]; simp)
      (.file (if d.locate p = d.locate q then ByteArray.empty else data))
    refine ⟨hfull.here.trans hempty.here, ?_⟩
    intro k
    rw [hfull.get?, hempty.get?]
    split <;> rfl
  · cases h

/-! ## Changes at some places -/

/-- The second disk is the first one, apart from what lies at some places and below, and from
directories that were made at some locations where nothing was. -/
structure Within (made : Location → Prop) (places : List Location) (d d' : Disk) : Prop where
  here : d'.here = d.here
  get? : ∀ k, (∀ l ∈ places, isUnder l k = false) → d'.get? k = d.get? k ∨
    (made k ∧ d.get? k = none ∧ d'.get? k = some .directory)

/-- What is as it was or was made a directory in each of two changes is so after both of them. -/
theorem same_or_made_trans {u : Prop} {x y z : Option Entry}
    (h : y = x ∨ (u ∧ x = none ∧ y = some .directory))
    (h' : z = y ∨ (u ∧ y = none ∧ z = some .directory)) :
    z = x ∨ (u ∧ x = none ∧ z = some .directory) := by
  rcases h with hsame | ⟨hu, hnone, hdir⟩
  · rcases h' with hsame' | ⟨hu, hnone, hdir⟩
    · exact .inl (hsame'.trans hsame)
    · exact .inr ⟨hu, hsame.symm.trans hnone, hdir⟩
  · rcases h' with hsame' | ⟨-, hnone', -⟩
    · exact .inr ⟨hu, hnone, hsame'.trans hdir⟩
    · rw [hdir] at hnone'
      cases hnone'

section Within

variable {made : Location → Prop} {places : List Location}

theorem Within.refl (made : Location → Prop) (places : List Location) (d : Disk) :
    Within made places d d := ⟨rfl, fun _ _ => .inl rfl⟩

theorem Within.trans {d₁ d₂ d₃ : Disk} (h : Within made places d₁ d₂)
    (h' : Within made places d₂ d₃) : Within made places d₁ d₃ :=
  ⟨h'.here.trans h.here, fun k hk => same_or_made_trans (h.get? k hk) (h'.get? k hk)⟩

/-- A directory is made at one of the locations or at one of the places. -/
theorem within_of_makeDir {d d' : Disk} {p : Path} (h : d.makeDir p = .ok d')
    (hp : made (d.locate p) ∨ ∃ l ∈ places, isUnder l (d.locate p) = true) :
    Within made places d d' := by
  obtain ⟨-, hnone, hsets⟩ := makeDir_ok h
  refine ⟨hsets.here, ?_⟩
  intro k hk
  rw [hsets.get?]
  by_cases hkp : k = d.locate p
  · subst hkp
    rcases hp with hp | ⟨l, hl, hu⟩
    · exact .inr ⟨hp, hnone, if_pos rfl⟩
    · rw [hk l hl] at hu
      cases hu
  · exact .inl (if_neg hkp)

/-- Whether or not all directories could be made, nothing else changes. -/
theorem within_makeDirs {d : Disk} {ps : List Path}
    (h : ∀ p ∈ ps, p.spelling ≠ [] →
      made (d.locate p) ∨ ∃ l ∈ places, isUnder l (d.locate p) = true) :
    Within made places d (d.makeDirs ps).2 := by
  induction ps with
  | nil => exact Within.refl made places d
  | cons p above ih =>
    have habove := ih fun q hq => h q (List.mem_cons_of_mem _ hq)
    rw [makeDirs]
    split
    · exact Within.refl made places d
    · next hp =>
      have hplace := h p List.mem_cons_self hp
      split
      · next hmade => exact within_of_makeDir hmade hplace
      · split
        · next hrest => rw [hrest] at habove; exact habove
        · next d' hrest =>
          rw [hrest] at habove
          split
          · next hmade =>
            refine habove.trans (within_of_makeDir hmade ?_)
            rwa [locate_congr habove.here]
          · exact habove
      · exact Within.refl made places d

end Within

theorem here_makeDirs (d : Disk) (ps : List Path) : (d.makeDirs ps).2.here = d.here := by
  have hwithin : Within (fun _ => True) [] d (d.makeDirs ps).2 :=
    within_makeDirs fun _ _ _ => .inl trivial
  exact hwithin.here

/-! ## The way to a directory -/

/-- The second disk is the first one with directories made on the way to a location. -/
structure Paved (top : Location) (d d' : Disk) : Prop where
  here : d'.here = d.here
  get? : ∀ k, d'.get? k = d.get? k ∨
    (isUnder k top = true ∧ d.get? k = none ∧ d'.get? k = some .directory)

/-- There is a directory that a path without a flaw leads to. -/
def Reaches (d : Disk) (p : Path) : Prop :=
  p.flaw? = none ∧ d.get? (d.locate p) = some .directory

theorem reaches_of_isDirectory {d : Disk} {p : Path} (h : d.isDirectory p = true) :
    d.Reaches p := by
  unfold isDirectory at h
  split at h
  · next l hfind =>
    obtain ⟨rfl, hl⟩ := find_ok hfind
    exact ⟨flaw?_of_find_ok hfind, hl⟩
  · cases h

theorem reaches_of_makeDir {d d' : Disk} {p : Path} (h : d.makeDir p = .ok d') :
    d'.Reaches p := by
  obtain ⟨hflaw, -, hsets⟩ := makeDir_ok h
  refine ⟨hflaw, ?_⟩
  rw [locate_congr hsets.here, hsets.get?, if_pos rfl]

/-- When a directory could be made together with those above it, it is there. -/
theorem reaches_of_makeDirs {d : Disk} {p : Path} {above : List Path} (hp : p.spelling ≠ [])
    (h : (d.makeDirs (p :: above)).1 = .ok ()) : (d.makeDirs (p :: above)).2.Reaches p := by
  rw [makeDirs, if_neg hp] at h ⊢
  split at h
  · next hok => exact reaches_of_makeDir hok
  · split at h
    · cases h
    · split at h
      · next hok => exact reaches_of_makeDir hok
      · split at h
        · next hdir => exact reaches_of_isDirectory hdir
        · cases h
  · split at h
    · next hdir => exact reaches_of_isDirectory hdir
    · cases h

theorem reaches_of_makeDirs_ancestors {d : Disk} {p : Path} (hp : p.spelling ≠ [])
    (h : (d.makeDirs p.ancestors).1 = .ok ()) : (d.makeDirs p.ancestors).2.Reaches p := by
  obtain ⟨above, habove⟩ := p.ancestors_eq_cons
  rw [habove] at h ⊢
  exact reaches_of_makeDirs hp h

/-- Making a directory with those above it, by a path that does not go up, paves the way to it. -/
theorem paved_makeDirs_ancestors (d : Disk) {p : Path} (hup : .up ∉ p.steps) :
    Paved (d.locate p) d (d.makeDirs p.ancestors).2 := by
  have hwithin : Within (fun k => isUnder k (d.locate p) = true) [] d (d.makeDirs p.ancestors).2 :=
    within_makeDirs fun _ hq hne =>
      .inl (isUnder_of_leadsTo d (Path.leadsTo_of_mem_ancestors hq) hne hup)
  exact ⟨hwithin.here, fun k => hwithin.get? k nofun⟩

/-- Where something has a place, making it does not fail because something above is missing. -/
theorem makeDir_ne_notFound {d : Disk} {p : Path} {l : Location} {n : Option Text}
    (h : d.place p = .ok (l, n)) : d.makeDir p ≠ .error .notFound := by
  intro hmissing
  unfold makeDir at hmissing
  rw [h] at hmissing
  cases n with
  | none => cases hmissing
  | some n =>
    change (child l n >>= fun m => _) = _ at hmissing
    unfold child at hmissing
    split at hmissing
    · cases hmissing
    · change (if _ then _ else _) = _ at hmissing
      split at hmissing <;> cases hmissing

/-- A directory that is there need not be made. -/
theorem makeDirs_of_find_ok {d : Disk} {p : Path} {l : Location}
    (h : d.find p = .ok (l, .directory)) (above : List Path) :
    d.makeDirs (p :: above) = (.ok (), d) := by
  have hthere : d.isDirectory p = true := by rw [isDirectory, h]
  obtain ⟨m, n, hplace⟩ := place_of_find_ok h
  obtain ⟨rfl, hdir⟩ := find_ok h
  rw [makeDirs]
  split
  · rfl
  · split
    · next d' hmade =>
      rw [(makeDir_ok hmade).2.1] at hdir
      cases hdir
    · next hmissing => exact absurd hmissing (makeDir_ne_notFound hplace)
    · rfl

/-! ## Directories carried over -/

theorem removeTree_ok {d d' : Disk} {p : Path} (h : d.removeTree p = .ok d') :
    d.get? (d.locate p) = some .directory ∧ d' = d.clear (d.locate p) := by
  obtain ⟨⟨l, data | -⟩, hfind, h⟩ := bind_eq_ok_iff.1 h
  · cases h
  · obtain ⟨rfl, hl⟩ := find_ok hfind
    exact ⟨hl, (Except.ok.inj h).symm⟩

theorem moveDirectory_ok {d d' : Disk} {l m : Location} (h : d.moveDirectory l m = .ok d')
    (hroom : d.hasRoom m = true) (hlm : isUnder l m = false) (hml : isUnder m l = false) :
    d.canMove l m = true ∧ d' = d.move l m := by
  have hne : l ≠ m := by
    intro heq
    rw [heq, isUnder_self] at hlm
    cases hlm
  refine ⟨canMove_iff.2 ⟨hroom, hlm, hml⟩, ?_⟩
  rw [moveDirectory, if_neg hne, if_neg (by simp [hlm])] at h
  split at h
  · cases h
  · split at h
    · exact (Except.ok.inj h).symm
    · cases h
  · exact (Except.ok.inj h).symm

/-- What is renamed gets a name. -/
theorem getLast?_steps_of_rename {d d' : Disk} {p q : Path} (h : d.rename p q = .ok d') :
    ∃ n, q.steps.getLast? = some (.name n) := by
  obtain ⟨⟨l, e⟩, -, h⟩ := bind_eq_ok_iff.1 h
  obtain ⟨⟨k, n | n⟩, hplace, h⟩ := bind_eq_ok_iff.1 h
  · cases h
  · obtain ⟨-, -, hlast, -⟩ := place_ok hplace
    exact ⟨n, hlast⟩

/-- A directory that got another path has a proper name there. -/
theorem rename_ok {d d' : Disk} {p q : Path} (h : d.rename p q = .ok d')
    (hp : d.get? (d.locate p) = some .directory) : q.flaw? = none ∧
      (∃ n, q.steps.getLast? = some (.name n)) ∧ d.hasRoom (d.locate q) = true ∧
      d.moveDirectory (d.locate p) (d.locate q) = .ok d' := by
  obtain ⟨⟨l, e⟩, hfind, h⟩ := bind_eq_ok_iff.1 h
  obtain ⟨rfl, hl⟩ := find_ok hfind
  obtain rfl := Option.some.inj (hl.symm.trans hp)
  obtain ⟨⟨k, n | n⟩, hplace, h⟩ := bind_eq_ok_iff.1 h
  · cases h
  · obtain ⟨m, hchild, h⟩ := bind_eq_ok_iff.1 h
    obtain ⟨rfl, hroom⟩ := hasRoom_of_place hplace hchild
    obtain ⟨hflaw, -, hlast, -⟩ := place_ok hplace
    exact ⟨hflaw, ⟨n, hlast⟩, hroom, h⟩

end GuideBundles.Disk
