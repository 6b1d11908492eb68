/-
# `Proofs.Path.Steps` — where joined paths and paths above lead

A disk walks a path by its steps.  A name without a slash that is joined to a path is one more
step, and the paths above a path take a first part of its steps.
-/
import GuideBundles.Disk.Walk
import GuideBundles.Proofs.Text.Parts
import Mathlib.Data.List.Infix

namespace GuideBundles

namespace Path

/-! ## Steps -/

theorem stepOf_ne_root (piece : Text) : stepOf piece ≠ .root := by
  unfold stepOf
  split
  · nofun
  · split <;> nofun

theorem stepOf_eq_name_iff {piece n : Text} :
    stepOf piece = .name n ↔ piece = n ∧ n ≠ ['.'] ∧ n ≠ ['.', '.'] := by
  unfold stepOf
  by_cases h₁ : piece = ['.']
  · rw [if_pos h₁]
    exact ⟨nofun, fun h => absurd (h.1 ▸ h₁) h.2.1⟩
  · by_cases h₂ : piece = ['.', '.']
    · rw [if_neg h₁, if_pos h₂]
      exact ⟨nofun, fun h => absurd (h.1 ▸ h₂) h.2.2⟩
    · rw [if_neg h₁, if_neg h₂, Part.name.injEq]
      constructor
      · rintro rfl
        exact ⟨rfl, h₁, h₂⟩
      · exact fun h => h.1

/-- Different pieces are different steps. -/
theorem stepOf_inj {m n : Text} (h : stepOf m = stepOf n) : m = n := by
  unfold stepOf at h
  grind

theorem spelling_ne_nil_of_steps {p : Path} (h : p.steps ≠ []) : p.spelling ≠ [] := by
  intro hp
  exact h (by simp [steps, pieces, hp, Text.splitOn])

theorem root_not_mem_steps (p : Path) : Part.root ∉ p.steps := by
  intro h
  obtain ⟨piece, -, hpiece⟩ := List.mem_map.1 h
  exact stepOf_ne_root piece hpiece

/-- A name on a path is free of slashes and dots alone, and no character of it is missing from the
spelling. -/
theorem of_name_mem_steps {p : Path} {n : Text} (h : .name n ∈ p.steps) :
    n ≠ [] ∧ n ≠ ['.'] ∧ n ≠ ['.', '.'] ∧ '/' ∉ n ∧ ∀ c ∈ n, c ∈ p.spelling := by
  obtain ⟨piece, hpiece, hstep⟩ := List.mem_map.1 h
  obtain ⟨rfl, h₁, h₂⟩ := stepOf_eq_name_iff.1 hstep
  obtain ⟨hmem, hne⟩ := List.mem_filter.1 hpiece
  refine ⟨by simpa using hne, h₁, h₂, fun hs => ?_, fun c hc => (Text.mem_of_mem_splitOn hmem hc).1⟩
  simpa using (Text.mem_of_mem_splitOn hmem hs).2

/-- The parts of a path that are no start are the pieces that name something. -/
theorem map_part_placed (offset : Nat) (pieces : List Text) :
    (placed offset pieces).map Placed.part = pieces.filterMap part? := by
  induction pieces generalizing offset with
  | nil => rfl
  | cons piece rest ih =>
    rw [placed, List.filterMap_cons]
    cases part? piece with
    | none => exact ih _
    | some part => rw [List.map_cons, ih]

theorem part?_eq_some_iff {piece : Text} {part : Part} : part? piece = some part ↔
    piece ≠ [] ∧ piece ≠ ['.'] ∧ stepOf piece = part := by
  unfold part? stepOf
  by_cases h₁ : piece = []
  · simp [h₁]
  · by_cases h₂ : piece = ['.']
    · simp [h₂]
    · by_cases h₃ : piece = ['.', '.'] <;> simp [h₁, h₂, h₃]

/-- The parts of a path besides a dot at its start are among its steps. -/
theorem mem_parts_iff {p : Path} {part : Part} (hroot : part ≠ .root) (hhere : part ≠ .here) :
    part ∈ p.parts ↔ part ∈ p.steps := by
  have hfound : part ∈ (placed 0 p.pieces).map Placed.part ↔ part ∈ p.steps := by
    rw [map_part_placed, List.mem_filterMap, steps, List.mem_map]
    refine exists_congr fun piece => ?_
    rw [part?_eq_some_iff, List.mem_filter]
    constructor
    · rintro ⟨hm, hne, -, hstep⟩
      exact ⟨⟨hm, by simpa using hne⟩, hstep⟩
    · rintro ⟨⟨hm, hne⟩, hstep⟩
      refine ⟨hm, by simpa using hne, ?_, hstep⟩
      rintro rfl
      exact hhere hstep.symm
  rw [← hfound, parts, places]
  split
  · simp [hroot]
  · split <;> simp [hhere]

/-- A path without a part that goes up has no step that does. -/
theorem up_not_mem_steps {p : Path} (h : .up ∉ p.parts) : .up ∉ p.steps :=
  fun hmem => h ((mem_parts_iff (by simp) (by simp)).2 hmem)

/-- A path ends with a file name when that is its last part. -/
theorem of_fileName? {p : Path} {n : Text} (h : p.fileName? = some n) :
    n ≠ [] ∧ n ≠ ['.'] ∧ n ≠ ['.', '.'] ∧ '/' ∉ n := by
  have hm : .name n ∈ p.parts := by
    unfold fileName? at h
    split at h
    · next m hlast =>
      obtain rfl := Option.some.inj h
      exact List.mem_of_getLast? hlast
    · cases h
  obtain ⟨h₀, h₁, h₂, hs, -⟩ := of_name_mem_steps ((mem_parts_iff (by simp) (by simp)).1 hm)
  exact ⟨h₀, h₁, h₂, hs⟩

/-! ## Joining -/

/-- What stands in front of a text that is joined to a path. -/
def front (p : Path) : Text :=
  match p.spelling.getLast? with
  | none => []
  | some '/' => p.spelling
  | some _ => p.spelling ++ ['/']

/-- A text that is not absolute is joined behind the front. -/
theorem join_eq (p : Path) {t : Text} (h : t.head? ≠ some '/') : p.join t = ⟨p.front ++ t⟩ := by
  unfold join front
  rw [if_neg h]
  cases p.spelling.getLast? with
  | none => rfl
  | some c => by_cases hc : c = '/' <;> simp [hc]

theorem head?_ne_of_not_mem {t : Text} {c : Char} (h : c ∉ t) : t.head? ≠ some c :=
  fun heq => h (List.mem_of_head? heq)

/-- The pieces of a joined text stand last, and in front of them those of the path, up to empty
ones. -/
theorem exists_pieces_join (p : Path) {t : Text} (h : t.head? ≠ some '/') :
    ∃ before, (p.join t).pieces = before ++ pieces ⟨t⟩ ∧
      before.filter (· ≠ []) = p.pieces.filter (· ≠ []) := by
  rw [join_eq p h, front]
  cases hlast : p.spelling.getLast? with
  | none =>
    have hp : p.spelling = [] := List.getLast?_eq_none_iff.1 hlast
    exact ⟨[], rfl, by simp [pieces, hp, Text.splitOn]⟩
  | some c =>
    obtain ⟨u, hu⟩ := List.getLast?_eq_some_iff.1 hlast
    by_cases hc : c = '/'
    · subst hc
      refine ⟨Text.splitOn (· == '/') u, ?_, ?_⟩
      · simp only [pieces, hu, List.append_assoc, List.singleton_append]
        exact Text.splitOn_append_sep rfl u t
      · rw [pieces, hu, Text.splitOn_append_sep rfl]
        simp [Text.splitOn]
    · refine ⟨p.pieces, ?_, rfl⟩
      simp only [pieces, List.append_assoc, List.singleton_append]
      exact Text.splitOn_append_sep rfl p.spelling t

/-- The steps of a joined text follow those of the path. -/
theorem steps_join_relative (p : Path) {t : Text} (h : t.head? ≠ some '/') :
    (p.join t).steps = p.steps ++ steps ⟨t⟩ := by
  obtain ⟨before, hpieces, hbefore⟩ := exists_pieces_join p h
  rw [steps, hpieces, List.filter_append, hbefore, List.map_append]
  rfl

/-- A name is a single piece. -/
theorem pieces_name {n : Text} (hs : '/' ∉ n) : pieces ⟨n⟩ = [n] := Text.splitOn_of_not_mem hs

theorem steps_name {n : Text} (hn : n ≠ []) (hs : '/' ∉ n) : steps ⟨n⟩ = [stepOf n] := by
  simp [steps, pieces_name hs, hn]

theorem steps_join (p : Path) {n : Text} (hn : n ≠ []) (hs : '/' ∉ n) :
    (p.join n).steps = p.steps ++ [stepOf n] := by
  rw [steps_join_relative p (head?_ne_of_not_mem hs), steps_name hn hs]

theorem isAbsolute_join_relative (p : Path) {t : Text} (h : t.head? ≠ some '/') :
    (p.join t).isAbsolute = p.isAbsolute := by
  unfold join
  rw [if_neg h]
  cases hp : p.spelling with
  | nil => simpa [isAbsolute, hp] using h
  | cons c u =>
    cases hlast : (c :: u).getLast? with
    | none => simp at hlast
    | some d => by_cases hd : d = '/' <;> simp [isAbsolute, hp, hd]

theorem isAbsolute_join (p : Path) {n : Text} (hs : '/' ∉ n) :
    (p.join n).isAbsolute = p.isAbsolute :=
  isAbsolute_join_relative p (head?_ne_of_not_mem hs)

theorem endsWithSlash_join (p : Path) {n : Text} (hn : n ≠ []) (hs : '/' ∉ n) :
    (p.join n).endsWithSlash = false := by
  obtain ⟨t, c, rfl⟩ : ∃ t c, n = t ++ [c] :=
    ⟨_, _, (List.dropLast_concat_getLast hn).symm⟩
  have hc : c ≠ '/' := by
    rintro rfl
    exact hs (by simp)
  rw [endsWithSlash, join_eq p (head?_ne_of_not_mem hs), ← List.append_assoc, List.getLast?_concat]
  simpa using hc

/-! ## Paths above -/

/-- Pieces up to the end of a placed part are read from the spelling up to there. -/
theorem splitOn_take_stop {sep : Char → Bool} {x : Placed} {ps : List Text} {t : Text} {o : Nat}
    (hps : Text.splitOn sep t = ps) (hx : x ∈ placed o ps) :
    o ≤ x.stop ∧ Text.splitOn sep (t.take (x.stop - o)) <+: ps := by
  induction ps generalizing t o with
  | nil => cases hx
  | cons piece rest ih =>
    have hpiece : Text.splitOn sep piece = [piece] :=
      Text.splitOn_of_mem_splitOn (t := t) (by simp [hps])
    have hhead : Text.splitOn sep (t.take piece.length) <+: piece :: rest := by
      rcases Text.splitOn_eq_cons hps with ⟨rfl, rfl⟩ | ⟨c, u, -, rfl, -⟩
      · simp [hpiece]
      · simp [hpiece]
    have htail : x ∈ placed (o + piece.length + 1) rest →
        o ≤ x.stop ∧ Text.splitOn sep (t.take (x.stop - o)) <+: piece :: rest := by
      intro hx
      rcases Text.splitOn_eq_cons hps with ⟨rfl, rfl⟩ | ⟨c, u, hc, rfl, hu⟩
      · cases hx
      obtain ⟨hle, hpre⟩ := ih hu hx
      have htake : (piece ++ c :: u).take (x.stop - o)
          = piece ++ c :: u.take (x.stop - (o + piece.length + 1)) := by
        have : x.stop - o = piece.length + (x.stop - (o + piece.length + 1) + 1) := by omega
        rw [this, List.take_length_add_append, List.take_succ_cons]
      refine ⟨by omega, ?_⟩
      rw [htake, Text.splitOn_append_sep hc, hpiece]
      simpa using hpre
    rw [placed] at hx
    cases hpart : part? piece with
    | none => exact htail (by simpa [hpart] using hx)
    | some part =>
      simp only [hpart, List.mem_cons] at hx
      rcases hx with rfl | hx
      · simpa using hhead
      · exact htail hx

/-- Whether `q` is read on the way to `p`: its spelling is a first part of the other one, and so are
its steps. -/
def LeadsTo (q p : Path) : Prop := q.spelling <+: p.spelling ∧ q.steps <+: p.steps

theorem LeadsTo.refl (p : Path) : LeadsTo p p := ⟨List.prefix_rfl, List.prefix_rfl⟩

theorem LeadsTo.trans {p q r : Path} (h : LeadsTo p q) (h' : LeadsTo q r) : LeadsTo p r :=
  ⟨h.1.trans h'.1, h.2.trans h'.2⟩

theorem LeadsTo.isAbsolute {p q : Path} (h : LeadsTo q p) (hq : q.spelling ≠ []) :
    q.isAbsolute = p.isAbsolute := by
  obtain ⟨c, t, hct⟩ := List.exists_cons_of_ne_nil hq
  obtain ⟨u, hu⟩ := h.1
  simp [Path.isAbsolute, ← hu, hct]

/-- The spelling of a path up to the end of a part leads to the path. -/
theorem leadsTo_take {p : Path} {b : Placed} (h : b ∈ p.places) :
    LeadsTo ⟨p.spelling.take b.stop⟩ p := by
  refine ⟨List.take_prefix _ _, ?_⟩
  have hfound : b ∈ placed 0 p.pieces → steps ⟨p.spelling.take b.stop⟩ <+: p.steps := by
    intro hb
    have := (splitOn_take_stop rfl hb).2
    exact (this.filter _).map _
  unfold places at h
  split at h
  · next habs =>
    rcases List.mem_cons.1 h with rfl | h
    · have : p.spelling.take 1 = ['/'] := by
        cases hp : p.spelling with
        | nil => simp [Path.isAbsolute, hp] at habs
        | cons c t => simpa [Path.isAbsolute, hp] using habs
      simp [steps, pieces, this, Text.splitOn]
    · exact hfound h
  · split at h
    · next hdot =>
      rcases List.mem_cons.1 h with rfl | h
      · obtain ⟨rest, hrest⟩ := List.head?_eq_some_iff.1 hdot
        have : p.spelling.take 1 = ['.'] := by
          rcases Text.splitOn_eq_cons hrest with ⟨hp, -⟩ | ⟨c, u, -, hp, -⟩ <;> simp [hp]
        have hsteps : p.steps = .here :: (rest.filter fun piece => piece ≠ []).map stepOf := by
          simp [steps, hrest, stepOf]
        rw [hsteps]
        simp [steps, pieces, this, Text.splitOn, stepOf]
      · exact hfound h
    · exact hfound h

theorem leadsTo_of_parent? {p q : Path} (h : p.parent? = some q) : LeadsTo q p := by
  unfold parent? at h
  split at h
  · cases h
  · next last before hrev =>
    split at h
    · cases h
    · split at h
      · obtain rfl := Option.some.inj h
        exact ⟨List.nil_prefix, by simp [steps, pieces, Text.splitOn]⟩
      · next b rest =>
        obtain rfl := Option.some.inj h
        refine leadsTo_take ?_
        rw [← List.mem_reverse, hrev]
        simp

theorem ancestors_eq_cons (p : Path) : ∃ above, p.ancestors = p :: above := by
  unfold ancestors
  cases p.places.length <;> exact ⟨_, rfl⟩

/-- All paths above a path lead to it. -/
theorem leadsTo_of_mem_ancestors {p q : Path} (h : q ∈ p.ancestors) : LeadsTo q p := by
  suffices ∀ n p, q ∈ ancestorsFrom n p → LeadsTo q p from this _ _ h
  intro n
  induction n with
  | zero =>
    intro p h
    rw [ancestorsFrom, List.mem_singleton] at h
    exact h ▸ LeadsTo.refl p
  | succ n ih =>
    intro p h
    rw [ancestorsFrom] at h
    rcases List.mem_cons.1 h with rfl | h
    · exact LeadsTo.refl q
    · cases hp : p.parent? with
      | none => simp [hp] at h
      | some r => exact (ih r (by simpa [hp] using h)).trans (leadsTo_of_parent? hp)

end Path
end GuideBundles
