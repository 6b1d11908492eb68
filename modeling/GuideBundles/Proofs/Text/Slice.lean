/-
# `Proofs.Text.Slice` — pieces of a text between byte offsets

A byte offset cuts a text if a character ends there; in the middle of a character it does not.
`slice?_eq_some_iff` says that the piece between two offsets is what has as many bytes in front of
it as the first one says and as many up to its end as the second one says.
-/
import GuideBundles.Text.Basic

namespace GuideBundles.Text

/-- A text in two parts, the first of which has `n` bytes. -/
def cutAt? : Nat → Text → Option (Text × Text)
  | 0, t => some ([], t)
  | _ + 1, [] => none
  | n + 1, c :: t =>
    if c.utf8Size ≤ n + 1 then (cutAt? (n + 1 - c.utf8Size) t).map fun p => (c :: p.1, p.2)
    else none

/-- The piece of a text between two byte offsets. -/
def slice? (start stop : Nat) (t : Text) : Option Text :=
  (cutAt? stop t).bind fun p => (cutAt? start p.1).map Prod.snd

theorem size_eq_zero_iff {t : Text} : size t = 0 ↔ t = [] := by
  cases t with
  | nil => simp
  | cons c t =>
    have := c.utf8Size_pos
    simp only [size_cons, reduceCtorEq, iff_false]
    omega

theorem cutAt?_append (front back : Text) : cutAt? (size front) (front ++ back) =
    some (front, back) := by
  induction front with
  | nil => simp [cutAt?]
  | cons c front ih =>
    obtain ⟨n, hn⟩ : ∃ n, size (c :: front) = n + 1 :=
      Nat.exists_eq_succ_of_ne_zero fun h => by simpa using size_eq_zero_iff.1 h
    have hle : c.utf8Size ≤ n + 1 := by rw [← hn, size_cons]; omega
    have hsub : n + 1 - c.utf8Size = size front := by rw [← hn, size_cons]; omega
    rw [hn, List.cons_append, cutAt?, if_pos hle, hsub, ih]
    rfl

theorem cutAt?_eq_some_iff {n : Nat} {t front back : Text} :
    cutAt? n t = some (front, back) ↔ t = front ++ back ∧ size front = n := by
  constructor
  · intro h
    fun_induction cutAt? n t generalizing front back with
    | case1 t =>
      cases h
      exact ⟨rfl, rfl⟩
    | case2 n => cases h
    | case3 n c t hle ih =>
      obtain ⟨⟨f, b⟩, hp, heq⟩ := Option.map_eq_some_iff.1 h
      cases heq
      obtain ⟨rfl, hsize⟩ := ih hp
      refine ⟨rfl, ?_⟩
      rw [size_cons, hsize]
      omega
    | case4 n c t hgt => cases h
  · rintro ⟨rfl, rfl⟩
    exact cutAt?_append front back

/-- What stands between two offsets. -/
theorem slice?_eq_some_iff {start stop : Nat} {t u : Text} :
    slice? start stop t = some u ↔
      ∃ front back, t = front ++ u ++ back ∧ size front = start ∧ size (front ++ u) = stop := by
  constructor
  · intro h
    obtain ⟨⟨p, back⟩, hp, hu⟩ := Option.bind_eq_some_iff.1 h
    obtain ⟨⟨front, _⟩, hq, rfl⟩ := Option.map_eq_some_iff.1 hu
    obtain ⟨rfl, hstop⟩ := cutAt?_eq_some_iff.1 hp
    obtain ⟨rfl, hstart⟩ := cutAt?_eq_some_iff.1 hq
    exact ⟨front, back, rfl, hstart, hstop⟩
  · rintro ⟨front, back, rfl, rfl, rfl⟩
    have hcut := cutAt?_append front u
    rw [slice?, cutAt?_append (front ++ u) back, Option.bind_some, hcut]
    rfl

theorem slice?_append (front u back : Text) :
    slice? (size front) (size (front ++ u)) (front ++ u ++ back) = some u :=
  slice?_eq_some_iff.2 ⟨front, back, rfl, rfl, rfl⟩

end GuideBundles.Text
