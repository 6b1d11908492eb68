/-
# `Proofs.Text.Bytes` — the order of texts is the order of their bytes

A character takes a first byte, which tells how many others follow, and the digits of its code point
in base sixty-four.  Of two characters the one with the smaller code point has the smaller first
byte, or the first digit in which they differ is smaller; what follows does not matter.  So texts
are in order when their UTF-8 forms are.
-/
import GuideBundles.Proofs.Text.Order
import GuideBundles.Text.Bytes
import Mathlib.Algebra.Group.Nat.Defs

namespace GuideBundles.Text

/-- The bytes of the UTF-8 form of a text, in order. -/
def bytes (t : Text) : List UInt8 := t.toBytes.data.toList

/-- Whether the bytes of the first text come before those of the second one. -/
def Precedes (s t : Text) : Prop := s.bytes < t.bytes

/-! ## One character -/

/-- How many bytes follow the first one of a code point. -/
def followers (v : Nat) : Nat :=
  if v ≤ 0x7F then 0 else if v ≤ 0x7FF then 1 else if v ≤ 0xFFFF then 2 else 3

/-- The first byte of a code point. -/
def firstByte (v : Nat) : Nat :=
  if v ≤ 0x7F then v
  else if v ≤ 0x7FF then v / 0x40 + 0xC0
  else if v ≤ 0xFFFF then v / 0x1000 + 0xE0
  else v / 0x40000 + 0xF0

/-- The last digits of a code point, each in a byte. -/
def digits : Nat → Nat → List UInt8
  | 0, _ => []
  | k + 1, v => UInt8.ofNat (v / 64 ^ k % 64 + 0x80) :: digits k v

/-- The four forms of a character. -/
theorem form_cases (v : Nat) :
    (v ≤ 0x7F ∧ followers v = 0 ∧ firstByte v = v) ∨
    (0x7F < v ∧ v ≤ 0x7FF ∧ followers v = 1 ∧ firstByte v = v / 64 ^ 1 + 0xC0) ∨
    (0x7FF < v ∧ v ≤ 0xFFFF ∧ followers v = 2 ∧ firstByte v = v / 64 ^ 2 + 0xE0) ∨
    (0xFFFF < v ∧ followers v = 3 ∧ firstByte v = v / 64 ^ 3 + 0xF0) := by
  unfold followers firstByte
  split
  · simp; omega
  · split
    · simp; omega
    · split <;> simp <;> omega

theorem toNat_lt (c : Char) : c.toNat < 0x110000 := by
  rcases c.valid with hc | ⟨-, hc⟩
  · exact Nat.lt_trans hc (by decide)
  · exact hc

theorem utf8EncodeChar_eq (c : Char) : String.utf8EncodeChar c =
    UInt8.ofNat (firstByte c.toNat) :: digits (followers c.toNat) c.toNat := by
  have hbound := toNat_lt c
  simp only [String.utf8EncodeChar, firstByte, followers]
  rw [show c.val.toNat = c.toNat from rfl]
  split
  · rfl
  · split
    · rw [Nat.mod_eq_of_lt (by omega : c.toNat / 64 < 32)]
      simp [digits]
    · split
      · rw [Nat.mod_eq_of_lt (by omega : c.toNat / 4096 < 16)]
        simp [digits]
      · rw [Nat.mod_eq_of_lt (by omega : c.toNat / 262144 < 8)]
        simp [digits]

theorem firstByte_lt {v : Nat} (h : v < 0x110000) : firstByte v < 256 := by
  rcases form_cases v with ⟨_, _, hv⟩ | ⟨_, _, _, hv⟩ | ⟨_, _, _, hv⟩ | ⟨_, _, hv⟩ <;> omega

/-- A smaller code point has a smaller first byte, or the same with as many bytes behind it. -/
theorem firstByte_lt_or {v w : Nat} (h : v < w) : firstByte v < firstByte w ∨
    firstByte v = firstByte w ∧ followers v = followers w ∧
      v / 64 ^ followers v = w / 64 ^ followers v := by
  rcases form_cases v with ⟨_, hk, hv⟩ | ⟨_, _, hk, hv⟩ | ⟨_, _, hk, hv⟩ | ⟨_, hk, hv⟩ <;>
    rcases form_cases w with ⟨_, hk', hw⟩ | ⟨_, _, hk', hw⟩ | ⟨_, _, hk', hw⟩ | ⟨_, hk', hw⟩ <;>
    rw [hk, hk', hv, hw] <;> omega

theorem ofNat_lt_ofNat_iff {m n : Nat} (hm : m < 256) (hn : n < 256) :
    UInt8.ofNat m < UInt8.ofNat n ↔ m < n := by
  rw [UInt8.lt_iff_toNat_lt, UInt8.toNat_ofNat', UInt8.toNat_ofNat', Nat.mod_eq_of_lt hm,
    Nat.mod_eq_of_lt hn]

/-- What is in front of the last digits being the same, the smaller number has the smaller
digits. -/
theorem digits_append_lt {k v w : Nat} (h : v < w) (hsame : v / 64 ^ k = w / 64 ^ k)
    (x y : List UInt8) : digits k v ++ x < digits k w ++ y := by
  induction k with
  | zero =>
    simp only [Nat.pow_zero, Nat.div_one] at hsame
    omega
  | succ k ih =>
    have hle : v / 64 ^ k ≤ w / 64 ^ k := Nat.div_le_div_right (Nat.le_of_lt h)
    have hfront : v / 64 ^ k / 64 = w / 64 ^ k / 64 := by
      rwa [Nat.div_div_eq_div_mul, Nat.div_div_eq_div_mul, ← Nat.pow_succ]
    rw [digits, digits, List.cons_append, List.cons_append, List.cons_lt_cons_iff,
      ofNat_lt_ofNat_iff (by omega) (by omega)]
    by_cases heq : v / 64 ^ k = w / 64 ^ k
    · exact .inr ⟨by rw [heq], ih heq⟩
    · exact .inl (by omega)

theorem utf8EncodeChar_append_lt {c d : Char} (h : c.toNat < d.toNat) (x y : List UInt8) :
    String.utf8EncodeChar c ++ x < String.utf8EncodeChar d ++ y := by
  rw [utf8EncodeChar_eq, utf8EncodeChar_eq, List.cons_append, List.cons_append,
    List.cons_lt_cons_iff,
    ofNat_lt_ofNat_iff (firstByte_lt (toNat_lt c)) (firstByte_lt (toNat_lt d))]
  rcases firstByte_lt_or h with hfirst | ⟨hfirst, hcount, hsame⟩
  · exact .inl hfirst
  · refine .inr ⟨by rw [hfirst], ?_⟩
    rw [← hcount]
    exact digits_append_lt h hsame x y

/-! ## Texts -/

theorem bytes_cons (c : Char) (t : Text) :
    bytes (c :: t) = String.utf8EncodeChar c ++ bytes t := by
  simp [bytes, toBytes, String.toUTF8, List.utf8Encode, String.ofList]

/-- Bytes are those of at most one text. -/
theorem ofBytes?_eq_some_iff {data : ByteArray} {t : Text} :
    ofBytes? data = some t ↔ t.toBytes = data := by
  constructor
  · intro h
    obtain ⟨s, hs, rfl⟩ := Option.map_eq_some_iff.1 h
    unfold String.fromUTF8? at hs
    split at hs
    · obtain rfl := Option.some.inj hs
      rw [toBytes, String.ofList_toList]
      rfl
    · cases hs
  · rintro rfl
    exact ofBytes?_toBytes t

/-- A text starts with a dot when its first byte is that of a dot: no other character has this
byte. -/
theorem head?_bytes_eq_dot_iff {t : Text} : t.bytes.head? = some 0x2E ↔ t.head? = some '.' := by
  cases t with
  | nil => simp [bytes, toBytes]
  | cons c t =>
    rw [bytes_cons, utf8EncodeChar_eq, List.cons_append, List.head?_cons, List.head?_cons,
      Option.some.injEq, Option.some.injEq]
    constructor
    · intro h
      have hbyte := congrArg UInt8.toNat h
      rw [UInt8.toNat_ofNat', Nat.mod_eq_of_lt (firstByte_lt (toNat_lt c))] at hbyte
      refine Char.toNat_inj.1 (?_ : c.toNat = 0x2E)
      change firstByte c.toNat = 0x2E at hbyte
      rcases form_cases c.toNat with ⟨_, _, hv⟩ | ⟨_, _, _, hv⟩ | ⟨_, _, _, hv⟩ | ⟨_, _, hv⟩ <;>
        omega
    · rintro rfl
      rfl

/-- Different texts in the order of their code points are in the order of their bytes. -/
theorem precedes_of_before {s t : Text} (h : before s t = true) (hne : s ≠ t) : Precedes s t := by
  unfold Precedes
  induction s generalizing t with
  | nil =>
    obtain ⟨d, t, rfl⟩ := List.exists_cons_of_ne_nil hne.symm
    rw [bytes_cons, utf8EncodeChar_eq]
    exact List.nil_lt_cons _ _
  | cons c s ih =>
    cases t with
    | nil => cases h
    | cons d t =>
      rw [bytes_cons, bytes_cons]
      by_cases hcd : c = d
      · subst hcd
        have hbefore : before s t = true := by simpa [before] using h
        exact List.append_left_lt (ih hbefore fun heq => hne (by rw [heq]))
      · have hle : c.toNat ≤ d.toNat := by simpa [before, hcd] using h
        have hdiff : c.toNat ≠ d.toNat := fun heq => hcd (Char.toNat_inj.1 heq)
        exact utf8EncodeChar_append_lt (by omega) _ _

/-- Sorted, texts of which none stands twice increase. -/
theorem pairwise_precedes_mergeSort {ts : List Text} (h : ts.Nodup) :
    (ts.mergeSort before).Pairwise Precedes := by
  have hnodup : (ts.mergeSort before).Nodup := (List.mergeSort_perm ts before).nodup_iff.2 h
  exact ((pairwise_mergeSort ts).and hnodup).imp fun ⟨hbefore, hne⟩ =>
    precedes_of_before hbefore hne

end GuideBundles.Text
