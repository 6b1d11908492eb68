/-
# `Proofs.Text.Offsets` — byte offsets in a text

An offset is a boundary if a character ends there or the text begins.  `isSome_slice?_iff` says that
between two offsets there is a piece exactly when both are boundaries, the first one not behind the
second.  A byte right before a boundary is the last byte of a character, and the bytes of characters
beyond ASCII are never taken for others.
-/
import GuideBundles.Proofs.Text.Bytes
import GuideBundles.Proofs.Text.Slice

namespace GuideBundles.Text

/-! ## Boundaries -/

/-- Whether a text can be cut at a byte offset. -/
def IsBoundary (n : Nat) (t : Text) : Prop := ∃ front back, t = front ++ back ∧ size front = n

theorem IsBoundary.le_size {n : Nat} {t : Text} (h : IsBoundary n t) : n ≤ size t := by
  obtain ⟨front, back, rfl, rfl⟩ := h
  rw [size_append]
  exact Nat.le_add_right _ _

/-- There is a piece between two offsets exactly when the text can be cut at both, in this order. -/
theorem isSome_slice?_iff {start stop : Nat} {t : Text} : (slice? start stop t).isSome = true ↔
    start ≤ stop ∧ stop ≤ size t ∧ IsBoundary start t ∧ IsBoundary stop t := by
  rw [Option.isSome_iff_exists]
  constructor
  · rintro ⟨u, hu⟩
    obtain ⟨front, back, rfl, rfl, rfl⟩ := slice?_eq_some_iff.1 hu
    have hstop : IsBoundary (size (front ++ u)) (front ++ u ++ back) := ⟨_, _, rfl, rfl⟩
    refine ⟨?_, hstop.le_size, ⟨front, u ++ back, List.append_assoc .., rfl⟩, hstop⟩
    rw [size_append]
    exact Nat.le_add_right _ _
  · rintro ⟨hle, -, ⟨front, back, rfl, rfl⟩, ⟨front', back', ht, rfl⟩⟩
    rcases List.append_eq_append_iff.1 ht with ⟨u, rfl, -⟩ | ⟨u, rfl, rfl⟩
    · exact ⟨u, slice?_eq_some_iff.2 ⟨front, back', ht, rfl, rfl⟩⟩
    · -- The first offset is not behind the second one, so nothing is between them.
      have hnil : u = [] := by
        rw [size_append] at hle
        exact size_eq_zero_iff.1 (by omega)
      subst hnil
      exact ⟨[], slice?_eq_some_iff.2 ⟨front', back, by simp, by simp, by simp⟩⟩

/-! ## Bytes -/

variable {c d : Char}

theorem toNat_toUInt8 (hd : d.toNat < 0x80) : d.toUInt8.toNat = d.toNat := by
  have h : d.toUInt8.toNat = d.toNat % 256 := rfl
  omega

/-- All bytes behind the first one lie beyond ASCII. -/
theorem le_of_mem_digits {k v : Nat} {b : UInt8} (h : b ∈ digits k v) : 0x80 ≤ b.toNat := by
  induction k with
  | zero => cases h
  | succ k ih =>
    rcases List.mem_cons.1 h with rfl | h
    · rw [UInt8.toNat_ofNat']
      omega
    · exact ih h

/-- An ASCII byte is one of an ASCII character, which has no other. -/
theorem toUInt8_mem_utf8EncodeChar_iff (hd : d.toNat < 0x80) :
    d.toUInt8 ∈ String.utf8EncodeChar c ↔ c = d := by
  have hbound := toNat_lt c
  have hbyte := toNat_toUInt8 hd
  rw [utf8EncodeChar_eq, List.mem_cons]
  constructor
  · rintro (h | h)
    · have hfirst : d.toNat = firstByte c.toNat := by
        rw [← hbyte, h, UInt8.toNat_ofNat', Nat.mod_eq_of_lt (firstByte_lt hbound)]
      refine Char.toNat_inj.1 ?_
      rcases form_cases c.toNat with ⟨_, _, hv⟩ | ⟨_, _, _, hv⟩ | ⟨_, _, _, hv⟩ | ⟨_, _, hv⟩ <;>
        omega
    · have := le_of_mem_digits h
      omega
  · rintro rfl
    refine .inl (UInt8.toNat_inj.1 ?_)
    have hfirst : firstByte c.toNat = c.toNat := if_pos (by omega)
    rw [hbyte, hfirst, UInt8.toNat_ofNat']
    omega

theorem utf8EncodeChar_of_lt (hd : d.toNat < 0x80) : String.utf8EncodeChar d = [d.toUInt8] := by
  have hlength : (String.utf8EncodeChar d).length = 1 := by
    rw [utf8EncodeChar_eq, followers, if_pos (by omega)]
    rfl
  obtain ⟨b, hb⟩ := List.length_eq_one_iff.1 hlength
  have hmem := (toUInt8_mem_utf8EncodeChar_iff (c := d) hd).2 rfl
  rw [hb] at hmem ⊢
  rw [List.mem_singleton.1 hmem]

theorem bytes_append (s t : Text) : bytes (s ++ t) = bytes s ++ bytes t := by
  induction s with
  | nil => rfl
  | cons c s ih => rw [List.cons_append, bytes_cons, bytes_cons, ih, List.append_assoc]

theorem length_bytes (t : Text) : (bytes t).length = size t := by
  induction t with
  | nil => rfl
  | cons c t ih => rw [bytes_cons, List.length_append, ih, String.length_utf8EncodeChar, size_cons]

/-- The bytes that a text begins with are told by its characters. -/
theorem length_takeWhile_bytes (hd : d.toNat < 0x80) (t : Text) :
    ((bytes t).takeWhile (· == d.toUInt8)).length = (t.takeWhile (· == d)).length := by
  induction t with
  | nil => rfl
  | cons c t ih =>
    rw [bytes_cons]
    by_cases hc : c = d
    · subst hc
      simp [utf8EncodeChar_of_lt hd, ih]
    · have hnone : d.toUInt8 ∉ String.utf8EncodeChar c := fun h =>
        hc ((toUInt8_mem_utf8EncodeChar_iff hd).1 h)
      obtain ⟨b, bs, hbytes⟩ : ∃ b bs, String.utf8EncodeChar c = b :: bs :=
        ⟨_, _, utf8EncodeChar_eq c⟩
      have hb : b ≠ d.toUInt8 := fun h => hnone (by rw [hbytes, h]; exact List.mem_cons_self)
      simp [hbytes, hb, hc]

/-- There is a byte right before a boundary, and it is an ASCII byte if the character there is. -/
theorem exists_byte_before (hd : d.toNat < 0x80) {front : Text} (hne : front ≠ []) (back : Text) :
    ∃ b, (bytes (front ++ back))[size front - 1]? = some b ∧
      (b = d.toUInt8 ↔ front.getLast? = some d) := by
  obtain ⟨u, c, rfl⟩ : ∃ u c, front = u ++ [c] := ⟨_, _, (List.dropLast_concat_getLast hne).symm⟩
  obtain ⟨bs, b, hbs⟩ : ∃ bs b, String.utf8EncodeChar c = bs ++ [b] := by
    have hbytes : String.utf8EncodeChar c ≠ [] := by
      rw [utf8EncodeChar_eq]
      exact List.cons_ne_nil _ _
    exact ⟨_, _, (List.dropLast_concat_getLast hbytes).symm⟩
  have hfront : bytes (u ++ [c]) = (bytes u ++ bs) ++ [b] := by
    have hnil : bytes [] = [] := rfl
    rw [bytes_append, bytes_cons, hbs, hnil, List.append_nil, List.append_assoc]
  have hsize : size (u ++ [c]) - 1 = (bytes u ++ bs).length := by
    rw [← length_bytes, hfront, List.length_append, List.length_singleton, Nat.add_sub_cancel]
  refine ⟨b, ?_, ?_⟩
  · rw [bytes_append, hfront, hsize, List.append_assoc _ [b]]
    exact List.getElem?_append_right (Nat.le_refl _) |>.trans (by simp)
  · rw [List.getLast?_concat, Option.some.injEq]
    constructor
    · rintro rfl
      refine (toUInt8_mem_utf8EncodeChar_iff hd).1 ?_
      simp [hbs]
    · rintro rfl
      have hone := (utf8EncodeChar_of_lt hd).symm.trans hbs
      have hlast := congrArg List.getLast? hone
      rw [List.getLast?_concat] at hlast
      exact (Option.some.inj hlast).symm

end GuideBundles.Text
