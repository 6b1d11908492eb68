/-
# `Proofs.Json.Strings` — strings are read as they are spelled

A string is read piece by piece: a character, or half of a surrogate pair.  The pieces of a spelled
text join to that text, and pieces that join come from a spelling, so a string that spells no text
is read as none.
-/
import GuideBundles.Json.Reader
import GuideBundles.Proofs.Json.Grammar

namespace GuideBundles.Json

variable {c e : Char} {n : Nat} {s t u ds : Text} {ps : List Piece}

/-! ## Digits and letters -/

theorem hexDigit?_of_isHexDigit {k : Nat} (h : IsHexDigit c k) :
    Text.hexDigit? c = some k ∧ k < 16 := by
  have hall : ∀ k : Fin 16,
      ((Text.ofString "0123456789abcdef")[k.val]?.bind Text.hexDigit?) = some k.val ∧
      ((Text.ofString "0123456789ABCDEF")[k.val]?.bind Text.hexDigit?) = some k.val := by
    decide
  have hbound {digits : Text} (hlength : digits.length = 16) (hk : digits[k]? = some c) :
      k < 16 := by
    have := (List.getElem?_eq_some_iff.1 hk).1
    omega
  rcases h with h | h
  · have hk := hbound rfl h
    have hvalue := (hall ⟨k, hk⟩).1
    rw [h] at hvalue
    exact ⟨hvalue, hk⟩
  · have hk := hbound rfl h
    have hvalue := (hall ⟨k, hk⟩).2
    rw [h] at hvalue
    exact ⟨hvalue, hk⟩

/-- Four digits are read as the number that they spell. -/
theorem hex4?_of_isUnit (h : IsUnit n ds) :
    ∃ a b c d, ds = [a, b, c, d] ∧ hex4? a b c d = some n ∧ n < 0x10000 := by
  obtain ⟨ha, hb, hc, hd⟩ := h
  obtain ⟨ha, hi⟩ := hexDigit?_of_isHexDigit ha
  obtain ⟨hb, hj⟩ := hexDigit?_of_isHexDigit hb
  obtain ⟨hc, hk⟩ := hexDigit?_of_isHexDigit hc
  obtain ⟨hd, hl⟩ := hexDigit?_of_isHexDigit hd
  refine ⟨_, _, _, _, rfl, ?_, by omega⟩
  simp [hex4?, Text.isHexDigit, Text.valueIn, Text.digitValue, ha, hb, hc, hd]

theorem short?_of_mem (h : (e, c) ∈ shortEscapes) : short? e = some c ∧ e ≠ 'u' := by
  have hall : ∀ p ∈ shortEscapes, short? p.1 = some p.2 ∧ p.1 ≠ 'u' := by decide
  exact hall _ h

theorem toNat_ofNat (h : n.isValidChar) : (Char.ofNat n).toNat = n := by
  rw [Char.ofNat, dif_pos h]
  rfl

/-- The piece with a number is the character with this number, or half of a pair. -/
theorem Piece.ofNat_cases (hn : n < 0x10000) :
    (∃ c, Piece.ofNat n = .char c ∧ c.toNat = n) ∨
      (∃ m, Piece.ofNat n = .high m ∧ n = 0xD800 + m ∧ m < 0x400) ∨
      ∃ m, Piece.ofNat n = .low m ∧ n = 0xDC00 + m ∧ m < 0x400 := by
  unfold Piece.ofNat
  split
  · exact .inr (.inl ⟨_, rfl, by omega, by omega⟩)
  split
  · exact .inr (.inr ⟨_, rfl, by omega, by omega⟩)
  · have hvalid : n.isValidChar := by
      rcases Nat.lt_or_ge n 0xD800 with h | h
      · exact .inl h
      · exact .inr ⟨by omega, by omega⟩
    exact .inl ⟨_, rfl, toNat_ofNat hvalid⟩

theorem Piece.ofNat_high {m : Nat} (hm : m < 0x400) : Piece.ofNat (0xD800 + m) = .high m := by
  rw [Piece.ofNat, if_pos (by omega), Nat.add_sub_cancel_left]

theorem Piece.ofNat_low {m : Nat} (hm : m < 0x400) : Piece.ofNat (0xDC00 + m) = .low m := by
  rw [Piece.ofNat, if_neg (by omega), if_pos (by omega), Nat.add_sub_cancel_left]

theorem Piece.ofNat_toNat (hn : c.toNat < 0x10000) : Piece.ofNat c.toNat = .char c := by
  have hvalid := c.valid
  have hval : c.val.toNat = c.toNat := rfl
  unfold UInt32.isValidChar Nat.isValidChar at hvalid
  rw [hval] at hvalid
  rw [Piece.ofNat, if_neg (by omega), if_neg (by omega), Char.ofNat_toNat]

/-! ## Pieces -/

/-- What a text spells in front of the rest of a string. -/
def ReadAs (u : Text) (ps : List Piece) : Prop :=
  ∀ r, pieces? (u ++ r) = (pieces? r).map fun x => (ps ++ x.1, x.2)

theorem readAs_nil : ReadAs [] [] := by
  intro r
  cases h : pieces? r <;> simp [h]

theorem ReadAs.append {v : Text} {qs : List Piece} (h : ReadAs u ps) (h' : ReadAs v qs) :
    ReadAs (u ++ v) (ps ++ qs) := by
  intro r
  rw [List.append_assoc, h, h', Option.map_map]
  simp [Function.comp_def]

theorem readAs_bare (h : IsBare c) : ReadAs [c] [.char c] := by
  obtain ⟨hcontrol, hquote, hbackslash⟩ := h
  intro r
  rw [List.cons_append, List.nil_append, pieces?]
  · rw [if_neg (by simp [hbackslash]; omega)]
    rfl
  · exact hquote
  · exact fun _ _ _ _ _ hc _ => hbackslash hc
  · exact fun _ _ hc _ => hbackslash hc

theorem readAs_short (h : (e, c) ∈ shortEscapes) : ReadAs ['\\', e] [.char c] := by
  obtain ⟨hshort, he⟩ := short?_of_mem h
  intro r
  rw [List.cons_append, List.cons_append, List.nil_append, pieces?]
  · rw [hshort]
    cases pieces? r <;> rfl
  · exact fun _ _ _ _ _ hu _ => he hu

theorem readAs_unit (h : IsUnit n ds) : ReadAs ('\\' :: 'u' :: ds) [Piece.ofNat n] := by
  obtain ⟨a, b, c, d, rfl, hn, -⟩ := hex4?_of_isUnit h
  intro r
  simp only [List.cons_append, List.nil_append, pieces?, hn]
  cases pieces? r <;> rfl

/-! ## Texts -/

/-- A character is spelled in pieces that join to it, whatever follows them. -/
theorem exists_readAs_of_spellsChar (h : SpellsChar c u) :
    ∃ ps, ReadAs u ps ∧ ∀ qs, Piece.join (ps ++ qs) = (Piece.join qs).map (c :: ·) := by
  cases h with
  | bare h => exact ⟨[.char c], readAs_bare h, fun qs => rfl⟩
  | short h => exact ⟨[.char c], readAs_short h, fun qs => rfl⟩
  | unit h =>
    obtain ⟨-, -, -, -, -, -, hn⟩ := hex4?_of_isUnit h
    refine ⟨[.char c], ?_, fun qs => rfl⟩
    rw [← Piece.ofNat_toNat hn]
    exact readAs_unit h
  | @pair high low ds es hhigh hlow hc hds hes =>
    refine ⟨[.high high, .low low], ?_, fun qs => ?_⟩
    · rw [← Piece.ofNat_high hhigh, ← Piece.ofNat_low hlow]
      exact (readAs_unit hds).append (readAs_unit hes)
    · have hchar : Char.ofNat (0x10000 + high * 0x400 + low) = c := by
        rw [← hc, Char.ofNat_toNat]
      rw [List.cons_append, List.cons_append, List.nil_append, Piece.join, hchar]

theorem exists_readAs_of_spells (h : Spells s t) : ∃ ps, ReadAs t ps ∧ Piece.join ps = some s := by
  induction h with
  | nil => exact ⟨[], readAs_nil, rfl⟩
  | cons hchar _ ih =>
    obtain ⟨ps, hps, hjoin⟩ := exists_readAs_of_spellsChar hchar
    obtain ⟨qs, hqs, hrest⟩ := ih
    refine ⟨ps ++ qs, hps.append hqs, ?_⟩
    rw [hjoin, hrest]
    rfl

/-- A text in pieces: characters spelled by themselves, and units with any numbers. -/
inductive InPieces : List Piece → Text → Prop
  | nil : InPieces [] []
  | char {c : Char} {u t : Text} {ps : List Piece} : SpellsChar c u → InPieces ps t →
      InPieces (.char c :: ps) (u ++ t)
  | unit {n : Nat} {p : Piece} {ds t : Text} {ps : List Piece} : IsUnit n ds → Piece.ofNat n = p →
      InPieces ps t → InPieces (p :: ps) ('\\' :: 'u' :: (ds ++ t))

theorem exists_inPieces_of_isLiteral (h : IsLiteral t) : ∃ ps, ReadAs t ps ∧ InPieces ps t := by
  induction h with
  | nil => exact ⟨[], readAs_nil, .nil⟩
  | bare h _ ih =>
    obtain ⟨ps, hps, hin⟩ := ih
    exact ⟨_, (readAs_bare h).append hps, .char (.bare h) hin⟩
  | short h _ ih =>
    obtain ⟨ps, hps, hin⟩ := ih
    exact ⟨_, (readAs_short h).append hps, .char (.short h) hin⟩
  | unit h _ ih =>
    obtain ⟨ps, hps, hin⟩ := ih
    exact ⟨_, (readAs_unit h).append hps, .unit h rfl hin⟩

theorem spellsChar_of_isUnit (h : IsUnit n ds) (hp : Piece.ofNat n = .char c) :
    SpellsChar c ('\\' :: 'u' :: ds) := by
  obtain ⟨-, -, -, -, -, -, hn⟩ := hex4?_of_isUnit h
  rcases Piece.ofNat_cases hn with ⟨d, hd, rfl⟩ | ⟨m, hm, -⟩ | ⟨m, hm, -⟩
  · obtain rfl := Piece.char.inj (hp.symm.trans hd)
    exact .unit h
  · cases hp.symm.trans hm
  · cases hp.symm.trans hm

/-- Two halves that follow each other spell a character. -/
theorem spellsChar_of_isUnit_pair {m high low : Nat} {es : Text} (hds : IsUnit n ds)
    (hes : IsUnit m es) (hhigh : Piece.ofNat n = .high high) (hlow : Piece.ofNat m = .low low) :
    SpellsChar (Char.ofNat (0x10000 + high * 0x400 + low))
      ('\\' :: 'u' :: (ds ++ '\\' :: 'u' :: es)) := by
  obtain ⟨-, -, -, -, -, -, hn⟩ := hex4?_of_isUnit hds
  obtain ⟨-, -, -, -, -, -, hm⟩ := hex4?_of_isUnit hes
  rcases Piece.ofNat_cases hn with ⟨_, hp, -⟩ | ⟨i, hp, rfl, hi⟩ | ⟨_, hp, -⟩
  · cases hhigh.symm.trans hp
  · rcases Piece.ofNat_cases hm with ⟨_, hq, -⟩ | ⟨_, hq, -⟩ | ⟨j, hq, rfl, hj⟩
    · cases hlow.symm.trans hq
    · cases hlow.symm.trans hq
    · obtain rfl := Piece.high.inj (hhigh.symm.trans hp)
      obtain rfl := Piece.low.inj (hlow.symm.trans hq)
      have hvalid : (0x10000 + high * 0x400 + low).isValidChar := .inr ⟨by omega, by omega⟩
      exact .pair hi hj (toNat_ofNat hvalid) hds hes
  · cases hhigh.symm.trans hp

/-- What joins is a spelling of what it joins to. -/
theorem spells_of_inPieces (hin : InPieces ps t) (hjoin : Piece.join ps = some s) : Spells s t := by
  fun_induction Piece.join ps generalizing s t with
  | case1 =>
    cases hin
    obtain rfl := Option.some.inj hjoin
    exact .nil
  | case2 c ps ih =>
    obtain ⟨s, hs, rfl⟩ := Option.map_eq_some_iff.1 hjoin
    cases hin with
    | char hchar hin => exact .cons hchar (ih hin hs)
    | unit hunit hp hin => exact .cons (spellsChar_of_isUnit hunit hp) (ih hin hs)
  | case3 h l ps ih =>
    obtain ⟨s, hs, rfl⟩ := Option.map_eq_some_iff.1 hjoin
    cases hin with
    | unit hhigh hp hin =>
      cases hin with
      | unit hlow hq hin =>
        simpa using Spells.cons (spellsChar_of_isUnit_pair hhigh hlow hp hq) (ih hin hs)
  | case4 ps _ _ _ => cases hjoin

/-- A string is read to its closing quote, as the text that it spells or as none. -/
theorem phrase?_of_quoted {p : Phrase} (h : Quoted p t) :
    ∃ u, t = '"' :: u ∧ ∀ r, phrase? (u ++ r) = some (p, r) := by
  have hread {u : Text} {ps : List Piece} (h : ReadAs u ps) (r : Text) :
      phrase? (u ++ ['"'] ++ r) = some (Piece.join ps, r) := by
    have hend : pieces? ('"' :: r) = some ([], r) := by rw [pieces?]
    rw [List.append_assoc, phrase?, h, List.singleton_append, hend]
    simp
  cases h with
  | @text s u h =>
    obtain ⟨ps, hps, hjoin⟩ := exists_readAs_of_spells h
    exact ⟨u ++ ['"'], rfl, fun r => hjoin ▸ hread hps r⟩
  | @halved u h hnone =>
    obtain ⟨ps, hps, hin⟩ := exists_inPieces_of_isLiteral h
    have hjoin : Piece.join ps = none :=
      Option.eq_none_iff_forall_ne_some.2 fun s hs => hnone s (spells_of_inPieces hin hs)
    exact ⟨u ++ ['"'], rfl, fun r => hjoin ▸ hread hps r⟩

end GuideBundles.Json
