/-
# `Proofs.Json.Grammar` — what JSON texts spell

`Written` says of a value and a text that the text is a way to write the value: with any blanks
between the tokens, any escapes in the strings, and members of objects in the order in which they
are written, repetitions included.  Nothing here refers to reading.

A string spells a text character by character; one with half of a surrogate pair in it is a string
too, but spells no text.
-/
import GuideBundles.Json.Value
import GuideBundles.Text.Digits

namespace GuideBundles.Json

/-! ## Strings -/

/-- Whether a character is the hexadecimal digit with a value. -/
def IsHexDigit (c : Char) (k : Nat) : Prop :=
  (Text.ofString "0123456789abcdef")[k]? = some c ∨ (Text.ofString "0123456789ABCDEF")[k]? = some c

/-- Four hexadecimal digits with the number that they spell. -/
inductive IsUnit : Nat → Text → Prop
  | mk {a b c d : Char} {i j k l : Nat} : IsHexDigit a i → IsHexDigit b j → IsHexDigit c k →
      IsHexDigit d l → IsUnit (((i * 16 + j) * 16 + k) * 16 + l) [a, b, c, d]

/-- The letters of short escapes with the characters that they stand for. -/
def shortEscapes : List (Char × Char) :=
  [('"', '"'), ('\\', '\\'), ('/', '/'), ('b', '\x08'), ('f', '\x0c'), ('n', '\n'), ('r', '\r'),
    ('t', '\t')]

/-- Whether a character may stand for itself in a string. -/
def IsBare (c : Char) : Prop := 0x20 ≤ c.toNat ∧ c ≠ '"' ∧ c ≠ '\\'

instance : DecidablePred IsBare := fun _ => inferInstanceAs (Decidable (_ ∧ _))

/-- The ways to spell a character in a string: itself, a short escape, the number of the character,
or the numbers of the two halves of its surrogate pair. -/
inductive SpellsChar : Char → Text → Prop
  | bare {c : Char} : IsBare c → SpellsChar c [c]
  | short {c e : Char} : (e, c) ∈ shortEscapes → SpellsChar c ['\\', e]
  | unit {c : Char} {ds : Text} : IsUnit c.toNat ds → SpellsChar c ('\\' :: 'u' :: ds)
  | pair {c : Char} {high low : Nat} {ds es : Text} : high < 0x400 → low < 0x400 →
      c.toNat = 0x10000 + high * 0x400 + low → IsUnit (0xD800 + high) ds →
      IsUnit (0xDC00 + low) es → SpellsChar c ('\\' :: 'u' :: (ds ++ '\\' :: 'u' :: es))

/-- The ways to spell a text between quotes. -/
inductive Spells : Text → Text → Prop
  | nil : Spells [] []
  | cons {c : Char} {s u t : Text} : SpellsChar c u → Spells s t → Spells (c :: s) (u ++ t)

/-- A text of characters that may stand for themselves spells itself. -/
theorem spells_self {s : Text} (h : s.all (fun c => decide (IsBare c)) = true) : Spells s s := by
  induction s with
  | nil => exact .nil
  | cons c s ih =>
    rw [List.all_cons, Bool.and_eq_true, decide_eq_true_eq] at h
    exact .cons (.bare h.1) (ih h.2)

/-- What may stand between quotes, whether it spells a text or not. -/
inductive IsLiteral : Text → Prop
  | nil : IsLiteral []
  | bare {c : Char} {t : Text} : IsBare c → IsLiteral t → IsLiteral (c :: t)
  | short {c e : Char} {t : Text} : (e, c) ∈ shortEscapes → IsLiteral t → IsLiteral ('\\' :: e :: t)
  | unit {n : Nat} {ds t : Text} : IsUnit n ds → IsLiteral t → IsLiteral ('\\' :: 'u' :: (ds ++ t))

/-- A string in its quotes. -/
inductive Quoted : Phrase → Text → Prop
  | text {s t : Text} : Spells s t → Quoted (some s) ('"' :: (t ++ ['"']))
  | halved {t : Text} : IsLiteral t → (∀ s, ¬ Spells s t) → Quoted none ('"' :: (t ++ ['"']))

/-! ## Numbers -/

def AreDigits (ds : Text) : Prop := ds ≠ [] ∧ ∀ c ∈ ds, c.isDigit = true

/-- The whole part of a number, without a zero in front of other digits. -/
def IsWhole (t : Text) : Prop := t = ['0'] ∨ AreDigits t ∧ t.head? ≠ some '0'

def IsFraction (t : Text) : Prop := t = [] ∨ ∃ ds, t = '.' :: ds ∧ AreDigits ds

def IsExponent (t : Text) : Prop :=
  t = [] ∨ ∃ e sign ds, (e = 'e' ∨ e = 'E') ∧ (sign = [] ∨ sign = ['+'] ∨ sign = ['-']) ∧
    t = e :: (sign ++ ds) ∧ AreDigits ds

def IsNumber (t : Text) : Prop :=
  ∃ sign whole fraction exponent, (sign = [] ∨ sign = ['-']) ∧ IsWhole whole ∧
    IsFraction fraction ∧ IsExponent exponent ∧ t = sign ++ (whole ++ (fraction ++ exponent))

/-! ## Values -/

/-- Blanks that may stand between tokens. -/
def AreBlanks (t : Text) : Prop := ∀ c ∈ t, c = ' ' ∨ c = '\n' ∨ c = '\r' ∨ c = '\t'

mutual

/-- The ways to write a value, without blanks around it. -/
inductive Written : Value → Text → Prop
  | null : Written .null (Text.ofString "null")
  | true : Written (.bool true) (Text.ofString "true")
  | false : Written (.bool false) (Text.ofString "false")
  | number {t : Text} : IsNumber t → Written (.number t) t
  | string {p : Phrase} {t : Text} : Quoted p t → Written (.string p) t
  | emptyArray {gap : Text} : AreBlanks gap → Written (.array []) ('[' :: (gap ++ [']']))
  | array {vs : List Value} {t : Text} : Elements vs t → Written (.array vs) ('[' :: (t ++ [']']))
  | emptyObject {gap : Text} : AreBlanks gap → Written (.object []) ('{' :: (gap ++ ['}']))
  | object {ms : List (Phrase × Value)} {t : Text} : Members ms t →
      Written (.object ms) ('{' :: (t ++ ['}']))

/-- The ways to write the elements of an array between its brackets. -/
inductive Elements : List Value → Text → Prop
  | last {v : Value} {before t after : Text} : AreBlanks before → Written v t → AreBlanks after →
      Elements [v] (before ++ (t ++ after))
  | cons {v : Value} {vs : List Value} {before t after rest : Text} : AreBlanks before →
      Written v t → AreBlanks after → Elements vs rest →
      Elements (v :: vs) (before ++ (t ++ (after ++ ',' :: rest)))

/-- The ways to write the members of an object between its braces. -/
inductive Members : List (Phrase × Value) → Text → Prop
  | last {m : Phrase × Value} {t : Text} : Member m t → Members [m] t
  | cons {m : Phrase × Value} {ms : List (Phrase × Value)} {t rest : Text} : Member m t →
      Members ms rest → Members (m :: ms) (t ++ ',' :: rest)

/-- The ways to write a member, with blanks around its key and its value. -/
inductive Member : Phrase × Value → Text → Prop
  | mk {p : Phrase} {v : Value} {before key between gap t after : Text} : AreBlanks before →
      Quoted p key → AreBlanks between → AreBlanks gap → Written v t → AreBlanks after →
      Member (p, v) (before ++ (key ++ (between ++ ':' :: (gap ++ (t ++ after)))))

end

/-- The ways to write a value as a whole text. -/
def WrittenAlone (v : Value) (t : Text) : Prop :=
  ∃ before u after, AreBlanks before ∧ Written v u ∧ AreBlanks after ∧ t = before ++ (u ++ after)

/-! ## What can be written -/

/-- Every character can be spelled: what may not stand for itself has a short escape or is a control
character, whose number has two digits. -/
theorem exists_spellsChar (c : Char) : ∃ t, SpellsChar c t := by
  by_cases hquote : c = '"'
  · subst hquote
    exact ⟨_, .short (e := '"') (by decide)⟩
  by_cases hbackslash : c = '\\'
  · subst hbackslash
    exact ⟨_, .short (e := '\\') (by decide)⟩
  by_cases hcontrol : 0x20 ≤ c.toNat
  · exact ⟨_, .bare ⟨hcontrol, hquote, hbackslash⟩⟩
  have hdigit {k : Nat} (hk : k < 16) : ∃ d, IsHexDigit d k := by
    have hall : ∀ k : Fin 16, ((Text.ofString "0123456789abcdef")[k.val]?).isSome = true := by
      decide
    obtain ⟨d, hd⟩ := Option.isSome_iff_exists.1 (hall ⟨k, hk⟩)
    exact ⟨d, .inl hd⟩
  obtain ⟨zero, hzero⟩ := hdigit (k := 0) (by omega)
  obtain ⟨high, hhigh⟩ := hdigit (k := c.toNat / 16) (by omega)
  obtain ⟨low, hlow⟩ := hdigit (k := c.toNat % 16) (by omega)
  have hunit := IsUnit.mk hzero hzero hhigh hlow
  rw [show ((0 * 16 + 0) * 16 + c.toNat / 16) * 16 + c.toNat % 16 = c.toNat by omega] at hunit
  exact ⟨_, .unit hunit⟩

theorem exists_quoted (s : Text) : ∃ t, Quoted (some s) t := by
  have hspells : ∃ t, Spells s t := by
    induction s with
    | nil => exact ⟨[], .nil⟩
    | cons c s ih =>
      obtain ⟨u, hu⟩ := exists_spellsChar c
      obtain ⟨t, ht⟩ := ih
      exact ⟨u ++ t, .cons hu ht⟩
  obtain ⟨t, ht⟩ := hspells
  exact ⟨_, .text ht⟩

theorem areBlanks_nil : AreBlanks [] := by simp [AreBlanks]

theorem exists_written_array {vs : List Value} (h : ∀ v ∈ vs, ∃ t, Written v t) :
    ∃ t, Written (.array vs) t := by
  have helements {v : Value} {vs : List Value} (h : ∀ w ∈ v :: vs, ∃ t, Written w t) :
      ∃ t, Elements (v :: vs) t := by
    induction vs generalizing v with
    | nil =>
      obtain ⟨t, ht⟩ := h v List.mem_cons_self
      exact ⟨_, .last areBlanks_nil ht areBlanks_nil⟩
    | cons w vs ih =>
      obtain ⟨⟨t, ht⟩, hrest⟩ := List.forall_mem_cons.1 h
      obtain ⟨u, hu⟩ := ih hrest
      exact ⟨_, .cons areBlanks_nil ht areBlanks_nil hu⟩
  cases vs with
  | nil => exact ⟨_, .emptyArray areBlanks_nil⟩
  | cons v vs =>
    obtain ⟨t, ht⟩ := helements h
    exact ⟨_, .array ht⟩

theorem exists_written_object {ms : List (Phrase × Value)}
    (h : ∀ m ∈ ms, ∃ key t, m.1 = some key ∧ Written m.2 t) : ∃ t, Written (.object ms) t := by
  have hmember {m : Phrase × Value} (h : ∃ key t, m.1 = some key ∧ Written m.2 t) :
      ∃ t, Member m t := by
    obtain ⟨_, v⟩ := m
    obtain ⟨key, t, rfl, ht⟩ := h
    obtain ⟨q, hq⟩ := exists_quoted key
    exact ⟨_, .mk areBlanks_nil hq areBlanks_nil areBlanks_nil ht areBlanks_nil⟩
  have hmembers {m : Phrase × Value} {ms : List (Phrase × Value)}
      (h : ∀ p ∈ m :: ms, ∃ key t, p.1 = some key ∧ Written p.2 t) :
      ∃ t, Members (m :: ms) t := by
    induction ms generalizing m with
    | nil =>
      obtain ⟨t, ht⟩ := hmember (h m List.mem_cons_self)
      exact ⟨_, .last ht⟩
    | cons m' ms ih =>
      obtain ⟨hm, hrest⟩ := List.forall_mem_cons.1 h
      obtain ⟨t, ht⟩ := hmember hm
      obtain ⟨u, hu⟩ := ih hrest
      exact ⟨_, .cons ht hu⟩
  cases ms with
  | nil => exact ⟨_, .emptyObject areBlanks_nil⟩
  | cons m ms =>
    obtain ⟨t, ht⟩ := hmembers h
    exact ⟨_, .object ht⟩

end GuideBundles.Json
