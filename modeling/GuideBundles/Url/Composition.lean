/-
# `Url.Composition` — the composed form of a text

Every composed character is taken apart, marks are put in the order of their combining classes, and
then each mark joins the base before it where a composed character for the two exists and no mark
in between blocks it.  Hangul syllables are composed by arithmetic.
-/
import GuideBundles.Url.CompositionTable

namespace GuideBundles.Url.Composition

/-- The canonical combining class of a character; most characters have class zero. -/
def combiningClass (c : Char) : Nat :=
  if c.toNat < 0x300 then 0
  else (classEntries.findSome? fun
    | [a, b, k] => if a ≤ c.toNat ∧ c.toNat ≤ b then some k else none
    | _ => none).getD 0

/-! ## Taking apart -/

/-- The two characters that a composed character stands for. -/
def pair? (c : Char) : Option (Char × Char) :=
  pairEntries.findSome? fun
    | [n, a, b] => if n = c.toNat then some (Char.ofNat a, Char.ofNat b) else none
    | _ => none

/-- A Hangul syllable as its two or three letters. -/
def syllable (n : Nat) : Text :=
  let index := n - 0xAC00
  let lead := Char.ofNat (0x1100 + index / 588)
  let vowel := Char.ofNat (0x1161 + index % 588 / 28)
  if index % 28 = 0 then [lead, vowel] else [lead, vowel, Char.ofNat (0x11A7 + index % 28)]

/-- A character taken apart, at most as often as the number says; no character needs more than
four times. -/
def apart : Nat → Char → Text
  | 0, c => [c]
  | depth + 1, c =>
    if c.toNat < 0x80 then [c]
    else if 0xAC00 ≤ c.toNat ∧ c.toNat ≤ 0xD7A3 then syllable c.toNat
    else match pair? c with
      | some (a, b) => apart depth a ++ apart depth b
      | none => [c]

/-! ## Order of marks -/

/-- A mark put behind those whose class is not higher. -/
def insertMark (c : Char) : Text → Text
  | [] => [c]
  | d :: t => if combiningClass d ≤ combiningClass c then d :: insertMark c t else c :: d :: t

/-- A text with the marks behind each base in the order of their classes; `marks` are those seen
since the last base. -/
def orderMarks (marks : Text) : Text → Text
  | [] => marks
  | c :: t =>
    if combiningClass c = 0 then marks ++ c :: orderMarks [] t
    else orderMarks (insertMark c marks) t

/-! ## Putting together -/

/-- The composed character for a pair, if there is one. -/
def composed? (a b : Char) : Option Char :=
  let m := a.toNat
  let n := b.toNat
  if 0x1100 ≤ m ∧ m ≤ 0x1112 ∧ 0x1161 ≤ n ∧ n ≤ 0x1175 then
    some (Char.ofNat (0xAC00 + ((m - 0x1100) * 21 + (n - 0x1161)) * 28))
  else if 0xAC00 ≤ m ∧ m ≤ 0xD7A3 ∧ (m - 0xAC00) % 28 = 0 ∧ 0x11A8 ≤ n ∧ n ≤ 0x11C2 then
    some (Char.ofNat (m + (n - 0x11A7)))
  else pairEntries.findSome? fun
    | [c, x, y] => if x = m ∧ y = n then some (Char.ofNat c) else none
    | _ => none

/-- Composition behind the base `base`, with `held` the marks behind it that did not join it, the
last one first. -/
def composeAfter (base : Char) (held : Text) : Text → Text
  | [] => base :: held.reverse
  | c :: t =>
    let free := match held with
      | [] => true
      | d :: _ => decide (combiningClass d < combiningClass c)
    match if free then composed? base c else none with
    | some joined => composeAfter joined held t
    | none =>
      if combiningClass c = 0 then base :: held.reverse ++ composeAfter c [] t
      else composeAfter base (c :: held) t

/-- Composition from the first base on; marks before it stay. -/
def composeText : Text → Text
  | [] => []
  | c :: t => if combiningClass c = 0 then composeAfter c [] t else c :: composeText t

/-- The composed form of a text. -/
def normalize (t : Text) : Text := composeText (orderMarks [] (t.flatMap (apart 4)))

end GuideBundles.Url.Composition
