/-
# `Url.Punycode` — the text that an encoded host label stands for

The basic characters of the label come first, up to the last hyphen; after it come numbers of
variable length, each of which says where the next character goes and by how much its code point
exceeds the one before.  Numbers are limited to 32 bits.
-/
import GuideBundles.Text.Basic

namespace GuideBundles.Url.Punycode

/-- The value of a digit in base 36. -/
def digit? (c : Char) : Option Nat :=
  if 'a' ≤ c ∧ c ≤ 'z' then some (c.toNat - 'a'.toNat)
  else if '0' ≤ c ∧ c ≤ '9' then some (c.toNat - '0'.toNat + 26)
  else none

/-- The threshold of the digit at a position, which is a multiple of 36. -/
def threshold (position bias : Nat) : Nat :=
  if position ≤ bias then 1 else if bias + 26 ≤ position then 26 else position - bias

/-- The number that digits spell, with the digits after it. -/
def number? (bias position weight value : Nat) : Text → Option (Nat × Text)
  | [] => none
  | c :: t =>
    match digit? c with
    | none => none
    | some d =>
      let value := value + d * weight
      let limit := threshold position bias
      let next := weight * (36 - limit)
      if 2 ^ 32 ≤ value then none
      else if d < limit then some (value, t)
      else if 2 ^ 32 ≤ next then none
      else number? bias (position + 36) next value t

/-- How often `delta` exceeds the range of the bias, and what is left of it. -/
def reduce : Nat → Nat → Nat → Nat × Nat
  | 0, k, delta => (k, delta)
  | fuel + 1, k, delta => if 455 < delta then reduce fuel (k + 36) (delta / 35) else (k, delta)

/-- The bias after a number, for a text of `count` characters. -/
def adapt (delta count : Nat) (first : Bool) : Nat :=
  let delta := if first then delta / 700 else delta / 2
  let (k, rest) := reduce 32 0 (delta + delta / count)
  k + 36 * rest / (rest + 38)

/-- Whether a number is the code point of a character. -/
def isScalar (n : Nat) : Bool :=
  decide (n < 0xD800) || (decide (0xDFFF < n) && decide (n < 0x110000))

/-- The text built so far with the characters that the digits insert.  Each round uses up a digit,
so the number of digits bounds the rounds. -/
def insertFrom : Nat → Nat → Nat → Nat → Text → Text → Option Text
  | _, _, _, _, built, [] => some built
  | 0, _, _, _, _, _ :: _ => none
  | rounds + 1, code, place, bias, built, digits@(_ :: _) =>
    match number? bias 36 1 0 digits with
    | none => none
    | some (delta, rest) =>
      let count := built.length + 1
      let first := place == 0
      let sum := place + delta
      let code := code + sum / count
      let place := sum % count
      if isScalar code then
        insertFrom rounds code (place + 1) (adapt delta count first)
          (built.take place ++ Char.ofNat code :: built.drop place) rest
      else none

/-- The text that an encoded label stands for; the label is without its marker and in lower case. -/
def decode? (label : Text) : Option Text :=
  let reversed := label.reverse
  match reversed.dropWhile (· != '-') with
  | [] => insertFrom label.length 128 0 72 [] label
  | [_] => none
  | _ :: basic =>
    let digits := (reversed.takeWhile (· != '-')).reverse
    insertFrom digits.length 128 0 72 basic.reverse digits

end GuideBundles.Url.Punycode
