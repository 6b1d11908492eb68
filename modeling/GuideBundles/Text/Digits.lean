/-
# `Text.Digits` — numbers in digits

Digits go up to the base sixteen, and capital and small letters mean the same.
-/
import GuideBundles.Text.Basic

namespace GuideBundles.Text

/-- The value of a hexadecimal digit. -/
def hexDigit? (c : Char) : Option Nat :=
  if c.isDigit then some (c.toNat - '0'.toNat)
  else if 'a' ≤ c ∧ c ≤ 'f' then some (c.toNat - 'a'.toNat + 10)
  else if 'A' ≤ c ∧ c ≤ 'F' then some (c.toNat - 'A'.toNat + 10)
  else none

def isHexDigit (c : Char) : Bool := (hexDigit? c).isSome

/-- Whether a character is a digit in a base up to sixteen. -/
def isDigitIn (base : Nat) (c : Char) : Bool := (hexDigit? c).any fun n => decide (n < base)

/-- The value of a digit; other characters count as nothing. -/
def digitValue (c : Char) : Nat := (hexDigit? c).getD 0

/-- The number that digits spell in a base. -/
def valueIn (base : Nat) (ds : Text) : Nat := ds.foldl (fun n c => n * base + digitValue c) 0

/-- The number of a character in hexadecimal digits, at least `width` of them. -/
def hexOf (width : Nat) (c : Char) : Text :=
  let ds := Nat.toDigits 16 c.toNat
  List.replicate (width - ds.length) '0' ++ ds

end GuideBundles.Text
