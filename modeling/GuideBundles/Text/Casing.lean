/-
# `Text.Casing` — full uppercase and lowercase forms

One character may become several (`ß` is `SS` in capitals), and a capital sigma becomes a final
sigma at the end of a word.  ASCII letters are mapped without a table.
-/
import GuideBundles.Text.CasingTable

namespace GuideBundles.Text.Casing

open CodePoints

/-- The uppercase form of a character. -/
def upper (c : Char) : Text :=
  if c.toNat < 0x80 then [c.toUpper]
  else match mapping? upperMappings c with
    | some t => t
    | none => [(image? upperRuns c).getD c]

/-- The lowercase form of a character on its own. -/
def lower (c : Char) : Text :=
  if c.toNat < 0x80 then [c.toLower]
  else match mapping? lowerMappings c with
    | some t => t
    | none => [(image? lowerRuns c).getD c]

/-- Whether a character has case. -/
def isCased (c : Char) : Bool := if c.toNat < 0x80 then c.isAlpha else cased.has c

/-- Whether a character is passed over when a word is searched for a cased one. -/
def isIgnorable (c : Char) : Bool :=
  if c.toNat < 0x80 then c == '\'' || c == '.' || c == ':' || c == '^' || c == '`'
  else caseIgnorable.has c

/-- Whether the first character that is not passed over has case. -/
def meetsCased (t : Text) : Bool :=
  match t.dropWhile isIgnorable with
  | [] => false
  | c :: _ => isCased c

/-- Lowercase form of a text after `passed`, the characters before it in reverse order.  A capital
sigma with a cased character before it and none after it is final. -/
def lowerFrom (passed : Text) : Text → Text
  | [] => []
  | c :: t =>
    (if c = 'Σ' then if meetsCased passed && !meetsCased t then ['ς'] else ['σ'] else lower c)
      ++ lowerFrom (c :: passed) t

/-- The lowercase form of a text. -/
def lowerText (t : Text) : Text := lowerFrom [] t

end GuideBundles.Text.Casing
