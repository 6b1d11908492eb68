/-
# `Text.Blank` — blank characters, trimming and words

The class is Unicode's `White_Space`: twenty-five characters, among them the no-break spaces and
the line separators, but neither the zero width space nor the information separators.
-/
import GuideBundles.Text.Basic

namespace GuideBundles.Text

/-- Whether a character has the Unicode property `White_Space`. -/
def isBlank (c : Char) : Bool :=
  let n := c.toNat
  (9 ≤ n && n ≤ 13) || n == 0x20 || n == 0x85 || n == 0xA0 || n == 0x1680 ||
    (0x2000 ≤ n && n ≤ 0x200A) || n == 0x2028 || n == 0x2029 || n == 0x202F || n == 0x205F ||
    n == 0x3000

/-- A text without the blanks at its start. -/
def trimStart (t : Text) : Text := t.dropWhile isBlank

/-- A text without the blanks at its end. -/
def trimEnd (t : Text) : Text := dropEndWhile isBlank t

/-- A text without the blanks at its ends. -/
def trim (t : Text) : Text := trimEnd (trimStart t)

/-- Whether a text has a character that is no blank. -/
def hasInk (t : Text) : Bool := t.any fun c => !isBlank c

/-- The first run of characters that are no blanks, empty when there is none. -/
def firstWord (t : Text) : Text := (trimStart t).takeWhile fun c => !isBlank c

end GuideBundles.Text
