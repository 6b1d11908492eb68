/-
# `Text.Quoted` — texts in quotes, as messages show them

Quotes and backslashes are escaped, and a character that a reader could not see is written as its
code point.
-/
import GuideBundles.Text.QuotedTable

namespace GuideBundles.Text.Quoted

open CodePoints

/-- Whether a character is shown by its code point. -/
def isHidden (c : Char) : Bool :=
  if c.toNat < 0x80 then c.toNat < 0x20 || c.toNat == 0x7F else hidden.has c

/-- A code point in lower-case hexadecimal digits between braces. -/
def codePoint (c : Char) : Text := ofString "\\u\x7b" ++ hexOf 1 c ++ ['}']

/-- One character of a quoted text. -/
def escape (c : Char) : Text :=
  if c = '"' then ofString "\\\""
  else if c = '\\' then ofString "\\\\"
  else if c = '\n' then ofString "\\n"
  else if c = '\r' then ofString "\\r"
  else if c = '\t' then ofString "\\t"
  else if c.toNat = 0 then ofString "\\0"
  else if isHidden c then codePoint c
  else [c]

/-- A text in quotes. -/
def encode (t : Text) : Text := '"' :: t.flatMap escape ++ ['"']

end GuideBundles.Text.Quoted
