/-
# `Toml.Phrase` — the four ways to write a text in TOML

Double quotes allow escapes and single quotes take everything as it stands; three quotes instead
of one allow several lines.  Readers begin after the opening quotes and give the text with what
follows the closing ones; `write` chooses the plainest way that is right.
-/
import GuideBundles.Text.Digits

namespace GuideBundles.Toml

/-- Whether a character may stand in a comment or a text: no control character but the tab. -/
def isPlain (c : Char) : Bool := c == '\t' || (0x20 ≤ c.toNat && c.toNat ≠ 0x7F)

/-- The character whose number hexadecimal digits spell. -/
def charOf? (ds : Text) : Option Char :=
  let n := Text.valueIn 16 ds
  if ds.all Text.isHexDigit ∧ n.isValidChar then some (Char.ofNat n) else none

/-- The character that a short escape stands for. -/
def short? : Char → Option Char
  | 'b' => some '\x08'
  | 't' => some '\t'
  | 'n' => some '\n'
  | 'f' => some '\x0c'
  | 'r' => some '\r'
  | '"' => some '"'
  | '\\' => some '\\'
  | _ => none

namespace Phrase

/-- A character in front of a text that was read. -/
def cons (c : Char) : Text × Text → Text × Text := fun (t, r) => (c :: t, r)

/-! ## On one line -/

/-- A text in double quotes. -/
def basic? : Text → Option (Text × Text)
  | [] => none
  | '"' :: t => some ([], t)
  | '\\' :: 'u' :: a :: b :: c :: d :: t => do
    let x ← charOf? [a, b, c, d]
    (basic? t).map (cons x)
  | '\\' :: 'U' :: a :: b :: c :: d :: e :: f :: g :: h :: t => do
    let x ← charOf? [a, b, c, d, e, f, g, h]
    (basic? t).map (cons x)
  | '\\' :: e :: t => do
    let x ← short? e
    (basic? t).map (cons x)
  | c :: t => if isPlain c ∧ c ≠ '\\' then (basic? t).map (cons c) else none

/-- A text in single quotes. -/
def literal? : Text → Option (Text × Text)
  | [] => none
  | c :: t =>
    if c = '\'' then some ([], t)
    else if isPlain c then (literal? t).map (cons c)
    else none

/-! ## On several lines -/

/-- Whether a line ends here but for blanks. -/
def endsLine (t : Text) : Bool :=
  match t.dropWhile fun c => c == ' ' || c == '\t' with
  | '\n' :: _ => true
  | '\r' :: '\n' :: _ => true
  | _ => false

/-- Whether a character is passed over behind a line that goes on. -/
def isLineBlank (c : Char) : Bool := c == ' ' || c == '\t' || c == '\n'

/-- A text in three double quotes.  Up to two more quotes at the end belong to the text.  Behind a
backslash at the end of a line, `joining` says, blanks and line ends are passed over. -/
def multiBasic? (joining : Bool) : Text → Option (Text × Text)
  | [] => none
  | '"' :: '"' :: '"' :: '"' :: '"' :: t => some (['"', '"'], t)
  | '"' :: '"' :: '"' :: '"' :: t => some (['"'], t)
  | '"' :: '"' :: '"' :: t => some ([], t)
  | '\r' :: '\n' :: t =>
    if joining then multiBasic? true t else (multiBasic? false t).map (cons '\n')
  | '\\' :: 'u' :: a :: b :: c :: d :: t => do
    let x ← charOf? [a, b, c, d]
    (multiBasic? false t).map (cons x)
  | '\\' :: 'U' :: a :: b :: c :: d :: e :: f :: g :: h :: t => do
    let x ← charOf? [a, b, c, d, e, f, g, h]
    (multiBasic? false t).map (cons x)
  | '\\' :: e :: t =>
    if endsLine (e :: t) then multiBasic? true (e :: t)
    else do
      let x ← short? e
      (multiBasic? false t).map (cons x)
  | c :: t =>
    if joining && isLineBlank c then multiBasic? true t
    else if c = '\n' ∨ (isPlain c ∧ c ≠ '\\') then (multiBasic? false t).map (cons c)
    else none

/-- A text in three single quotes. -/
def multiLiteral? : Text → Option (Text × Text)
  | [] => none
  | '\'' :: '\'' :: '\'' :: '\'' :: '\'' :: t => some (['\'', '\''], t)
  | '\'' :: '\'' :: '\'' :: '\'' :: t => some (['\''], t)
  | '\'' :: '\'' :: '\'' :: t => some ([], t)
  | '\r' :: '\n' :: t => (multiLiteral? t).map (cons '\n')
  | c :: t => if c = '\n' ∨ isPlain c then (multiLiteral? t).map (cons c) else none

/-- A text without a line end right at its start. -/
def dropFirstBreak : Text → Text
  | '\n' :: t => t
  | '\r' :: '\n' :: t => t
  | t => t

/-- The text that a phrase with its opening quotes is, with what follows. -/
def read? : Text → Option (Text × Text)
  | '"' :: '"' :: '"' :: t => multiBasic? false (dropFirstBreak t)
  | '"' :: t => basic? t
  | '\'' :: '\'' :: '\'' :: t => multiLiteral? (dropFirstBreak t)
  | '\'' :: t => literal? t
  | _ => none

/-! ## Writing -/

/-- Whether a character cannot stand for itself in any text, on several lines or not. -/
def isControl (c : Char) : Bool := !isPlain c && c != '\n'

/-- Length of the longest run of a character; `run` of them stand right before the text. -/
def longestRun (q : Char) (run : Nat) : Text → Nat
  | [] => run
  | c :: t => if c = q then longestRun q (run + 1) t else max run (longestRun q 0 t)

/-- A control character by its number in four digits. -/
def numbered (c : Char) : Text :=
  Text.ofString "\\u" ++ (Text.hexOf 4 c).map Char.toUpper

/-- The escape of a character in double quotes, if it needs one there whatever stands around it. -/
def escape? (several : Bool) (c : Char) : Option Text :=
  if c = '\x08' then some (Text.ofString "\\b")
  else if c = '\t' then some (Text.ofString "\\t")
  else if c = '\n' then if several then none else some (Text.ofString "\\n")
  else if c = '\x0c' then some (Text.ofString "\\f")
  else if c = '\r' then some (Text.ofString "\\r")
  else if c = '\\' then some (Text.ofString "\\\\")
  else if isPlain c then none
  else some (numbered c)

/-- The inside of double quotes.  On one line every quote is escaped, on several lines each third
quote in a row; `run` quotes stand right before the text. -/
def escaped (several : Bool) (run : Nat) : Text → Text
  | [] => []
  | c :: t =>
    if c = '"' then
      if several && run < 2 then c :: escaped several (run + 1) t
      else '\\' :: c :: escaped several 0 t
    else (escape? several c).getD [c] ++ escaped several 0 t

/-- The ways to write a text. -/
inductive Form where
  | basic
  | literal
  | multiBasic
  | multiLiteral
deriving DecidableEq

/-- The first form that fits a text. -/
def formOf (t : Text) : Form :=
  let control := t.any isControl
  let backslash := t.any (· == '\\')
  let several := t.any (· == '\n')
  let doubles := longestRun '"' 0 t
  let singles := longestRun '\'' 0 t
  if !control && !backslash && doubles == 0 && !several then .basic
  else if !control && singles == 0 && !several then .literal
  else if !control && !backslash && doubles ≤ 2 then .multiBasic
  else if !control && singles ≤ 2 then .multiLiteral
  else if several then .multiBasic
  else .basic

/-- The line end behind opening quotes of a text that has line ends. -/
def opening (t : Text) : Text := if t.any (· == '\n') then ['\n'] else []

/-- A text in a form. -/
def inForm (t : Text) : Form → Text
  | .basic => '"' :: escaped false 0 t ++ ['"']
  | .literal => '\'' :: t ++ ['\'']
  | .multiBasic =>
    Text.ofString "\"\"\"" ++ opening t ++ escaped true 0 t ++ Text.ofString "\"\"\""
  | .multiLiteral => Text.ofString "'''" ++ opening t ++ t ++ Text.ofString "'''"

/-- A text in the first form that fits it. -/
def write (t : Text) : Text := inForm t (formOf t)

/-- Texts as an array: up to one on the same line, more on a line each. -/
def writeList : List Text → Text
  | [] => Text.ofString "[]"
  | [t] => '[' :: write t ++ [']']
  | ts => Text.ofString "[\n"
      ++ ts.flatMap (fun t => Text.ofString "    " ++ write t ++ Text.ofString ",\n") ++ [']']

end Phrase
end GuideBundles.Toml
