/-
# `Json.Reader` — reading JSON

Each reader takes a text and gives what it found with the text that follows.  Nesting is bounded
by a number that the length of the text provides, so it never stops a reader early.
-/
import GuideBundles.Json.Value
import GuideBundles.Remainder
import GuideBundles.Text.Digits

namespace GuideBundles.Json

/-! ## Blanks and numbers -/

/-- Whether a character may stand between tokens. -/
def isBlank (c : Char) : Bool := c == ' ' || c == '\n' || c == '\r' || c == '\t'

/-- A text without the blanks at its start. -/
def skip (t : Text) : Text := t.dropWhile isBlank

/-- One digit or more, with what follows. -/
def digits? (t : Text) : Option (Text × Text) :=
  match t.takeWhile Char.isDigit with
  | [] => none
  | ds => some (ds, t.dropWhile Char.isDigit)

/-- The whole part of a number; a zero at the start stands alone. -/
def whole? : Text → Option (Text × Text)
  | '0' :: t => if (t.head?.any Char.isDigit) then none else some (['0'], t)
  | t => digits? t

/-- The part of a number after its point, if there is a point. -/
def fraction? : Text → Option (Text × Text)
  | '.' :: t => (digits? t).map fun (ds, r) => ('.' :: ds, r)
  | t => some ([], t)

/-- The exponent of a number, if there is one. -/
def exponent? : Text → Option (Text × Text)
  | [] => some ([], [])
  | e :: t =>
    if e = 'e' ∨ e = 'E' then
      match t with
      | '+' :: u => (digits? u).map fun (ds, r) => (e :: '+' :: ds, r)
      | '-' :: u => (digits? u).map fun (ds, r) => (e :: '-' :: ds, r)
      | u => (digits? u).map fun (ds, r) => (e :: ds, r)
    else some ([], e :: t)

/-- A number that is not negative. -/
def magnitude? (t : Text) : Option (Text × Text) := do
  let (w, t) ← whole? t
  let (f, t) ← fraction? t
  let (e, t) ← exponent? t
  some (w ++ f ++ e, t)

/-- A number as it is spelled. -/
def number? : Text → Option (Text × Text)
  | '-' :: t => (magnitude? t).map fun (n, r) => ('-' :: n, r)
  | t => magnitude? t

/-! ## Strings -/

/-- The value of four hexadecimal digits. -/
def hex4? (a b c d : Char) : Option Nat :=
  if [a, b, c, d].all Text.isHexDigit then some (Text.valueIn 16 [a, b, c, d]) else none

/-- The character that a short escape stands for. -/
def short? : Char → Option Char
  | '"' => some '"'
  | '\\' => some '\\'
  | '/' => some '/'
  | 'b' => some '\x08'
  | 'f' => some '\x0c'
  | 'n' => some '\n'
  | 'r' => some '\r'
  | 't' => some '\t'
  | _ => none

/-- What a string spells piece by piece: characters and halves of surrogate pairs. -/
inductive Piece where
  | char (c : Char)
  | high (n : Nat)
  | low (n : Nat)
deriving DecidableEq

/-- The piece with a number in Unicode. -/
def Piece.ofNat (n : Nat) : Piece :=
  if 0xD800 ≤ n ∧ n < 0xDC00 then high (n - 0xD800)
  else if 0xDC00 ≤ n ∧ n < 0xE000 then low (n - 0xDC00)
  else char (Char.ofNat n)

/-- The text that pieces form; each high half has to have a low half after it. -/
def Piece.join : List Piece → Phrase
  | [] => some []
  | char c :: ps => (join ps).map (c :: ·)
  | high h :: low l :: ps => (join ps).map (Char.ofNat (0x10000 + h * 0x400 + l) :: ·)
  | _ => none

/-- The pieces of a string up to its closing quote, with what follows. -/
def pieces? : Text → Option (List Piece × Text)
  | [] => none
  | '"' :: t => some ([], t)
  | '\\' :: 'u' :: a :: b :: c :: d :: t => do
    let n ← hex4? a b c d
    let (ps, r) ← pieces? t
    some (Piece.ofNat n :: ps, r)
  | '\\' :: e :: t => do
    let c ← short? e
    let (ps, r) ← pieces? t
    some (.char c :: ps, r)
  | c :: t =>
    if c.toNat < 0x20 ∨ c = '\\' then none
    else (pieces? t).map fun (ps, r) => (.char c :: ps, r)

/-- A string after its opening quote. -/
def phrase? (t : Text) : Option (Phrase × Text) :=
  (pieces? t).map fun (ps, r) => (Piece.join ps, r)

/-! ## Values -/

/-- The value that a word names, with what follows. -/
def word? (t : Text) : Option (Value × Text) :=
  let named (w : String) (v : Value) := (remainder? w.toList t).map fun r => (v, r)
  named "null" .null <|> named "true" (.bool true) <|> named "false" (.bool false)

mutual

/-- The value that a text starts with. -/
def value? : Nat → Text → Option (Value × Text)
  | 0, _ => none
  | n + 1, t =>
    match t with
    | '"' :: r => (phrase? r).map fun (p, r) => (.string p, r)
    | '[' :: r =>
      match skip r with
      | ']' :: r => some (.array [], r)
      | r => (elements? n r).map fun (vs, r) => (.array vs, r)
    | '{' :: r =>
      match skip r with
      | '}' :: r => some (.object [], r)
      | r => (members? n r).map fun (ms, r) => (.object ms, r)
    | t => word? t <|> (number? t).map fun (s, r) => (.number s, r)

/-- The elements of an array up to its bracket. -/
def elements? : Nat → Text → Option (List Value × Text)
  | 0, _ => none
  | n + 1, t => do
    let (v, r) ← value? n (skip t)
    match skip r with
    | ']' :: r => some ([v], r)
    | ',' :: r => (elements? n r).map fun (vs, r) => (v :: vs, r)
    | _ => none

/-- The members of an object up to its brace. -/
def members? : Nat → Text → Option (List (Phrase × Value) × Text)
  | 0, _ => none
  | n + 1, t =>
    match skip t with
    | '"' :: r => do
      let (key, r) ← phrase? r
      match skip r with
      | ':' :: r =>
        let (v, r) ← value? n (skip r)
        match skip r with
        | '}' :: r => some ([(key, v)], r)
        | ',' :: r => (members? n r).map fun (ms, r) => ((key, v) :: ms, r)
        | _ => none
      | _ => none
    | _ => none

end

/-- The value that a whole text spells, between blanks. -/
def Value.ofText? (t : Text) : Option Value :=
  match value? (2 * t.length + 2) (skip t) with
  | some (v, r) => if skip r = [] then some v else none
  | none => none

end GuideBundles.Json
