/-
# `Toml.Scalar` — numbers, dates, times and truth values of TOML

Such a value is one run of letters, digits, signs, points, colons and underscores.  Each reader
here judges a whole run.
-/
import GuideBundles.Remainder
import GuideBundles.Text.Digits
import GuideBundles.Toml.Item

namespace GuideBundles.Toml

/-! ## Digits -/

/-- Digits with at most one underscore between two of them, without the underscores. -/
def digits? (isDigit : Char → Bool) : Text → Option Text
  | [] => none
  | [c] => if isDigit c then some [c] else none
  | c :: '_' :: t => if isDigit c then (digits? isDigit t).map (c :: ·) else none
  | c :: t => if isDigit c then (digits? isDigit t).map (c :: ·) else none

/-- A text without its sign, and whether the sign is a minus. -/
def splitSign : Text → Bool × Text
  | '-' :: t => (true, t)
  | '+' :: t => (false, t)
  | t => (false, t)

/-! ## Whole numbers -/

/-- Decimal digits without a needless zero in front. -/
def whole? (t : Text) : Option Text :=
  match digits? Char.isDigit t with
  | some ('0' :: _ :: _) => none
  | ds => ds

/-- The first number above those that fit into sixty-four bits with a sign. -/
def tooLarge : Int := 0x8000000000000000

/-- A number that fits into sixty-four bits with a sign. -/
def fitted? (n : Int) : Option Item :=
  if -tooLarge ≤ n ∧ n < tooLarge then some (.integer n) else none

def integer? (t : Text) : Option Item :=
  match t with
  | '0' :: 'x' :: r => (digits? (Text.isDigitIn 16) r).bind fun ds => fitted? (Text.valueIn 16 ds)
  | '0' :: 'o' :: r => (digits? (Text.isDigitIn 8) r).bind fun ds => fitted? (Text.valueIn 8 ds)
  | '0' :: 'b' :: r => (digits? (Text.isDigitIn 2) r).bind fun ds => fitted? (Text.valueIn 2 ds)
  | _ =>
    let (negative, r) := splitSign t
    (whole? r).bind fun ds =>
      fitted? (if negative then -(Text.valueIn 10 ds : Int) else (Text.valueIn 10 ds : Int))

/-! ## Decimals -/

/-- Whether the digits `ds` times ten to the power `e` round to infinity in double precision. -/
def overflows (ds : Text) (e : Int) : Bool :=
  let limit := Nat.pow 2 1024 - Nat.pow 2 970
  let significant := ds.dropWhile (· == '0')
  let size : Int := significant.length
  let m := Text.valueIn 10 significant
  if significant = [] then false
  else if 309 < size + e then true
  else if size + e ≤ 308 then false
  else if 0 ≤ e then decide (limit ≤ m * Nat.pow 10 e.toNat)
  else decide (limit * Nat.pow 10 (-e).toNat ≤ m)

/-- The part of a number behind the exponent mark. -/
def exponent? (t : Text) : Option Int :=
  let (negative, r) := splitSign t
  (digits? Char.isDigit r).map fun ds =>
    if negative then -(Text.valueIn 10 ds : Int) else (Text.valueIn 10 ds : Int)

def isExponentMark (c : Char) : Bool := c == 'e' || c == 'E'

/-- The digits of a number with a point or an exponent, and the power of ten to multiply with. -/
def decimalParts? (t : Text) : Option (Text × Int) := do
  let mantissa := t.takeWhile fun c => !isExponentMark c
  let e ← match t.dropWhile fun c => !isExponentMark c with
    | [] => some 0
    | _ :: e => exponent? e
  let ds ← whole? (mantissa.takeWhile (· != '.'))
  match mantissa.dropWhile (· != '.') with
  | [] => if t.any isExponentMark then some (ds, e) else none
  | _ :: fraction =>
    let fs ← digits? Char.isDigit fraction
    some (ds ++ fs, e - fs.length)

/-- A decimal; one that is too large is refused, unless it is negative. -/
def decimal? (t : Text) : Option Item :=
  let (negative, r) := splitSign t
  if r = Text.ofString "inf" ∨ r = Text.ofString "nan" then some (.decimal t)
  else match decimalParts? r with
    | some (ds, e) => if !negative && overflows ds e then none else some (.decimal t)
    | none => none

/-! ## Dates and times -/

/-- A number of two digits from `low` to `high`, with what follows. -/
def twoDigits? (low high : Nat) : Text → Option (Nat × Text)
  | a :: b :: t =>
    let n := Text.digitValue a * 10 + Text.digitValue b
    if a.isDigit && b.isDigit && decide (low ≤ n ∧ n ≤ high) then some (n, t) else none
  | _ => none

def isLeapYear (y : Nat) : Bool := y % 4 == 0 && (y % 100 != 0 || y % 400 == 0)

def daysIn (year month : Nat) : Nat :=
  if month = 2 then if isLeapYear year then 29 else 28
  else if month = 4 ∨ month = 6 ∨ month = 9 ∨ month = 11 then 30
  else 31

/-- What follows a date. -/
def afterDate? (t : Text) : Option Text := do
  let (century, t) ← twoDigits? 0 99 t
  let (year, t) ← twoDigits? 0 99 t
  let t ← remainder? ['-'] t
  let (month, t) ← twoDigits? 1 12 t
  let t ← remainder? ['-'] t
  let (_, t) ← twoDigits? 1 (daysIn (century * 100 + year) month) t
  some t

/-- What follows a time of the day. -/
def afterTime? (t : Text) : Option Text := do
  let (_, t) ← twoDigits? 0 23 t
  let t ← remainder? [':'] t
  let (_, t) ← twoDigits? 0 59 t
  let t ← remainder? [':'] t
  let (_, t) ← twoDigits? 0 60 t
  match t with
  | '.' :: f => if (f.head?.any Char.isDigit) then some (f.dropWhile Char.isDigit) else none
  | t => some t

/-- Whether a text is an offset from universal time. -/
def isOffset : Text → Bool
  | [c] => c == 'Z' || c == 'z'
  | c :: t =>
    (c == '+' || c == '-') &&
      match twoDigits? 0 23 t with
      | some (_, ':' :: m) => (twoDigits? 0 59 m).any fun (_, r) => r.isEmpty
      | _ => false
  | [] => false

/-- Whether a text is a time of the day, perhaps with an offset. -/
def isTimeOfDate (t : Text) : Bool := (afterTime? t).any fun r => r.isEmpty || isOffset r

def moment? (t : Text) : Option Item :=
  let isMoment := match afterDate? t with
    | some [] => true
    | some (c :: r) => (c == 'T' || c == 't') && isTimeOfDate r
    | none => afterTime? t == some []
  if isMoment then some (.moment t) else none

/-- Whether a text is a date alone, which a space and a time may follow. -/
def isDate (t : Text) : Bool := afterDate? t == some []

/-! ## Runs -/

/-- Whether a character can be part of a scalar. -/
def isScalarChar (c : Char) : Bool :=
  c.isAlphanum || c == '+' || c == '-' || c == '_' || c == '.' || c == ':'

/-- The item that a run of such characters is. -/
def ofRun? (run : Text) : Option Item :=
  if run = Text.ofString "true" then some (.bool true)
  else if run = Text.ofString "false" then some (.bool false)
  else moment? run <|> integer? run <|> decimal? run

/-- The scalar that a text starts with, and what follows it. -/
def scalar? (t : Text) : Option (Item × Text) :=
  let run := t.takeWhile isScalarChar
  let rest := t.dropWhile isScalarChar
  match rest with
  | ' ' :: u =>
    let time := u.takeWhile isScalarChar
    if isDate run && isTimeOfDate time then
      some (.moment (run ++ ' ' :: time), u.dropWhile isScalarChar)
    else (ofRun? run).map fun i => (i, rest)
  | _ => (ofRun? run).map fun i => (i, rest)

end GuideBundles.Toml
