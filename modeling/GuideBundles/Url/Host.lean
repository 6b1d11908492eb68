/-
# `Url.Host` — hosts of web addresses

A host is a numeric address of the sixth version in brackets, or a name.  A name is decoded, mapped
and cut into labels; if its last label is a number, the whole has to be a numeric address of the
fourth version.
-/
import GuideBundles.Text.Bytes
import GuideBundles.Url.Label
import GuideBundles.Url.Mapping
import GuideBundles.Url.Punycode

namespace GuideBundles.Url.Host

/-! ## Numeric addresses -/

/-- A number as it may be written in an address: decimal, octal after a zero, hexadecimal after
`0x`. -/
def number? : Text → Option Nat
  | [] => none
  | '0' :: 'x' :: t | '0' :: 'X' :: t =>
    if t.all Text.isHexDigit then some (Text.valueIn 16 t) else none
  | '0' :: c :: t =>
    if (c :: t).all (Text.isDigitIn 8) then some (Text.valueIn 8 (c :: t)) else none
  | t => if t.all Char.isDigit then some (Text.valueIn 10 t) else none

/-- Whether labels end in a number, not counting an empty label at the end. -/
def endsInNumber (labels : List Text) : Bool :=
  let last? := match labels.reverse with
    | [] :: rest => rest.head?
    | reversed => reversed.head?
  match last? with
  | some last => (!last.isEmpty && last.all Char.isDigit) || (number? last).isSome
  | none => false

/-- Whether labels are a numeric address: at most four numbers, all but the last one bytes, and the
last one within what they leave of 32 bits. -/
def isAddress (labels : List Text) : Bool :=
  let labels := match labels.reverse with
    | [] :: rest => rest.reverse
    | _ => labels
  labels.length ≤ 4 &&
    match labels.mapM number? with
    | none => false
    | some numbers =>
      match numbers.reverse with
      | [] => false
      | last :: others =>
        decide (last < Nat.pow 256 (4 - others.length)) && others.all fun n => decide (n ≤ 255)

/-- Whether a text is a byte in decimal digits without leading zeros. -/
def isByte (t : Text) : Bool :=
  !t.isEmpty && t.all Char.isDigit && (t.head? != some '0' || t.length == 1) && t.length ≤ 3 &&
    decide (Text.valueIn 10 t ≤ 255)

/-- Whether a text is four bytes with dots between them. -/
def isDotted (t : Text) : Bool :=
  let bytes := Text.splitOn (· == '.') t
  bytes.length == 4 && bytes.all isByte

/-- Whether groups of hexadecimal digits complete an address of eight of them, `count` of which are
already read; `gap` says that a double colon stood for some. -/
def isSixFrom (count : Nat) (gap : Bool) (t : Text) : Bool :=
  match t with
  | [] => gap || count == 8
  | c :: t' =>
    if count = 8 then false
    else if c = ':' then !gap && isSixFrom (count + 1) true t'
    else
      let digits := ((c :: t').takeWhile Text.isHexDigit).take 4
      match h : (c :: t').drop digits.length with
      | [] => gap || count + 1 == 8
      | '.' :: _ =>
        !digits.isEmpty && decide (count ≤ 6) && isDotted (c :: t') && (gap || count + 2 == 8)
      | ':' :: rest => !digits.isEmpty && !rest.isEmpty && isSixFrom (count + 1) gap rest
      | _ :: _ => false
termination_by t.length
decreasing_by
  · simp
  · have := congrArg List.length h
    simp only [List.length_drop, List.length_cons] at this ⊢
    omega

/-- Whether a text is an address of the sixth version. -/
def isSix : Text → Bool
  | ':' :: ':' :: t => isSixFrom 1 true t
  | ':' :: _ => false
  | t => isSixFrom 0 false t

/-! ## Names -/

/-- The UTF-8 form of a text with its percent escapes resolved. -/
def decodePercents : List UInt8 → List UInt8
  | 0x25 :: a :: b :: t =>
    let x := Char.ofNat a.toNat
    let y := Char.ofNat b.toNat
    if Text.isHexDigit x && Text.isHexDigit y then
      UInt8.ofNat (16 * Text.digitValue x + Text.digitValue y) :: decodePercents t
    else 0x25 :: decodePercents (a :: b :: t)
  | c :: t => c :: decodePercents t
  | [] => []

/-- A text with its percent escapes resolved, if that is a text again. -/
def decoded? (t : Text) : Option Text :=
  if t.all (· != '%') then some t
  else Text.ofBytes? ⟨(decodePercents (Text.toBytes t).toList).toArray⟩

/-- Whether an ASCII character is forbidden in host names. -/
def isForbidden (c : Char) : Bool :=
  c.toNat ≤ 0x20 || c.toNat == 0x7F || c ∈ Text.ofString "%#/:<>?@[\\]^|"

/-- Whether a label is marked as encoded. -/
def isEncoded (label : Text) : Bool := (Text.ofString "xn--").isPrefixOf label

/-- Whether a character is one of ASCII. -/
def isAscii (c : Char) : Bool := decide (c.toNat < 0x80)

/-- The text that a label stands for: an encoded one has to decode to a composed text of characters
that a host name keeps, and not to ASCII only. -/
def labelText? (label : Text) : Option Text :=
  if isEncoded label then
    match if label.all isAscii then Punycode.decode? (label.drop 4) else none with
    | none => none
    | some t =>
      if t.all isAscii || !t.all Mapping.isKept || '.' ∈ t ||
        t.any isForbidden || Composition.normalize t != t then none
      else some t
  else some label

/-- Labels of a name in ASCII only and without encoded labels: nothing but case is mapped. -/
def plainLabels? (name : Text) : Option (List Text) :=
  let name := name.map Char.toLower
  if name.any isForbidden then none else some (Text.splitOn (· == '.') name)

/-- Labels of any name, after all rules for labels. -/
def mappedLabels? (name : Text) : Option (List Text) :=
  match Mapping.mapText name with
  | none => none
  | some mapped =>
    if mapped.any isForbidden then none
    else
      let labels := Text.splitOn (· == '.') mapped
      match labels.mapM labelText? with
      | none => none
      | some texts =>
        if texts.all Label.isWellFormed &&
          (!texts.any Label.turnsRight || texts.all Label.directionsFit) then some labels
        else none

/-- The labels of a host name in the form in which it is compared. -/
def labels? (name : Text) : Option (List Text) :=
  let lowered := name.map Char.toLower
  if name.all isAscii && !(Text.splitOn (· == '.') lowered).any isEncoded then plainLabels? name
  else mappedLabels? name

/-- Whether a text is a host name. -/
def isName (t : Text) : Bool :=
  match (decoded? t).bind labels? with
  | none => false
  | some labels => labels != [[]] && (!endsInNumber labels || isAddress labels)

/-- Whether a text is a host. -/
def isHost : Text → Bool
  | [] => false
  | '[' :: t => t.getLast? == some ']' && isSix t.dropLast
  | t => isName t

end GuideBundles.Url.Host
