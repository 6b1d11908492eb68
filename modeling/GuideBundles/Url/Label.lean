/-
# `Url.Label` — which labels a host name may have

A label may not start with a combining mark, and a joiner needs the right neighbours.  Once a label
of the name holds a letter that is written from right to left, every label has to keep the rules
for directions.
-/
import GuideBundles.Url.LabelTable
import GuideBundles.Url.Composition

namespace GuideBundles.Url.Label

open CodePoints

/-- Whether a character is a combining mark. -/
def isMark (c : Char) : Bool := 0x80 ≤ c.toNat && marks.has c

/-! ## Joiners -/

/-- Whether the nearest character that joining does not look through has the property `p`. -/
def nearest (p : Intervals) (t : Text) : Bool :=
  match t.dropWhile transparent.has with
  | [] => false
  | c :: _ => p.has c

/-- Whether every joiner has the neighbours it needs; `passed` are the characters before the text,
the last one first.  Both joiners may follow a virama, the non-joiner also stand where two
characters would join. -/
def joinersFit (passed : Text) : Text → Bool
  | [] => true
  | c :: t =>
    let afterVirama := (passed.head?.map Composition.combiningClass) == some 9
    let fits :=
      if c.toNat = 0x200C then
        afterVirama || (nearest joinsBefore passed && nearest joinsAfter t)
      else if c.toNat = 0x200D then afterVirama
      else true
    fits && joinersFit (c :: passed) t

/-! ## Directions -/

/-- The classes of characters that the rules for directions tell apart. -/
inductive Direction where
  | left
  | right
  | arabicNumber
  | europeanNumber
  | mark
  | neutral
deriving DecidableEq

/-- The direction of a character. -/
def direction (c : Char) : Direction :=
  if c.toNat < 0x80 then
    if c.isAlpha then .left else if c.isDigit then .europeanNumber else .neutral
  else if strongRight.has c then .right
  else if arabicNumber.has c then .arabicNumber
  else if europeanNumber.has c then .europeanNumber
  else if nonspacing.has c then .mark
  else if neutral.has c then .neutral
  else .left

/-- Whether a label holds a character that is written from right to left. -/
def turnsRight (label : Text) : Bool :=
  label.any fun c => direction c == .right || direction c == .arabicNumber

/-- Whether a label keeps the rules for directions: those for its first character, for the
characters it may hold, for its end, and against digits of both kinds. -/
def directionsFit (label : Text) : Bool :=
  let ds := label.map direction
  let ending := ds.reverse.dropWhile (· == .mark)
  match ds.head? with
  | none => true
  | some .right =>
    ds.all (· != .left) &&
      (match ending.head? with
        | some .right | some .arabicNumber | some .europeanNumber => true
        | _ => false) &&
      !(ds.any (· == .arabicNumber) && ds.any (· == .europeanNumber))
  | some .left =>
    ds.all (fun d => d != .right && d != .arabicNumber) &&
      (match ending.head? with
        | some .left | some .europeanNumber => true
        | _ => false)
  | some _ => false

/-! ## Labels -/

/-- Whether a label is well formed on its own. -/
def isWellFormed (label : Text) : Bool :=
  (match label with
    | [] => true
    | c :: _ => !isMark c) && joinersFit [] label

end GuideBundles.Url.Label
