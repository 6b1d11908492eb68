/-
# `Text.CodePoints` — sets and maps of code points, written as short tables

Properties of characters beyond ASCII come from the tables of a standard.  A table is written as
text: entries with blanks between them, each a list of hexadecimal numbers with colons between
them.  The reading of an entry belongs to the kind of table: an interval of a set, a run of a
regular map, or one line of an irregular map.
-/
import GuideBundles.Text.Digits

namespace GuideBundles.CodePoints

/-- The entries of a written table. -/
def entries (table : String) : List (List Nat) :=
  let words := Text.splitOn (fun c => c == ' ' || c == '\n') table.toList
  (words.filter fun w => !w.isEmpty).map fun w => (Text.splitOn (· == ':') w).map (Text.valueIn 16)

/-! ## Sets -/

/-- A set of code points, as closed intervals. -/
abbrev Intervals := List (Nat × Nat)

/-- A set from its table: an entry names one code point, or the first and the last of a run. -/
def intervals (table : String) : Intervals :=
  (entries table).filterMap fun
    | [a] => some (a, a)
    | [a, b] => some (a, b)
    | _ => none

/-- Whether a character belongs to a set. -/
def Intervals.has (s : Intervals) (c : Char) : Bool :=
  s.any fun r => decide (r.1 ≤ c.toNat) && decide (c.toNat ≤ r.2)

/-! ## Regular maps -/

/-- A run of code points that a map moves together: every `step`-th one from `first` to `last`,
with `target` as the image of `first`. -/
structure Run where
  first : Nat
  last : Nat
  step : Nat
  target : Nat

/-- The image of a code point in a run that holds it. -/
def Run.image? (r : Run) (n : Nat) : Option Nat :=
  if r.first ≤ n ∧ n ≤ r.last ∧ (n - r.first) % r.step = 0 then some (r.target + (n - r.first))
  else none

/-- A map from its table of runs. -/
def runs (table : String) : List Run :=
  (entries table).filterMap fun
    | [a, b, s, t] => some ⟨a, b, s, t⟩
    | _ => none

/-- The image of a character under a map of runs. -/
def image? (rs : List Run) (c : Char) : Option Char :=
  (rs.findSome? fun r => r.image? c.toNat).map Char.ofNat

/-! ## Irregular maps -/

/-- A map from its table: an entry names a code point and then its image. -/
def mappings (table : String) : List (Nat × Text) :=
  (entries table).filterMap fun
    | n :: image => some (n, image.map Char.ofNat)
    | [] => none

/-- The image of a character under an irregular map. -/
def mapping? (ms : List (Nat × Text)) (c : Char) : Option Text := ms.lookup c.toNat

end GuideBundles.CodePoints
