/-
# `Json.Value` — JSON values, and records in them

A value keeps what a reader of sections may look at: members in their order with repetitions,
strings that may fail to be texts, and numbers as they are spelled.  A record is written as an
object or as the array of its fields.
-/
import GuideBundles.Text.Basic

namespace GuideBundles.Json

/-- A string of JSON as a text; there is none when it spells half of a surrogate pair. -/
abbrev Phrase := Option Text

/-- A value of JSON. -/
inductive Value where
  | null
  | bool (b : Bool)
  | number (spelling : Text)
  | string (p : Phrase)
  | array (elements : List Value)
  | object (members : List (Phrase × Value))

namespace Value

/-- The text that a string is. -/
def text? : Value → Option Text
  | string p => p
  | _ => none

/-- The elements of an array. -/
def elements? : Value → Option (List Value)
  | array vs => some vs
  | _ => none

/-- The value of the only member with a key; none at all is also right, but not several. -/
def member? (members : List (Phrase × Value)) (key : Text) : Option (Option Value) :=
  match members.filter fun m => m.1 = some key with
  | [] => some none
  | [m] => some (some m.2)
  | _ => none

/-- The fields of a record, in the order of their keys.  An object may have other members, but
their keys have to be texts; an array may end early, but it has no more elements than there are
keys. -/
def fields? (keys : List Text) : Value → Option (List (Option Value))
  | object members =>
    if members.any fun m => m.1.isNone then none else keys.mapM (member? members)
  | array vs =>
    if vs.length ≤ keys.length then
      some (vs.map some ++ List.replicate (keys.length - vs.length) none)
    else none
  | _ => none

end Value
end GuideBundles.Json
