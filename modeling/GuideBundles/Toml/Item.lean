/-
# `Toml.Item` — TOML values, and how tables grow

A table remembers how it came to be, because that decides what may still be put into it: a dotted
key grows only tables that dotted keys or headers have implied, and a table that was written as a
value is closed.  `grow` is the one walk along a path of keys; the three ways in which a document
grows are its uses.
-/
import GuideBundles.Text.Basic

namespace GuideBundles.Toml

/-- How a table came to be. -/
inductive Origin where
  /-- By a header of its own; also the whole document. -/
  | header
  /-- By a longer header. -/
  | implied
  /-- By a dotted key. -/
  | dotted
  /-- As a value between braces. -/
  | inline
deriving DecidableEq

/-- A value of TOML. -/
inductive Item where
  | text (t : Text)
  | integer (n : Int)
  /-- A number with a point or an exponent, infinity or not a number. -/
  | decimal (spelling : Text)
  | bool (b : Bool)
  /-- A date, a time, or both. -/
  | moment (spelling : Text)
  | array (items : List Item)
  | table (origin : Origin) (entries : List (Text × Item))
  /-- The tables under one repeated header: the newest one and those before it. -/
  | tables (newest : List (Text × Item)) (older : List (List (Text × Item)))

/-- The entries of a table. -/
abbrev Entries := List (Text × Item)

namespace Item

/-- The text that an item is. -/
def text? : Item → Option Text
  | text t => some t
  | _ => none

/-- The texts that an array holds, if it holds nothing else. -/
def texts? : Item → Option (List Text)
  | array items => items.mapM text?
  | _ => none

/-- The fields of a record, in the order of their keys: a table, or an array of the fields. -/
def fields? (keys : List Text) : Item → Option (List (Option Item))
  | table _ entries => some (keys.map fun k => entries.lookup k)
  | array items => some ((items.map some ++ keys.map fun _ => none).take keys.length)
  | _ => none

end Item

namespace Entries

/-- Entries with another item under a key that they have, or with a new key. -/
def set (entries : Entries) (key : Text) (item : Item) : Entries :=
  (key, item) :: entries.filter fun e => e.1 ≠ key

/-- Whether a walk that makes tables of one origin may enter a table of another. -/
def mayEnter (made found : Origin) : Bool :=
  match found with
  | .inline => false
  | .header => made ≠ .dotted
  | _ => true

/-- Changes the table that a path leads to.  Missing tables on the way are made, and of tables
under a repeated header the newest is meant.  `change` is told how the table came to be. -/
def grow (made : Origin) (change : Origin → Entries → Option Entries) :
    Origin → List Text → Entries → Option Entries
  | origin, [], entries => change origin entries
  | _, key :: path, entries =>
    match entries.lookup key with
    | none => (grow made change made path []).map fun inner => entries.set key (.table made inner)
    | some (.table found inner) =>
      if mayEnter made found then
        (grow made change found path inner).map fun inner => entries.set key (.table found inner)
      else none
    | some (.tables newest older) =>
      (grow made change .header path newest).map fun grown => entries.set key (.tables grown older)
    | some _ => none

/-- Puts an item under a key that is not there yet. -/
def add (key : Text) (item : Item) (entries : Entries) : Option Entries :=
  match entries.lookup key with
  | none => some (entries.set key item)
  | some _ => none

/-- Puts an item under a dotted key.  What a dotted path leads to has to come from dotted keys. -/
def addDotted (path : List Text) (key : Text) (item : Item) (entries : Entries) : Option Entries :=
  grow .dotted
    (fun origin inner => if (origin = .dotted ↔ path = []) then none else add key item inner)
    .header path entries

/-- Opens the table of a header, which may be there only as implied by another header. -/
def addTable (path : List Text) (key : Text) (entries : Entries) : Option Entries :=
  grow .implied
    (fun _ inner => match inner.lookup key with
      | none => some (inner.set key (.table .header []))
      | some (.table .implied found) => some (inner.set key (.table .header found))
      | some _ => none)
    .header path entries

/-- Opens another table of a repeated header. -/
def addElement (path : List Text) (key : Text) (entries : Entries) : Option Entries :=
  grow .implied
    (fun _ inner => match inner.lookup key with
      | none => some (inner.set key (.tables [] []))
      | some (.tables newest older) => some (inner.set key (.tables [] (newest :: older)))
      | some _ => none)
    .header path entries

/-- The entries of pairs of dotted keys and items. -/
def ofPairs (pairs : List (List Text × Text × Item)) : Option Entries :=
  pairs.foldlM (fun entries (path, key, item) => entries.addDotted path key item) []

end Entries
end GuideBundles.Toml
