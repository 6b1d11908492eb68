/-
# `Toml.Reader` — reading TOML

A document is first read as a list of statements, and then the statements are carried out in turn.
Keys and values nest less than eighty deep.
-/
import GuideBundles.Toml.Scalar
import GuideBundles.Toml.Phrase

namespace GuideBundles.Toml

/-- Number of parts that a key may have, and of levels that a value may have. -/
def depthLimit : Nat := 79

/-! ## Between tokens -/

/-- A text without the spaces and tabs at its start. -/
def skip (t : Text) : Text := t.dropWhile fun c => c == ' ' || c == '\t'

/-- A text without the blanks, line ends and comments at its start. -/
def skipLines (inComment : Bool) : Text → Text
  | [] => []
  | '\r' :: '\n' :: t => skipLines false t
  | c :: t =>
    if c = '\n' then skipLines false t
    else if inComment then if isPlain c then skipLines true t else c :: t
    else if c = ' ' ∨ c = '\t' then skipLines false t
    else if c = '#' then skipLines true t
    else c :: t

/-- What follows a line end. -/
def afterBreak? : Text → Option Text
  | [] => some []
  | '\n' :: t => some t
  | '\r' :: '\n' :: t => some t
  | _ => none

/-- What follows the rest of a line, which holds nothing but blanks and a comment. -/
def afterLine? (t : Text) : Option Text :=
  match skip t with
  | '#' :: u => afterBreak? (u.dropWhile isPlain)
  | u => afterBreak? u

/-! ## Keys -/

/-- Whether a character can be part of a key without quotes. -/
def isBare (c : Char) : Bool := c.isAlphanum || c == '_' || c == '-'

/-- One part of a key. -/
def keyPart? : Text → Option (Text × Text)
  | '"' :: t => Phrase.basic? t
  | '\'' :: t => Phrase.literal? t
  | t =>
    match t.takeWhile isBare with
    | [] => none
    | part => some (part, t.dropWhile isBare)

/-- A key of at most so many parts: the parts before the last, the last, and what follows. -/
def key? : Nat → Text → Option (List Text × Text × Text)
  | 0, _ => none
  | n + 1, t => do
    let (part, r) ← keyPart? (skip t)
    match skip r with
    | '.' :: r => (key? n r).map fun (path, key, r) => (part :: path, key, r)
    | r => some ([], part, r)

/-! ## Values -/

/-- The items of an array up to its bracket; `item?` reads one. -/
def items? (item? : Text → Option (Item × Text)) : Nat → Text → Option (List Item × Text)
  | 0, _ => none
  | n + 1, t => do
    let (v, r) ← item? t
    match skipLines false r with
    | ']' :: r => some ([v], r)
    | ',' :: r =>
      match skipLines false r with
      | ']' :: r => some ([v], r)
      | r => (items? item? n r).map fun (vs, r) => (v :: vs, r)
    | _ => none

/-- A key and the item after its equals sign. -/
def pair? (item? : Text → Option (Item × Text)) (t : Text) :
    Option ((List Text × Text × Item) × Text) := do
  match ← key? depthLimit t with
  | (path, key, '=' :: r) =>
    let (v, r) ← item? (skip r)
    some ((path, key, v), r)
  | _ => none

/-- The pairs of a table value up to its brace. -/
def pairs? (item? : Text → Option (Item × Text)) :
    Nat → Text → Option (List (List Text × Text × Item) × Text)
  | 0, _ => none
  | n + 1, t => do
    let (p, r) ← pair? item? t
    match skip r with
    | '}' :: r => some ([p], r)
    | ',' :: r => (pairs? item? n r).map fun (ps, r) => (p :: ps, r)
    | _ => none

/-- The item that a text starts with, with at most so many levels of arrays and tables. -/
def item? : Nat → Text → Option (Item × Text)
  | 0, t => scalarOrPhrase? t
  | n + 1, t =>
    match t with
    | '[' :: r =>
      match skipLines false r with
      | ']' :: r => some (.array [], r)
      | r => (items? (item? n) (r.length + 1) r).map fun (vs, r) => (.array vs, r)
    | '{' :: r =>
      match skip r with
      | '}' :: r => some (.table .inline [], r)
      | r => do
        let (ps, r) ← pairs? (item? n) (r.length + 1) r
        some (.table .inline (← Entries.ofPairs ps), r)
    | t => scalarOrPhrase? t
where
  scalarOrPhrase? (t : Text) : Option (Item × Text) :=
    match t with
    | '"' :: _ => (Phrase.read? t).map fun (s, r) => (.text s, r)
    | '\'' :: _ => (Phrase.read? t).map fun (s, r) => (.text s, r)
    | t => scalar? t

/-! ## Documents -/

/-- A statement of a document. -/
inductive Statement where
  | pair (path : List Text) (key : Text) (item : Item)
  | table (path : List Text) (key : Text)
  | element (path : List Text) (key : Text)

/-- The statement that a line starts with, and what follows that line; blank lines have none. -/
def statement? (t : Text) : Option (Option Statement × Text) :=
  match skip t with
  | '[' :: '[' :: r => do
    match ← key? depthLimit r with
    | (path, key, ']' :: ']' :: r) => (afterLine? r).map fun r => (some (.element path key), r)
    | _ => none
  | '[' :: r => do
    match ← key? depthLimit r with
    | (path, key, ']' :: r) => (afterLine? r).map fun r => (some (.table path key), r)
    | _ => none
  | u =>
    match afterLine? u with
    | some r => some (none, r)
    | none => do
      let ((path, key, v), r) ← pair? (item? depthLimit) u
      (afterLine? r).map fun r => (some (.pair path key v), r)

/-- The statements of a text, which has at most so many lines. -/
def statements? : Nat → Text → Option (List Statement)
  | _, [] => some []
  | 0, _ => none
  | n + 1, t => do
    let (s, r) ← statement? t
    let ss ← statements? n r
    some (s.toList ++ ss)

/-- Carries statements out, from a table that was opened last. -/
def carryOut : List Text → Entries → List Statement → Option Entries
  | _, entries, [] => some entries
  | opened, entries, .pair path key v :: rest => do
    let entries ← Entries.grow .implied (fun _ inner => inner.addDotted path key v)
      .header opened entries
    carryOut opened entries rest
  | _, entries, .table path key :: rest => do
    carryOut (path ++ [key]) (← entries.addTable path key) rest
  | _, entries, .element path key :: rest => do
    carryOut (path ++ [key]) (← entries.addElement path key) rest

/-- The statements of a document, which may start with a byte order mark. -/
def readStatements? : Text → Option (List Statement)
  | c :: t =>
    if c = '\uFEFF' then statements? t.length t else statements? (t.length + 1) (c :: t)
  | [] => some []

/-- The table that a document is. -/
def Item.ofText? (t : Text) : Option Item := do
  let entries ← carryOut [] [] (← readStatements? t)
  some (.table .header entries)

end GuideBundles.Toml
