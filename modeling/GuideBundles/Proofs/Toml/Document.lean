/-
# `Proofs.Toml.Document` — reading a document of plain tables

A document of headers, of entries that hold texts or arrays of texts, and of blank lines is read
line by line: each of its lines is a statement wherever it stands, and carrying the statements out
gives the tables of the headers, each with its entries.
-/
import GuideBundles.Proofs.Toml.Phrase
import GuideBundles.Lookup

namespace GuideBundles.Toml

variable {t r : Text} {n : Nat}

/-! ## Lines -/

/-- Whether a key can be written without quotes. -/
def isBareKey (key : Text) : Bool := !key.isEmpty && key.all isBare

/-- A line of a document; the value of an entry may be written on several. -/
inductive Line where
  | header (key : Text)
  | entry (key : Text) (value : Value)
  | blank

namespace Line

/-- A line as it is written. -/
def text : Line → Text
  | header key => '[' :: key ++ Text.ofString "]\n"
  | entry key value => key ++ Text.ofString " = " ++ value.write ++ ['\n']
  | blank => ['\n']

/-- What a line states. -/
def statement : Line → Option Statement
  | header key => some (.table [] key)
  | entry key value => some (.pair [] key value.item)
  | blank => none

/-- Whether the key of a line can stand without quotes. -/
def IsBare : Line → Prop
  | header key => isBareKey key = true
  | entry key _ => isBareKey key = true
  | blank => True

theorem text_ne_nil (l : Line) : l.text ≠ [] := by
  cases l <;> simp [text]

end Line

theorem isBare_of_mem {key : Text} (hkey : isBareKey key = true) : ∀ c ∈ key, isBare c = true :=
  List.all_eq_true.1 (Bool.and_eq_true_iff.1 hkey).2

/-- A bare key begins with a character that no other token begins with. -/
theorem eq_cons_of_isBareKey {key : Text} (hkey : isBareKey key = true) :
    ∃ c u, key = c :: u ∧ isBare c = true := by
  cases key with
  | nil => cases hkey
  | cons c u => exact ⟨c, u, rfl, isBare_of_mem hkey c List.mem_cons_self⟩

theorem ne_of_isBare {c d : Char} (hc : isBare c = true) (hd : isBare d = false) : c ≠ d := by
  rintro rfl
  exact absurd (hc.symm.trans hd) (by decide)

/-- No line begins with a byte order mark. -/
theorem Line.text_eq_cons {l : Line} (hl : l.IsBare) :
    ∃ c u, l.text = c :: u ∧ c ≠ '\uFEFF' := by
  cases l with
  | header key => exact ⟨_, _, rfl, by decide⟩
  | entry key value =>
    obtain ⟨c, u, rfl, hc⟩ := eq_cons_of_isBareKey hl
    exact ⟨c, _, rfl, ne_of_isBare hc (by decide)⟩
  | blank => exact ⟨_, _, rfl, by decide⟩

theorem skip_bare {c : Char} (hc : isBare c = true) : skip (c :: r) = c :: r := by
  have hspace : (c == ' ') = false := beq_false_of_ne (ne_of_isBare hc (by decide))
  have htab : (c == '\t') = false := beq_false_of_ne (ne_of_isBare hc (by decide))
  rw [skip, List.dropWhile_cons, hspace, htab]
  rfl

theorem keyPart?_bare {key : Text} {c : Char} (hkey : isBareKey key = true)
    (hc : isBare c = false) : keyPart? (key ++ c :: r) = some (key, c :: r) := by
  have htake : (key ++ c :: r).takeWhile isBare = key := by
    rw [List.takeWhile_append_of_pos (isBare_of_mem hkey), List.takeWhile_cons, hc]
    exact List.append_nil key
  have hdrop : (key ++ c :: r).dropWhile isBare = c :: r := by
    rw [List.dropWhile_append_of_pos (isBare_of_mem hkey), List.dropWhile_cons, hc]
    rfl
  obtain ⟨d, u, rfl, hd⟩ := eq_cons_of_isBareKey hkey
  rw [List.cons_append] at htake hdrop ⊢
  rw [keyPart?]
  · rw [htake, hdrop]
  · exact fun _ h => ne_of_isBare hd (by decide) (List.cons_eq_cons.1 h).1
  · exact fun _ h => ne_of_isBare hd (by decide) (List.cons_eq_cons.1 h).1

theorem key?_bare {key : Text} {c : Char} (hkey : isBareKey key = true) (hc : isBare c = false)
    (hdot : (skip (c :: r)).head? ≠ some '.') :
    key? (n + 1) (key ++ c :: r) = some ([], key, skip (c :: r)) := by
  have hskip : skip (key ++ c :: r) = key ++ c :: r := by
    obtain ⟨d, u, rfl, hd⟩ := eq_cons_of_isBareKey hkey
    exact skip_bare hd
  rw [key?, hskip, keyPart?_bare hkey hc, Option.bind_eq_bind, Option.bind_some]
  simp only
  split
  · next h => exact absurd (h ▸ rfl) hdot
  · rfl

/-- A line that begins with a key does not end there. -/
theorem afterLine?_bare {c : Char} (hc : isBare c = true) : afterLine? (c :: r) = none := by
  rw [afterLine?, skip_bare hc]
  have hcomment := ne_of_isBare hc (d := '#') (by decide)
  have hbreak := ne_of_isBare hc (d := '\n') (by decide)
  have hreturn := ne_of_isBare hc (d := '\r') (by decide)
  split
  · next h => exact absurd (List.cons_eq_cons.1 h).1 hcomment
  · unfold afterBreak?
    split
    · next h => cases h
    · next h => exact absurd (List.cons_eq_cons.1 h).1 hbreak
    · next h => exact absurd (List.cons_eq_cons.1 h).1 hreturn
    · rfl

theorem statement?_header {key : Text} (hkey : isBareKey key = true) :
    statement? ((Line.header key).text ++ r) = some (some (.table [] key), r) := by
  have htext : (Line.header key).text ++ r = '[' :: (key ++ ']' :: '\n' :: r) := by
    simp only [Line.text, List.append_assoc, List.cons_append]
    rfl
  have hskip : skip ('[' :: (key ++ ']' :: '\n' :: r)) = '[' :: (key ++ ']' :: '\n' :: r) := rfl
  have hname : key? depthLimit (key ++ ']' :: '\n' :: r) = some ([], key, ']' :: '\n' :: r) :=
    key?_bare (n := 78) hkey (by decide) (by simp [skip])
  obtain ⟨d, u, rfl, hd⟩ := eq_cons_of_isBareKey hkey
  rw [htext, statement?, hskip]
  split
  · next h =>
    obtain ⟨-, h⟩ := List.cons_eq_cons.1 h
    exact absurd (List.cons_eq_cons.1 h).1 (ne_of_isBare hd (by decide))
  · next h =>
    obtain ⟨-, rfl⟩ := List.cons_eq_cons.1 h
    rw [hname]
    rfl
  · next h => exact absurd rfl (h _)

theorem pair?_bare {key : Text} (hkey : isBareKey key = true) {read? : Text → Option (Item × Text)}
    {v : Item} (hread : read? (skip t) = some (v, r)) :
    pair? read? (key ++ ' ' :: '=' :: t) = some (([], key, v), r) := by
  have hname : key? depthLimit (key ++ ' ' :: '=' :: t) = some ([], key, '=' :: t) :=
    key?_bare (n := 78) hkey (by decide) (by simp [skip])
  rw [pair?, hname, Option.bind_eq_bind, Option.bind_some]
  simp only
  rw [hread]
  rfl

theorem skip_value (v : Value) : skip (' ' :: (v.write ++ r)) = v.write ++ r := by
  cases v with
  | text t =>
    obtain ⟨q, u, hq, rfl | rfl⟩ := write_eq_cons t
    all_goals rw [Value.write, hq]; rfl
  | texts ts =>
    match ts with
    | [] | [_] | _ :: _ :: _ => rfl

theorem statement?_entry {key : Text} (hkey : isBareKey key = true) (value : Value) :
    statement? ((Line.entry key value).text ++ r) = some (some (.pair [] key value.item), r) := by
  have htext : (Line.entry key value).text ++ r =
      key ++ ' ' :: '=' :: ' ' :: (value.write ++ '\n' :: r) := by
    simp only [Line.text, List.append_assoc, List.cons_append]
    rfl
  have hpair : pair? (item? depthLimit) (key ++ ' ' :: '=' :: ' ' :: (value.write ++ '\n' :: r)) =
      some (([], key, value.item), '\n' :: r) := by
    refine pair?_bare hkey ?_
    rw [skip_value]
    exact item?_value (n := 78) value (by simp) (by simp)
  obtain ⟨d, u, rfl, hd⟩ := eq_cons_of_isBareKey hkey
  rw [List.cons_append] at htext hpair
  rw [htext, statement?, skip_bare hd]
  split
  · next h => exact absurd (List.cons_eq_cons.1 h).1 (ne_of_isBare hd (by decide))
  · next h => exact absurd (List.cons_eq_cons.1 h).1 (ne_of_isBare hd (by decide))
  · rw [afterLine?_bare hd]
    simp only
    rw [hpair]
    rfl

/-- A line is a statement wherever it stands. -/
theorem statement?_line {l : Line} (hl : l.IsBare) :
    statement? (l.text ++ r) = some (l.statement, r) := by
  cases l with
  | header key => exact statement?_header hl
  | entry key value => exact statement?_entry hl value
  | blank => rfl

theorem statements?_lines {ls : List Line} (hls : ∀ l ∈ ls, l.IsBare) (hn : ls.length ≤ n) :
    statements? n (ls.flatMap Line.text) = some (ls.filterMap Line.statement) := by
  induction ls generalizing n with
  | nil => cases n <;> rfl
  | cons l ls ih =>
    obtain ⟨n, rfl⟩ : ∃ k, n = k + 1 := ⟨n - 1, by rw [List.length_cons] at hn; omega⟩
    have hline := statement?_line (r := ls.flatMap Line.text) (hls l List.mem_cons_self)
    have hrest := ih (fun l hl => hls l (List.mem_cons_of_mem _ hl)) (Nat.le_of_succ_le_succ hn)
    obtain ⟨c, u, htext, -⟩ := Line.text_eq_cons (hls l List.mem_cons_self)
    rw [htext, List.cons_append] at hline
    rw [List.flatMap_cons, htext, List.cons_append, statements?]
    · simp only [hline, hrest, Option.bind_eq_bind, Option.bind_some, List.filterMap_cons]
      cases l.statement <;> rfl
    · exact List.cons_ne_nil _ _

/-- A document of lines is read as what the lines state. -/
theorem readStatements?_lines {ls : List Line} (hls : ∀ l ∈ ls, l.IsBare) :
    readStatements? (ls.flatMap Line.text) = some (ls.filterMap Line.statement) := by
  -- The reader allows as many lines as there are characters.
  have hlength := length_le_length_flatMap ls Line.text_ne_nil
  have hread := statements?_lines hls hlength
  cases ls with
  | nil => rfl
  | cons l ls =>
    obtain ⟨c, u, htext, hmark⟩ := Line.text_eq_cons (hls l List.mem_cons_self)
    rw [List.flatMap_cons, htext, List.cons_append] at hread ⊢
    rw [readStatements?, if_neg hmark]
    exact hread

/-! ## Tables -/

/-- A table with its entries. -/
abbrev Table := Text × List (Text × Value)

namespace Table

/-- What a document states for a table. -/
def statements (table : Table) : List Statement :=
  .table [] table.1 :: table.2.map fun (key, value) => .pair [] key value.item

/-- The items under the keys of a table; the newest stands first. -/
def items (table : Table) : Entries := (table.2.map fun (key, value) => (key, value.item)).reverse

/-- Whether no key of a table stands twice. -/
def Distinct (table : Table) : Prop := (table.2.map Prod.fst).Nodup

end Table

/-- The entries of a document of tables. -/
def document (tables : List Table) : Entries :=
  (tables.map fun table => (table.1, Item.table .header table.items)).reverse

theorem Table.lookup_items {table : Table} (h : table.Distinct) (key : Text) :
    table.items.lookup key = (table.2.lookup key).map Value.item :=
  lookup_reverse_map_entry (fun entry : Text × Value => entry.2.item) key h

theorem lookup_document {tables : List Table} (h : (tables.map Prod.fst).Nodup) (name : Text) :
    (document tables).lookup name =
      (tables.lookup name).map fun entries => .table .header (Table.items (name, entries)) :=
  lookup_reverse_map_entry (fun table : Table => Item.table .header table.items) name h

namespace Entries

variable {entries inner : Entries} {key name : Text} {v : Item}

theorem set_of_lookup_eq_none (h : entries.lookup key = none) :
    entries.set key v = (key, v) :: entries := by
  rw [set, List.filter_eq_self.2]
  intro e he
  exact decide_eq_true (Ne.symm (bne_iff_ne.1 (List.lookup_eq_none_iff.1 h e he)))

/-- The entry that was set last can be set again. -/
theorem set_cons {v' : Item} (h : entries.lookup key = none) :
    Entries.set ((key, v) :: entries) key v' = (key, v') :: entries := by
  rw [set, List.filter_cons_of_neg (by simp)]
  exact set_of_lookup_eq_none h

theorem lookup_cons_of_ne {k : Text} (hne : k ≠ key) (h : entries.lookup k = none) :
    ((key, v) :: entries).lookup k = none := by
  rw [List.lookup_cons, beq_false_of_ne hne]
  exact h

theorem addTable_nil (h : entries.lookup key = none) :
    entries.addTable [] key = some ((key, .table .header []) :: entries) := by
  rw [addTable, grow]
  simp only [h, set_of_lookup_eq_none h]

/-- A pair goes into the table that was opened last. -/
theorem carryOut_pair {rest : List Statement} (hname : entries.lookup name = none)
    (hkey : inner.lookup key = none) :
    carryOut [name] ((name, .table .header inner) :: entries) (.pair [] key v :: rest) =
      carryOut [name] ((name, .table .header ((key, v) :: inner)) :: entries) rest := by
  have hadd : inner.addDotted [] key v = some ((key, v) :: inner) := by
    simp [addDotted, grow, add, hkey, set_of_lookup_eq_none hkey]
  rw [carryOut, grow, List.lookup_cons_self]
  simp [mayEnter, grow, hadd, set_cons hname]

/-- The entries of a table go into it in turn. -/
theorem carryOut_pairs (inner : Entries) (es : List (Text × Value)) (rest : List Statement)
    (hname : entries.lookup name = none) (hdistinct : (es.map Prod.fst).Nodup)
    (hnew : ∀ e ∈ es, inner.lookup e.1 = none) :
    carryOut [name] ((name, .table .header inner) :: entries)
        ((es.map fun (key, value) => .pair [] key value.item) ++ rest) =
      carryOut [name] ((name, .table .header
        ((es.map fun (key, value) => (key, value.item)).reverse ++ inner)) :: entries) rest := by
  induction es generalizing inner with
  | nil => rfl
  | cons e es ih =>
    obtain ⟨hfirst, hdistinct⟩ := List.nodup_cons.1 hdistinct
    have hnew' : ∀ e' ∈ es, List.lookup e'.1 ((e.1, e.2.item) :: inner) = none := by
      intro e' he'
      refine lookup_cons_of_ne ?_ (hnew e' (List.mem_cons_of_mem _ he'))
      exact fun heq => hfirst (heq ▸ List.mem_map_of_mem he')
    rw [List.map_cons, List.cons_append, carryOut_pair hname (hnew e List.mem_cons_self),
      ih _ hdistinct hnew']
    simp

/-- Carrying out what a document states gives its tables. -/
theorem carryOut_statements (opened : List Text) (entries : Entries) (tables : List Table)
    (htables : ∀ table ∈ tables, table.Distinct) (hdistinct : (tables.map Prod.fst).Nodup)
    (hnew : ∀ table ∈ tables, entries.lookup table.1 = none) :
    carryOut opened entries (tables.flatMap Table.statements) =
      some (document tables ++ entries) := by
  induction tables generalizing opened entries with
  | nil => rfl
  | cons table tables ih =>
    obtain ⟨hfirst, hdistinct⟩ := List.nodup_cons.1 hdistinct
    have hname := hnew table List.mem_cons_self
    have hnew' : ∀ t ∈ tables,
        List.lookup t.1 ((table.1, .table .header table.items) :: entries) = none := by
      intro t ht
      refine lookup_cons_of_ne ?_ (hnew t (List.mem_cons_of_mem _ ht))
      exact fun heq => hfirst (heq ▸ List.mem_map_of_mem ht)
    have hpairs := carryOut_pairs [] table.2 (tables.flatMap Table.statements) hname
      (htables table List.mem_cons_self) fun _ _ => rfl
    have hrest := ih [table.1] ((table.1, .table .header table.items) :: entries)
      (fun t ht => htables t (List.mem_cons_of_mem _ ht)) hdistinct hnew'
    rw [List.flatMap_cons, Table.statements, List.cons_append, carryOut, addTable_nil hname]
    refine hpairs.trans ?_
    rw [List.append_nil]
    refine hrest.trans ?_
    simp only [document, List.map_cons, List.reverse_cons, List.append_assoc,
      List.singleton_append]

end Entries

/-- A document of lines that state tables is these tables. -/
theorem Item.ofText?_lines {ls : List Line} {tables : List Table} (hls : ∀ l ∈ ls, l.IsBare)
    (hstated : ls.filterMap Line.statement = tables.flatMap Table.statements)
    (htables : ∀ table ∈ tables, table.Distinct) (hdistinct : (tables.map Prod.fst).Nodup) :
    Item.ofText? (ls.flatMap Line.text) = some (.table .header (document tables)) := by
  have hcarry := Entries.carryOut_statements [] [] tables htables hdistinct fun _ _ => rfl
  rw [Item.ofText?, readStatements?_lines hls, hstated]
  simp only [Option.bind_eq_bind, Option.bind_some, hcarry, List.append_nil]

end GuideBundles.Toml
