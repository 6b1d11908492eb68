/-
# `Proofs.Settings.RoundTrip` — a settings file is read as the settings it was written from

The file is made of parts: the header of each table, its entries, and the empty line behind it.
Parts can be deleted, a table only with its entries, and what remains is read as the settings with
the defaults for the entries that are gone.
-/
import GuideBundles.Proofs.Toml.Document
import GuideBundles.Settings.Load

namespace GuideBundles.Settings

open Toml (Item Value Line Statement Table)

variable {s : Settings}

/-! ## Parts of a file -/

def defaultsTable (s : Settings) : Table :=
  (Text.ofString "defaults", defaultsKeys.zip
    [.text s.outputDir.spelling, .text s.sectionsFile.spelling, .text s.indexDocument,
      .text s.sourceExtension])

def dialectsTable (s : Settings) : Table :=
  (Text.ofString "dialects", dialectsKeys.zip [.texts s.tags.snippet, .texts s.tags.command])

def emitTable (s : Settings) : Table :=
  (Text.ofString "emit", emitKeys.zip
    [.text s.emit.snippetExtension, .text s.emit.commandExtension, .text s.emit.installCommand,
      .text s.emit.runCommand, .text s.emit.defaultLink])

/-- The tables of a settings file. -/
def tables (s : Settings) : List Table := [s.defaultsTable, s.dialectsTable, s.emitTable]

/-- A part of a settings file that can be deleted. -/
inductive Part where
  | header (table : Text)
  | entry (table key : Text)
  /-- The empty line behind a table; the last one stands only where the file is shown. -/
  | blank (table : Text)
deriving DecidableEq

/-- The parts of a table, with their lines. -/
def tableParts (table : Table) : List (Part × Line) :=
  (.header table.1, .header table.1)
    :: table.2.map (fun (key, value) => (.entry table.1 key, .entry key value))
    ++ [(.blank table.1, .blank)]

/-- The parts of a settings file in their order. -/
def parts (s : Settings) : List (Part × Line) := s.tables.flatMap tableParts

/-- Which parts of a settings file stay when the others are deleted. -/
structure Cut where
  stays : Part → Bool
  /-- A table is deleted only with its entries. -/
  header_stays : ∀ {table key}, stays (.entry table key) = true → stays (.header table) = true

/-- What remains of a settings file. -/
def remaining (s : Settings) (cut : Cut) : Text :=
  (s.parts.filter fun part => cut.stays part.1).flatMap fun part => part.2.text

/-- The value of an entry that stays, or the default. -/
def Cut.pick {α : Type} (cut : Cut) (table key : String) (value default : α) : α :=
  if cut.stays (.entry (Text.ofString table) (Text.ofString key)) then value else default

/-- Settings with the defaults for the entries that are deleted. -/
def kept (s : Settings) (cut : Cut) : Settings :=
  let d : Settings := {}
  { outputDir := cut.pick "defaults" "output_dir" s.outputDir d.outputDir
    sectionsFile := cut.pick "defaults" "sections_file" s.sectionsFile d.sectionsFile
    indexDocument := cut.pick "defaults" "index_document" s.indexDocument d.indexDocument
    sourceExtension := cut.pick "defaults" "source_extension" s.sourceExtension d.sourceExtension
    tags := {
      snippet := cut.pick "dialects" "snippet_tags" s.tags.snippet d.tags.snippet
      command := cut.pick "dialects" "command_tags" s.tags.command d.tags.command }
    emit := {
      snippetExtension :=
        cut.pick "emit" "snippet_extension" s.emit.snippetExtension d.emit.snippetExtension
      commandExtension :=
        cut.pick "emit" "command_extension" s.emit.commandExtension d.emit.commandExtension
      installCommand :=
        cut.pick "emit" "install_command" s.emit.installCommand d.emit.installCommand
      runCommand := cut.pick "emit" "run_command" s.emit.runCommand d.emit.runCommand
      defaultLink := cut.pick "emit" "default_link" s.emit.defaultLink d.emit.defaultLink } }

/-! ## The whole file -/

theorem writeTable_eq (name : String) (keys : List Text) (values : List Value) :
    writeTable name keys (values.map Value.write) = (Line.header (Text.ofString name)).text ++
      (keys.zip values).flatMap fun (key, value) => (Line.entry key value).text := by
  rw [writeTable, List.zip_map_right, List.flatMap_map]
  rfl

theorem flatMap_parts (s : Settings) :
    (s.parts.flatMap fun part => part.2.text) = s.toText ++ ['\n'] := by
  have htable : ∀ name keys values, (tableParts (Text.ofString name, keys.zip values)).flatMap
      (fun part => part.2.text) = writeTable name keys (values.map Value.write) ++ ['\n'] := by
    intro name keys values
    rw [writeTable_eq, tableParts, List.flatMap_append, List.flatMap_cons, List.flatMap_map]
    rfl
  rw [parts, List.flatMap_assoc]
  unfold tables defaultsTable dialectsTable emitTable
  simp only [List.flatMap_cons, List.flatMap_nil, htable, toText, List.map_cons, List.map_nil,
    Value.write, List.append_assoc, List.cons_append, List.nil_append, List.append_nil]

/-! ## What remains -/

/-- The entries that stay of a table that stays. -/
def Cut.table (cut : Cut) (table : Table) : Table :=
  (table.1, table.2.filter fun entry => cut.stays (.entry table.1 entry.1))

/-- The tables that stay, with the entries that stay. -/
def Cut.tables (cut : Cut) (ts : List Table) : List Table :=
  (ts.filter fun table => cut.stays (.header table.1)).map cut.table

/-- What remains of a table states the table with what remains of its entries. -/
theorem filterMap_statement_tableParts (cut : Cut) (table : Table) :
    ((tableParts table).filter fun part => cut.stays part.1).filterMap
        (fun part => part.2.statement) =
      if cut.stays (.header table.1) then (cut.table table).statements else [] := by
  have hentries : ((table.2.map fun (key, value) =>
      ((.entry table.1 key, .entry key value) : Part × Line)).filter
        fun part => cut.stays part.1).filterMap (fun part => part.2.statement) =
      (cut.table table).2.map fun (key, value) => .pair [] key value.item := by
    rw [List.filter_map, List.filterMap_map]
    exact congrFun (List.filterMap_eq_map'
      (f := fun entry : Text × Value => Statement.pair [] entry.1 entry.2.item)) _
  have hblank : ([(.blank table.1, .blank)].filter fun part : Part × Line =>
      cut.stays part.1).filterMap (fun part => part.2.statement) = [] := by
    rw [List.filter_cons]
    split <;> rfl
  rw [tableParts, List.filter_append, List.filterMap_append, hblank, List.append_nil,
    List.filter_cons]
  split
  · rw [List.filterMap_cons, hentries]
    rfl
  · next hgone =>
    -- Entries cannot stay without their header: they would belong to the table before.
    rw [hentries, Cut.table, List.filter_eq_nil_iff.2, List.map_nil]
    exact fun entry _ hstays => hgone (cut.header_stays hstays)

theorem filterMap_statement_parts (cut : Cut) (ts : List Table) :
    ((ts.flatMap tableParts).filter fun part => cut.stays part.1).filterMap
      (fun part => part.2.statement) = (cut.tables ts).flatMap Table.statements := by
  induction ts with
  | nil => rfl
  | cons table ts ih =>
    rw [List.flatMap_cons, List.filter_append, List.filterMap_append, ih,
      filterMap_statement_tableParts]
    simp only [Cut.tables, List.filter_cons]
    split <;> rfl

/-! ## Keys -/

/-- The keys of the tables, each with the keys of its entries. -/
def outline : List (Text × List Text) := tableKeys.zip [defaultsKeys, dialectsKeys, emitKeys]

theorem map_tables (s : Settings) :
    (s.tables.map fun table => (table.1, table.2.map Prod.fst)) = outline := rfl

theorem outline_of_mem {table : Table} (h : table ∈ s.tables) :
    (table.1, table.2.map Prod.fst) ∈ outline :=
  map_tables s ▸ List.mem_map_of_mem h

theorem nodup_tables (s : Settings) : (s.tables.map Prod.fst).Nodup := by
  have h : s.tables.map Prod.fst = tableKeys := rfl
  rw [h]
  decide +kernel

/-- No key of a table stands twice. -/
theorem distinct_of_mem {table : Table} (h : table ∈ s.tables) : table.Distinct := by
  have hall : ∀ names ∈ outline, names.2.Nodup := by decide +kernel
  exact hall _ (outline_of_mem h)

/-- All keys can stand without quotes. -/
theorem isBareKey_of_mem {table : Table} (h : table ∈ s.tables) :
    Toml.isBareKey table.1 = true ∧ ∀ entry ∈ table.2, Toml.isBareKey entry.1 = true := by
  have hall : ∀ names ∈ outline,
      Toml.isBareKey names.1 = true ∧ ∀ key ∈ names.2, Toml.isBareKey key = true := by
    decide +kernel
  obtain ⟨hname, hkeys⟩ := hall _ (outline_of_mem h)
  exact ⟨hname, fun entry hentry => hkeys _ (List.mem_map_of_mem hentry)⟩

theorem isBare_of_mem_parts {part : Part × Line} (h : part ∈ s.parts) : part.2.IsBare := by
  obtain ⟨table, htable, h⟩ := List.mem_flatMap.1 h
  obtain ⟨hname, hentries⟩ := isBareKey_of_mem htable
  obtain h | h := List.mem_append.1 h
  · obtain rfl | h := List.mem_cons.1 h
    · exact hname
    · obtain ⟨entry, hentry, rfl⟩ := List.mem_map.1 h
      exact hentries entry hentry
  · obtain rfl := List.mem_singleton.1 h
    trivial

/-- What remains of tables still has no key twice. -/
theorem distinct_cut (s : Settings) (cut : Cut) : ((cut.tables s.tables).map Prod.fst).Nodup ∧
    ∀ table ∈ cut.tables s.tables, table.Distinct := by
  constructor
  · rw [Cut.tables, List.map_map]
    exact (nodup_tables s).sublist (List.filter_sublist.map Prod.fst)
  · intro table htable
    obtain ⟨whole, hwhole, rfl⟩ := List.mem_map.1 htable
    exact (distinct_of_mem (List.mem_filter.1 hwhole).1).sublist
      (List.filter_sublist.map Prod.fst)

/-- What remains of a settings file is read as the tables that stay. -/
theorem itemOfText?_remaining (s : Settings) (cut : Cut) :
    Item.ofText? (s.remaining cut) =
      some (.table .header (Toml.document (cut.tables s.tables))) := by
  obtain ⟨hdistinct, htables⟩ := distinct_cut s cut
  have hbare : ∀ l ∈ (s.parts.filter fun part => cut.stays part.1).map Prod.snd, l.IsBare := by
    intro l hl
    obtain ⟨part, hpart, rfl⟩ := List.mem_map.1 hl
    exact isBare_of_mem_parts (List.mem_filter.1 hpart).1
  have hstated := filterMap_statement_parts cut s.tables
  rw [remaining, ← List.flatMap_map]
  refine Item.ofText?_lines hbare ?_ htables hdistinct
  rw [List.filterMap_map]
  exact hstated

/-! ## Fields -/

/-- What is read under a key of the file, if it stays. -/
def Cut.field? (cut : Cut) (table key : Text) (value : Value) : Option Item :=
  if cut.stays (.entry table key) then some value.item else none

theorem lookup_document_cut {table : Table} (hmem : table ∈ s.tables) (cut : Cut) :
    (Toml.document (cut.tables s.tables)).lookup table.1 =
      if cut.stays (.header table.1) then some (.table .header (cut.table table).items)
      else none := by
  have hfound : s.tables.lookup table.1 = some table.2 :=
    (lookup_eq_some_iff_mem (nodup_tables s)).2 hmem
  have hcut := lookup_map_entry
    (fun t : Table => t.2.filter fun entry => cut.stays (.entry t.1 entry.1)) table.1
    (s.tables.filter fun t => cut.stays (.header t.1))
  rw [lookup_filter_key (fun name => cut.stays (.header name)), hfound] at hcut
  rw [Toml.lookup_document (distinct_cut s cut).1, Cut.tables]
  refine (congrArg _ hcut).trans ?_
  split <;> rfl

theorem lookup_items_cut {table : Table} (hmem : table ∈ s.tables) (cut : Cut)
    {entry : Text × Value} (hentry : entry ∈ table.2) :
    (cut.table table).items.lookup entry.1 = cut.field? table.1 entry.1 entry.2 := by
  have hdistinct := distinct_of_mem hmem
  have hfound : table.2.lookup entry.1 = some entry.2 :=
    (lookup_eq_some_iff_mem hdistinct).2 hentry
  have hcut : (cut.table table).Distinct := hdistinct.sublist (List.filter_sublist.map Prod.fst)
  rw [Table.lookup_items hcut, Cut.table,
    lookup_filter_key (fun key => cut.stays (.entry table.1 key)), hfound, Cut.field?]
  split <;> rfl

/-- A table has the fields that stay, also when it is deleted itself. -/
theorem tableOr_cut {table : Table} (hmem : table ∈ s.tables) (cut : Cut) :
    tableOr (table.2.map Prod.fst) ((Toml.document (cut.tables s.tables)).lookup table.1) =
      some (table.2.map fun entry => cut.field? table.1 entry.1 entry.2) := by
  rw [lookup_document_cut hmem]
  split
  · rw [tableOr, fieldOr, Item.fields?, List.map_map]
    exact congrArg some (List.map_congr_left fun entry => lookup_items_cut hmem cut)
  · next hgone =>
    rw [tableOr, fieldOr, List.map_map]
    refine congrArg some (List.map_congr_left fun entry _ => ?_)
    exact (if_neg fun hstays => hgone (cut.header_stays hstays)).symm

/-- The same for a table and a key as they are spelled. -/
def Cut.fieldAt (cut : Cut) (table key : String) (value : Value) : Option Item :=
  cut.field? (Text.ofString table) (Text.ofString key) value

theorem fieldOr_text (cut : Cut) (table key : String) (t default : Text) :
    fieldOr Item.text? default (cut.fieldAt table key (.text t)) =
      some (cut.pick table key t default) := by
  rw [Cut.fieldAt, Cut.field?, Cut.pick]
  split <;> rfl

theorem texts?_item (ts : List Text) : (Value.texts ts).item.texts? = some ts := by
  show (ts.map Item.text).mapM Item.text? = some ts
  induction ts with
  | nil => rfl
  | cons t ts ih => rw [List.map_cons, List.mapM_cons, ih]; rfl

theorem fieldOr_texts (cut : Cut) (table key : String) (ts default : List Text) :
    fieldOr Item.texts? default (cut.fieldAt table key (.texts ts)) =
      some (cut.pick table key ts default) := by
  rw [Cut.fieldAt, Cut.field?, Cut.pick]
  split
  · exact texts?_item ts
  · rfl

theorem spelling_pick (cut : Cut) (table key : String) (p q : Path) :
    ⟨cut.pick table key p.spelling q.spelling⟩ = cut.pick table key p q := by
  unfold Cut.pick
  split <;> rfl

/-- What remains of a settings file is read as the settings that are kept. -/
theorem ofText?_remaining (s : Settings) (cut : Cut) :
    ofText? (s.remaining cut) = some (s.kept cut) := by
  have hread := itemOfText?_remaining s cut
  have hfields := fun {table : Table} (hmem : table ∈ s.tables) => tableOr_cut hmem cut
  generalize Toml.document (cut.tables s.tables) = document at hread hfields
  have hdocument : Item.fields? tableKeys (.table .header document) =
      some [document.lookup (Text.ofString "defaults"), document.lookup (Text.ofString "dialects"),
        document.lookup (Text.ofString "emit")] := rfl
  have hdefaults : tableOr defaultsKeys (document.lookup (Text.ofString "defaults")) =
      some [cut.fieldAt "defaults" "output_dir" (.text s.outputDir.spelling),
        cut.fieldAt "defaults" "sections_file" (.text s.sectionsFile.spelling),
        cut.fieldAt "defaults" "index_document" (.text s.indexDocument),
        cut.fieldAt "defaults" "source_extension" (.text s.sourceExtension)] :=
    hfields (List.mem_cons_self : s.defaultsTable ∈ s.tables)
  have hdialects : tableOr dialectsKeys (document.lookup (Text.ofString "dialects")) =
      some [cut.fieldAt "dialects" "snippet_tags" (.texts s.tags.snippet),
        cut.fieldAt "dialects" "command_tags" (.texts s.tags.command)] :=
    hfields (List.mem_cons_of_mem _ List.mem_cons_self : s.dialectsTable ∈ s.tables)
  have hemit : tableOr emitKeys (document.lookup (Text.ofString "emit")) =
      some [cut.fieldAt "emit" "snippet_extension" (.text s.emit.snippetExtension),
        cut.fieldAt "emit" "command_extension" (.text s.emit.commandExtension),
        cut.fieldAt "emit" "install_command" (.text s.emit.installCommand),
        cut.fieldAt "emit" "run_command" (.text s.emit.runCommand),
        cut.fieldAt "emit" "default_link" (.text s.emit.defaultLink)] :=
    hfields (List.mem_cons_of_mem _ (List.mem_cons_of_mem _ List.mem_cons_self) :
      s.emitTable ∈ s.tables)
  rw [ofText?, hread, Option.bind_some, ofItem?]
  refine Option.bind_eq_some_iff.2 ⟨_, hdocument, ?_⟩
  refine Option.bind_eq_some_iff.2 ⟨_, hdefaults, ?_⟩
  refine Option.bind_eq_some_iff.2 ⟨_, hdialects, ?_⟩
  refine Option.bind_eq_some_iff.2 ⟨_, hemit, ?_⟩
  iterate 4 refine Option.bind_eq_some_iff.2 ⟨_, fieldOr_text cut _ _ _ _, ?_⟩
  iterate 2 refine Option.bind_eq_some_iff.2 ⟨_, fieldOr_texts cut _ _ _ _, ?_⟩
  iterate 5 refine Option.bind_eq_some_iff.2 ⟨_, fieldOr_text cut _ _ _ _, ?_⟩
  rw [spelling_pick, spelling_pick]
  rfl

/-! ## Files -/

/-- The cut that deletes nothing of a file as it is shown. -/
def Cut.shown : Cut := ⟨fun _ => true, fun _ => rfl⟩

/-- The cut to a file as it is written, without an empty line at its end. -/
def Cut.written : Cut :=
  ⟨fun part => part ≠ .blank (Text.ofString "emit"), fun _ => rfl⟩

theorem remaining_shown (s : Settings) : s.remaining .shown = s.toText ++ ['\n'] := by
  have hall : (s.parts.filter fun part => Cut.shown.stays part.1) = s.parts :=
    List.filter_eq_self.2 fun _ _ => rfl
  rw [remaining, hall, flatMap_parts]

theorem remaining_written (s : Settings) : s.remaining .written = s.toText := by
  have hsplit : s.parts = s.parts.dropLast ++ [(.blank (Text.ofString "emit"), .blank)] := rfl
  have hstays : ∀ part ∈ s.parts.dropLast, Cut.written.stays part.1 = true := by
    -- Which parts there are does not depend on the settings.
    have hnames : s.parts.dropLast.map Prod.fst = (parts {}).dropLast.map Prod.fst := rfl
    have hall : ∀ name ∈ (parts {}).dropLast.map Prod.fst, Cut.written.stays name = true := by
      decide +kernel
    exact fun part hpart => hall _ (hnames ▸ List.mem_map_of_mem hpart)
  have hfilter : ((s.parts.dropLast ++ [(Part.blank (Text.ofString "emit"), Line.blank)]).filter
      fun part => Cut.written.stays part.1) = s.parts.dropLast := by
    rw [List.filter_append, List.filter_eq_self.2 hstays]
    exact List.append_nil _
  have hshown := flatMap_parts s
  rw [hsplit, List.flatMap_append] at hshown
  rw [remaining, hsplit, hfilter]
  exact List.append_cancel_right hshown

/-- A file is read as what its text is read as. -/
theorem run_load {d : Disk} {p : Path} {l : Location} {t : Text}
    (hfile : d.find p = .ok (l, .file t.toBytes)) (h : ofText? t = some s) :
    (load p).run d = ⟨.ok s, d, []⟩ := by
  have hread : d.readText p = .ok t := by
    rw [Disk.readText, hfile]
    simp only [Text.ofBytes?_toBytes]
  have hrun : (Script.readText p).run d = ⟨.ok t, d, []⟩ := by
    show (Script.orFail p (d.readText p)).run d = _
    rw [hread]
    rfl
  rw [load, Script.run_bind, hrun, Script.Ending.andThen]
  simp only [h]
  rfl

/-- A settings file is read as the settings that were written or shown.  When any of the entries and
tables that make up its text are deleted, with the empty lines or without, it is read as the
settings with the defaults there. -/
theorem load_written (s : Settings) {d : Disk} {p : Path} {l : Location} {t : Text}
    (hfile : d.find p = .ok (l, .file t.toBytes)) :
    (t = s.toText → (load p).run d = ⟨.ok s, d, []⟩) ∧
      (t = s.toText ++ ['\n'] → (load p).run d = ⟨.ok s, d, []⟩) ∧
      (s.parts.flatMap fun part => part.2.text) = s.toText ++ ['\n'] ∧
      ∀ cut : Cut, t = s.remaining cut → (load p).run d = ⟨.ok (s.kept cut), d, []⟩ := by
  have hcut : ∀ cut : Cut, t = s.remaining cut → (load p).run d = ⟨.ok (s.kept cut), d, []⟩ := by
    rintro cut rfl
    exact run_load hfile (ofText?_remaining s cut)
  have hwritten : s.kept .written = s := rfl
  refine ⟨fun ht => ?_, fun ht => ?_, flatMap_parts s, hcut⟩
  · exact hwritten ▸ hcut .written (ht.trans (remaining_written s).symm)
  · exact hcut .shown (ht.trans (remaining_shown s).symm)

/-- A disk with one file. -/
def diskWith (t : Text) : Disk := Disk.put {} [['c']] (.file t.toBytes)

/-- Quotes of both kinds, line ends at the start, and control characters; then the table of the tags
is deleted, and one entry of another. -/
theorem load_written_awkward :
    let s : Settings :=
      { outputDir := Path.ofString "o"
        indexDocument := Text.ofString "\n'''\"\"\"\"\\\r\x01"
        tags := { snippet := [['"'], Text.ofString "\n''\"\""] } }
    let cut : Cut :=
      ⟨fun
        | .header table => table ≠ Text.ofString "dialects"
        | .entry table key => table ≠ Text.ofString "dialects" ∧ key ≠ Text.ofString "output_dir"
        | .blank _ => true,
      fun h => decide_eq_true (of_decide_eq_true h).1⟩
    let p := Path.ofString "/c"
    (load p).run (diskWith s.toText) = ⟨.ok s, diskWith s.toText, []⟩ ∧
      (load p).run (diskWith (s.toText ++ ['\n'])) = ⟨.ok s, diskWith (s.toText ++ ['\n']), []⟩ ∧
      (load p).run (diskWith (s.remaining cut)) =
        ⟨.ok { indexDocument := s.indexDocument }, diskWith (s.remaining cut), []⟩ := by
  intro s cut p
  have hfile : ∀ t, (diskWith t).find p = .ok ([['c']], .file t.toBytes) := fun _ => rfl
  have hkept : s.kept cut = { indexDocument := s.indexDocument } := by decide +kernel
  refine ⟨(load_written s (hfile _)).1 rfl, (load_written s (hfile _)).2.1 rfl, ?_⟩
  rw [← hkept]
  exact (load_written s (hfile _)).2.2.2 cut rfl

end GuideBundles.Settings
