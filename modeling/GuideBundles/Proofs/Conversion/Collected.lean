/-
# `Proofs.Conversion.Collected` — which documents are collected

The documents in a directory are the files there whose names are names of documents, in the order of
these names.  All of them have one extension, so two documents never share an identifier.
-/
import GuideBundles.Proofs.Conversion.Converted
import GuideBundles.Proofs.Disk.Way
import GuideBundles.Proofs.Path.Stem
import GuideBundles.Proofs.Text.Order

namespace GuideBundles.Conversion

variable {s : Settings} {dir : Path} {d d' : Disk}

/-- The names of the documents in a directory, in order. -/
def documentNames (d : Disk) (s : Settings) (dir : Path) : List Text :=
  (((d.names (d.locate dir)).filter (isDocumentName s)).mergeSort Text.before).filter
    fun n => d.isFile (dir.join n)

/-- The paths of the documents in a directory, in the order of their names. -/
def documents (d : Disk) (s : Settings) (dir : Path) : List Path :=
  (documentNames d s dir).map dir.join

/-! ## What the collector returns -/

theorem ends_keepFiles {ps qs : List Path} :
    (keepFiles ps).Ends d (.ok qs) d' ↔ ps.filter d.isFile = qs ∧ d = d' := by
  induction ps generalizing qs d' with
  | nil => rw [keepFiles, Script.ends_pure, Except.ok.injEq, List.filter_nil]
  | cons p rest ih =>
    rw [keepFiles, List.filter_cons]
    constructor
    · intro h
      obtain ⟨found, m, hfound, h⟩ := Script.ends_bind_ok.1 h
      obtain ⟨rfl, rfl⟩ := Script.ends_isFile.1 hfound
      obtain ⟨kept, m, hkept, h⟩ := Script.ends_bind_ok.1 h
      obtain ⟨rfl, rfl⟩ := ih.1 hkept
      obtain ⟨hqs, rfl⟩ := Script.ends_pure.1 h
      exact ⟨Except.ok.inj hqs, rfl⟩
    · rintro ⟨rfl, rfl⟩
      refine Script.ends_bind_ok.2 ⟨_, d, Script.ends_isFile.2 ⟨rfl, rfl⟩, ?_⟩
      exact Script.ends_bind_ok.2 ⟨_, d, ih.2 ⟨rfl, rfl⟩, Script.ends_pure.2 ⟨rfl, rfl⟩⟩

theorem documents_eq (d : Disk) (s : Settings) (dir : Path) :
    documents d s dir = ((((d.names (d.locate dir)).filter (isDocumentName s)).mergeSort
      Text.before).map dir.join).filter d.isFile := by
  rw [List.filter_map]
  rfl

/-- There is nothing to sort when the directory lists its names in order. -/
theorem documentNames_of_pairwise (h : ((d.names (d.locate dir)).filter
    (isDocumentName s)).Pairwise fun m n => Text.before m n = true) :
    documentNames d s dir =
      ((d.names (d.locate dir)).filter (isDocumentName s)).filter fun n =>
        d.isFile (dir.join n) := by
  rw [documentNames, List.mergeSort_of_pairwise h]

/-- A directory that is found has its documents collected, and the disk stays as it is. -/
theorem ends_collect {ps : List Path} : (collect s dir).Ends d (.ok ps) d' ↔
    d.find dir = .ok (d.locate dir, .directory) ∧ documents d s dir = ps ∧ d = d' := by
  rw [documents_eq, collect]
  constructor
  · intro h
    obtain ⟨names, m, hlist, h⟩ := Script.ends_bind_ok.1 h
    obtain ⟨hnames, rfl⟩ := Script.ends_list.1 hlist
    obtain ⟨hfind, rfl⟩ := Disk.list_eq_ok_iff.1 hnames
    exact ⟨hfind, ends_keepFiles.1 h⟩
  · rintro ⟨hfind, hps, rfl⟩
    have hlist := Script.ends_list.2 ⟨Disk.list_eq_ok_iff.2 ⟨hfind, rfl⟩, rfl⟩
    exact Script.ends_bind_ok.2 ⟨_, d, hlist, ends_keepFiles.2 ⟨hps, rfl⟩⟩

/-! ## Names of documents -/

/-- A name is the name of a document when it is formed like one and a file is found by it. -/
theorem mem_documentNames_iff {n : Text} : n ∈ documentNames d s dir ↔
    (n ≠ [] ∧ n ≠ ['.'] ∧ n ≠ ['.', '.'] ∧ '/' ∉ n) ∧ isDocumentName s n = true ∧
      d.isFile (dir.join n) = true := by
  rw [documentNames, List.mem_filter, List.mem_mergeSort, List.mem_filter, and_assoc]
  constructor
  · rintro ⟨hmem, hrest⟩
    exact ⟨Disk.name_of_mem_names hmem, hrest⟩
  · rintro ⟨⟨hn, h₁, h₂, hs⟩, hname, hfile⟩
    refine ⟨?_, hname, hfile⟩
    obtain ⟨data, hdata⟩ := Disk.file_of_isFile hfile
    rw [Disk.locate_join_name d dir hn hs h₁ h₂] at hdata
    exact Disk.mem_names_iff.2 ⟨_, hdata⟩

theorem fileName?_of_mem_documentNames {n : Text} (hn : n ∈ documentNames d s dir) :
    (dir.join n).fileName? = some n :=
  Path.fileName?_join dir (mem_documentNames_iff.1 hn).1

theorem nodup_documentNames (d : Disk) (s : Settings) (dir : Path) :
    (documentNames d s dir).Nodup := by
  refine List.Nodup.filter _ ?_
  rw [(List.mergeSort_perm _ _).nodup_iff]
  exact (d.nodup_names _).filter _

theorem nodup_documents (d : Disk) (s : Settings) (dir : Path) : (documents d s dir).Nodup := by
  refine (nodup_documentNames d s dir).map_on ?_
  intro m hm n hn h
  have hname := congrArg Path.fileName? h
  rw [fileName?_of_mem_documentNames hm, fileName?_of_mem_documentNames hn] at hname
  exact Option.some.inj hname

theorem pairwise_documentNames (d : Disk) (s : Settings) (dir : Path) :
    (documentNames d s dir).Pairwise fun m n => Text.before m n = true :=
  (Text.pairwise_mergeSort _).filter _

theorem extensionOf_of_isDocumentName {n : Text} (h : isDocumentName s n = true) :
    Path.extensionOf n = some s.sourceExtension :=
  beq_iff_eq.1 (Bool.and_eq_true_iff.1 h).1

/-! ## Identifiers of documents -/

variable {n : Text} {p q : Path} {a b id : ExampleId}

/-- The identifier of a document is its name without the extension. -/
theorem text_of_mem_documentNames (hn : n ∈ documentNames d s dir)
    (hid : ExampleId.ofPath (dir.join n) = .ok id) : id.text = Path.stemOf n := by
  have hstem := ExampleId.stem?_of_ofPath hid
  rw [Path.stem?, fileName?_of_mem_documentNames hn] at hstem
  exact (Option.some.inj hstem).symm

/-- An identifier begins as the name of its document does. -/
theorem head?_text_of_mem_documentNames (hn : n ∈ documentNames d s dir)
    (hid : ExampleId.ofPath (dir.join n) = .ok id) : id.text.head? = n.head? := by
  rw [text_of_mem_documentNames hn hid]
  exact Path.head?_stemOf (extensionOf_of_isDocumentName (mem_documentNames_iff.1 hn).2.1)

/-- All of them have one extension, so two documents in a directory have two stems. -/
theorem stem?_ne_of_mem_documents (hp : p ∈ documents d s dir) (hq : q ∈ documents d s dir)
    (hne : p ≠ q) : p.stem? ≠ q.stem? := by
  obtain ⟨m, hm, rfl⟩ := List.mem_map.1 hp
  obtain ⟨n, hn, rfl⟩ := List.mem_map.1 hq
  have hmext := extensionOf_of_isDocumentName (mem_documentNames_iff.1 hm).2.1
  have hnext := extensionOf_of_isDocumentName (mem_documentNames_iff.1 hn).2.1
  rw [Path.stem?, Path.stem?, fileName?_of_mem_documentNames hm, fileName?_of_mem_documentNames hn]
  exact fun h => hne (congrArg dir.join (Path.eq_of_stemOf_eq hmext hnext (Option.some.inj h)))

/-- Two documents in a directory have two identifiers. -/
theorem text_ne_of_mem_documents (hp : p ∈ documents d s dir) (hq : q ∈ documents d s dir)
    (hne : p ≠ q) (ha : ExampleId.ofPath p = .ok a) (hb : ExampleId.ofPath q = .ok b) :
    a.text ≠ b.text := by
  have hstem := stem?_ne_of_mem_documents hp hq hne
  rw [ExampleId.stem?_of_ofPath ha, ExampleId.stem?_of_ofPath hb] at hstem
  exact fun h => hstem (congrArg some h)

/-! ## Two documents -/

/-- A disk with documents of the given names in one directory, which lists the last one first. -/
def shelf (names : List Text) : Disk :=
  names.foldl (fun d n => d.put [['d'], n] (.file (Text.ofString "# T").toBytes))
    (Disk.put {} [['d']] .directory)

/-- A disk with two documents. -/
def pair : Disk := shelf [Text.ofString "b.md", Text.ofString "a.md"]

theorem documentNames_pair : documentNames pair { outputDir := Path.ofString "o" }
    (Path.ofString "d") = [Text.ofString "a.md", Text.ofString "b.md"] := by
  rw [documentNames_of_pairwise (by decide +kernel)]
  decide +kernel

theorem ends_collect_pair : (collect { outputDir := Path.ofString "o" } (Path.ofString "d")).Ends
    pair (.ok [Path.ofString "d/a.md", Path.ofString "d/b.md"]) pair := by
  refine ends_collect.2 ⟨Disk.isDirectory_iff.1 (by decide +kernel), ?_, rfl⟩
  rw [documents, documentNames_pair]
  rfl

end GuideBundles.Conversion
