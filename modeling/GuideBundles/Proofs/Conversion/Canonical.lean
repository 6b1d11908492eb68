/-
# `Proofs.Conversion.Canonical` — the documents of a directory have one order and one place each

Which documents are collected, and in which order, does not depend on the order in which the
directory lists them.  They are ordered by the bytes of their names.  All of them have one
extension, so their stems differ, and two of them never want one place for their bundles: only
identifiers of dots can name a common place, the root, and nothing is ever converted to such a
place.  Names are texts and places have no links, as on every disk here.
-/
import GuideBundles.Proofs.Conversion.Collected
import GuideBundles.Proofs.Disk.Listed
import GuideBundles.Proofs.Text.Bytes

namespace GuideBundles.Conversion

variable {s : Settings} {dir p q : Path} {a b : ExampleId} {d d' : Disk}

/-! ## The order of a directory -/

/-- The same documents are collected on disks that hold the same. -/
theorem documents_eq_of_same (h : Disk.Same d d') (s : Settings) (dir : Path) :
    documents d' s dir = documents d s dir := by
  have hfile : d'.isFile = d.isFile := funext h.isFile_eq
  rw [documents_eq, documents_eq, Disk.locate_congr h.here,
    Text.mergeSort_eq_of_perm ((h.names_perm _).filter _), hfile]

theorem ends_collect_of_same (hdir : d.isDirectory dir = true) (h : Disk.Same d d') :
    (collect s dir).Ends d' (.ok (documents d s dir)) d' := by
  have hfind := Disk.isDirectory_iff.1 hdir
  rw [← Disk.locate_congr h.here, ← h.find_eq] at hfind
  exact ends_collect.2 ⟨hfind, documents_eq_of_same h s dir, rfl⟩

/-- The documents are the files in the directory with the extension, but for the index. -/
theorem mem_documents_iff : p ∈ documents d s dir ↔ ∃ n ∈ d.names (d.locate dir), dir.join n = p ∧
    d.isFile p = true ∧ p.extension? = some s.sourceExtension ∧
    p.fileName? ≠ some s.indexDocument := by
  have hname {n : Text} (hn : n ∈ d.names (d.locate dir)) : isDocumentName s n = true ↔
      (dir.join n).extension? = some s.sourceExtension ∧
        (dir.join n).fileName? ≠ some s.indexDocument := by
    rw [isDocumentName, Path.extension?, Path.fileName?_join dir (Disk.name_of_mem_names hn),
      Option.bind_some, Bool.and_eq_true, beq_iff_eq, bne_iff_ne, Ne, Ne, Option.some.injEq]
  rw [documents_eq, List.mem_filter, List.mem_map]
  constructor
  · rintro ⟨⟨n, hn, rfl⟩, hfile⟩
    rw [List.mem_mergeSort, List.mem_filter] at hn
    exact ⟨n, hn.1, rfl, hfile, (hname hn.1).1 hn.2⟩
  · rintro ⟨n, hn, rfl, hfile, hdocument⟩
    refine ⟨⟨n, ?_, rfl⟩, hfile⟩
    rw [List.mem_mergeSort, List.mem_filter]
    exact ⟨hn, (hname hn).2 hdocument⟩

/-- Their names increase. -/
theorem pairwise_precedes_documents (d : Disk) (s : Settings) (dir : Path) :
    (documents d s dir).Pairwise fun p q =>
      ∃ m ∈ p.fileName?, ∃ n ∈ q.fileName?, Text.Precedes m n := by
  rw [documents, List.pairwise_map]
  have hnames : (documentNames d s dir).Pairwise Text.Precedes :=
    (Text.pairwise_precedes_mergeSort ((d.nodup_names _).filter _)).filter _
  exact hnames.imp_of_mem fun hm hn hmn =>
    ⟨_, fileName?_of_mem_documentNames hm, _, fileName?_of_mem_documentNames hn, hmn⟩

/-! ## Places -/

/-- An identifier that is a name has a place for its bundle that no other identifier has. -/
theorem eq_dots_of_locate_eq (ha : a.text ≠ [] ∧ '/' ∉ a.text) (hb : b.text ≠ [] ∧ '/' ∉ b.text)
    (hne : a.text ≠ b.text) (h : d.locate (bundleDir s a) = d.locate (bundleDir s b)) :
    a.text = ['.'] ∨ a.text = ['.', '.'] := by
  by_contra hname
  rw [not_or] at hname
  rw [bundleDir, bundleDir, Disk.locate_join_name d _ ha.1 ha.2 hname.1 hname.2,
    Disk.locate_join d _ hb.1 hb.2] at h
  -- the place of the other bundle is no deeper, unless it has a name, which is then the same
  cases hstep : Path.stepOf b.text with
  | root => exact Path.stepOf_ne_root _ hstep
  | here =>
    rw [hstep] at h
    simpa [Disk.follow] using congrArg List.length h
  | up =>
    rw [hstep] at h
    have hlength := congrArg List.length h
    rw [Disk.follow, List.length_append, List.length_dropLast, List.length_singleton] at hlength
    omega
  | name n =>
    rw [hstep] at h
    obtain ⟨hn, -, -⟩ := Path.stepOf_eq_name_iff.1 hstep
    exact hne ((List.singleton_inj.1 (List.append_cancel_left h)).trans hn.symm)

/-- No document is converted under an identifier of dots. -/
theorem ne_dots_of_convertDocument (hid : ExampleId.ofPath p = .ok a)
    (hrun : (convertDocument s p).Ends d (.ok .converted) d') :
    ¬ (a.text = ['.'] ∨ a.text = ['.', '.']) := by
  obtain ⟨id, hid', ⟨-, ho, -⟩ | ⟨-, -, hnew⟩⟩ := ends_convertDocument hrun
  · cases ho
  · obtain rfl := Except.ok.inj (hid.symm.trans hid')
    obtain ⟨hid₀, hslash⟩ := ExampleId.name_of_ofPath hid
    exact not_or.2 (ne_dots_of_convertNew hid₀ hslash hnew)

/-- Documents that do not compete: their stems differ, so do their identifiers and the paths of
their bundles, and where these paths lead to a common place neither of them is ever converted. -/
structure Uncontested (s : Settings) (p q : Path) : Prop where
  stem : p.stem? ≠ q.stem?
  id : ∀ a b, ExampleId.ofPath p = .ok a → ExampleId.ofPath q = .ok b → a ≠ b
  dir : ∀ a b, ExampleId.ofPath p = .ok a → ExampleId.ofPath q = .ok b →
    bundleDir s a ≠ bundleDir s b
  place : ∀ a b, ExampleId.ofPath p = .ok a → ExampleId.ofPath q = .ok b → ∀ d : Disk,
    d.locate (bundleDir s a) = d.locate (bundleDir s b) → ∀ r ∈ [p, q], ∀ m m' : Disk,
      ¬ (convertDocument s r).Ends m (.ok .converted) m'

theorem uncontested_of_mem_documents (hp : p ∈ documents d s dir) (hq : q ∈ documents d s dir)
    (hne : p ≠ q) : Uncontested s p q where
  stem := stem?_ne_of_mem_documents hp hq hne
  id := fun _ _ ha hb h =>
    text_ne_of_mem_documents hp hq hne ha hb (congrArg ExampleId.text h)
  dir := by
    intro a b ha hb h
    obtain ⟨ha₀, haslash⟩ := ExampleId.name_of_ofPath ha
    obtain ⟨hb₀, hbslash⟩ := ExampleId.name_of_ofPath hb
    have hsteps := congrArg Path.steps h
    rw [bundleDir, bundleDir, Path.steps_join _ ha₀ haslash,
      Path.steps_join _ hb₀ hbslash] at hsteps
    have hstep := List.singleton_inj.1 (List.append_cancel_left hsteps)
    exact text_ne_of_mem_documents hp hq hne ha hb (Path.stepOf_inj hstep)
  place := by
    intro a b ha hb m h r hr m₁ m₂ hrun
    have htext := text_ne_of_mem_documents hp hq hne ha hb
    have hname := ExampleId.name_of_ofPath ha
    have hname' := ExampleId.name_of_ofPath hb
    rcases List.mem_pair.1 hr with rfl | rfl
    · exact ne_dots_of_convertDocument ha hrun (eq_dots_of_locate_eq hname hname' htext h)
    · exact ne_dots_of_convertDocument hb hrun
        (eq_dots_of_locate_eq hname' hname htext.symm h.symm)

/-! ## The documents of a directory -/

/-- Whatever the order in which a directory lists its names, the same documents are collected: the
files with the extension, but for the index, in the order of the bytes of their names.  No two of
them compete. -/
theorem collect_canonical (hdir : d.isDirectory dir = true) :
    (∀ d', Disk.Same d d' → (collect s dir).Ends d' (.ok (documents d s dir)) d') ∧
    (∀ listing : Location → List Text, (∀ l, (listing l).Perm (d.names l)) →
      ∃ d', Disk.Same d d' ∧ ∀ l, d'.names l = listing l) ∧
    (∀ p, p ∈ documents d s dir ↔ ∃ n ∈ d.names (d.locate dir), dir.join n = p ∧
      d.isFile p = true ∧ p.extension? = some s.sourceExtension ∧
      p.fileName? ≠ some s.indexDocument) ∧
    ((documents d s dir).Pairwise fun p q =>
      ∃ m ∈ p.fileName?, ∃ n ∈ q.fileName?, Text.Precedes m n) ∧
    ∀ p ∈ documents d s dir, ∀ q ∈ documents d s dir, p ≠ q → Uncontested s p q :=
  ⟨fun _ => ends_collect_of_same hdir, fun _ => Disk.exists_same_of_listing,
    fun _ => mem_documents_iff, pairwise_precedes_documents d s dir,
    fun _ hp _ hq => uncontested_of_mem_documents hp hq⟩

/-- A disk with three documents, an index, and a file whose name has no extension. -/
def shelved : Disk :=
  shelf (["b.md", ".md", "a.md", "index.md", "a.b.md"].map Text.ofString)

theorem documents_shelved : documents shelved { outputDir := Path.ofString "o" } (Path.ofString "d")
    = ["d/a.b.md", "d/a.md", "d/b.md"].map Path.ofString := by
  have hnames : documentNames shelved { outputDir := Path.ofString "o" } (Path.ofString "d")
      = ["a.b.md", "a.md", "b.md"].map Text.ofString := by
    rw [documentNames_of_pairwise (by decide +kernel)]
    decide +kernel
  rw [documents, hnames]
  rfl

theorem collect_canonical_shelved : shelved.isDirectory (Path.ofString "d") = true ∧
    (∃ d', Disk.Same shelved d' ∧ d'.names [['d']]
        = ["b.md", ".md", "a.md", "index.md", "a.b.md"].map Text.ofString ∧
      (collect { outputDir := Path.ofString "o" } (Path.ofString "d")).Ends d'
        (.ok (["d/a.b.md", "d/a.md", "d/b.md"].map Path.ofString)) d') ∧
    Uncontested { outputDir := Path.ofString "o" } (Path.ofString "d/a.b.md")
      (Path.ofString "d/a.md") := by
  have hdir : shelved.isDirectory (Path.ofString "d") = true := by decide +kernel
  obtain ⟨hsame, hlisting, -, -, hplaces⟩ :=
    collect_canonical (s := { outputDir := Path.ofString "o" }) hdir
  rw [documents_shelved] at hsame hplaces
  obtain ⟨d', hd', hlisted⟩ :=
    hlisting (fun l => (shelved.names l).reverse) fun l => List.reverse_perm _
  have hreversed : (shelved.names [['d']]).reverse
      = ["b.md", ".md", "a.md", "index.md", "a.b.md"].map Text.ofString := by decide +kernel
  exact ⟨hdir, ⟨d', hd', (hlisted _).trans hreversed, hsame d' hd'⟩,
    hplaces _ (by decide) _ (by decide) (by decide)⟩

end GuideBundles.Conversion
