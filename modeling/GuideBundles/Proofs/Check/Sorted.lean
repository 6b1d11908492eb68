/-
# `Proofs.Check.Sorted` — the findings have one order

A check sorts twice, the bundles of a directory and the files of each bundle, and never all the
files together.  That is enough: the files of a bundle have its name among their parts, so the names
of two bundles already decide the order of everything in them.  And since both sorts forget in which
order a directory lists its names, so do the findings.

Two kinds of bundles are not treated as one expects.  A bundle whose path is too long to be asked
for is passed over without a word (`bundle_passed_over_of_tooLong`).  And a name that starts with a
dot does not hide a directory if its bytes are no text (`isHiddenName_iff`); the names on a disk
here are texts, and a disk has no links.
-/
import GuideBundles.Proofs.Check.Findings
import GuideBundles.Proofs.Disk.Listed
import GuideBundles.Proofs.Path.Order
import GuideBundles.Proofs.Text.Slice

namespace GuideBundles.Check

variable {d d' m : Disk} {extension : Text} {dir p q : Path} {findings : List Finding}

/-! ## The order of what is looked at -/

/-- The paths in a directory are in the order of its names. -/
theorem entries_eq (d : Disk) (dir : Path) :
    entries d dir = ((d.names (d.locate dir)).mergeSort Text.before).map dir.join :=
  (List.map_mergeSort (f := dir.join) fun _ hm _ hn =>
    Path.before_join dir (Disk.name_of_mem_names hm) (Disk.name_of_mem_names hn)).symm

/-- There is nothing to sort when the directory lists its names in order. -/
theorem entries_of_pairwise (h : (d.names (d.locate dir)).Pairwise fun m n =>
    Text.before m n = true) : entries d dir = (d.names (d.locate dir)).map dir.join := by
  rw [entries_eq, List.mergeSort_of_pairwise h]

/-- The names of a directory, sorted, with two of them that follow each other. -/
theorem pairwise_precedes_names (d : Disk) (l : Location) :
    ((d.names l).mergeSort Text.before).Pairwise fun m n =>
      m ∈ d.names l ∧ n ∈ d.names l ∧ Text.Precedes m n := by
  refine (Text.pairwise_precedes_mergeSort (d.nodup_names l)).imp_of_mem fun hm hn h => ?_
  exact ⟨List.mem_mergeSort.1 hm, List.mem_mergeSort.1 hn, h⟩

theorem parts_join_of_mem_names {n : Text} (hn : n ∈ d.names (d.locate dir)) :
    (dir.join n).parts = dir.parts ++ [.name n] :=
  Path.parts_join dir (Disk.name_of_mem_names hn)

theorem pairwise_precedes_entries (d : Disk) (dir : Path) :
    (entries d dir).Pairwise Path.Precedes := by
  rw [entries_eq, List.pairwise_map]
  refine (pairwise_precedes_names d _).imp fun ⟨hm, hn, h⟩ => ?_
  exact Path.precedes_of_parts (parts_join_of_mem_names hm) (parts_join_of_mem_names hn) h

theorem pairwise_precedes_snippetsAt (d : Disk) (extension : Text) (p : Path) :
    (snippetsAt d extension p).Pairwise Path.Precedes := by
  unfold snippetsAt
  split
  · exact (pairwise_precedes_entries d p).filter _
  · exact .nil

/-- A file in a bundle has the name of the bundle among its parts. -/
theorem parts_of_mem_snippetsAt {b : Text} (hb : b ∈ d.names (d.locate dir))
    (hq : q ∈ snippetsAt d extension (dir.join b)) :
    ∃ n, q.parts = dir.parts ++ .name b :: [.name n] := by
  obtain ⟨-, -, n, hn, rfl, -⟩ := mem_snippetsAt_iff.1 hq
  refine ⟨n, ?_⟩
  rw [parts_join_of_mem_names hn, parts_join_of_mem_names hb, List.append_assoc,
    List.singleton_append]

/-- The snippet files are in order over all bundles. -/
theorem pairwise_precedes_snippets (d : Disk) (extension : Text) (dir : Path) :
    (snippets d extension dir).Pairwise Path.Precedes := by
  rw [snippets, List.pairwise_flatMap, entries_eq, List.pairwise_map]
  refine ⟨fun p _ => pairwise_precedes_snippetsAt d extension p, ?_⟩
  refine (pairwise_precedes_names d _).imp fun hbc p hp q hq => ?_
  obtain ⟨hb, hc, h⟩ := hbc
  obtain ⟨m, hm⟩ := parts_of_mem_snippetsAt hb hp
  obtain ⟨n, hn⟩ := parts_of_mem_snippetsAt hc hq
  exact Path.precedes_of_parts hm hn h

/-! ## The order of the findings -/

theorem path_of_mem_findingsAt {f : Finding} (h : f ∈ findingsAt d p) : f.path = p :=
  (mem_findingsAt_iff.1 h).1

/-- There is at most one finding at a file. -/
theorem pairwise_findingsAt (R : Finding → Finding → Prop) (d : Disk) (p : Path) :
    (findingsAt d p).Pairwise R := by
  unfold findingsAt
  split
  · next t _ => cases SnippetIssue.ofText t <;> simp
  · exact .nil

theorem pairwise_precedes_findings (d : Disk) (extension : Text) (dir : Path) :
    ((snippets d extension dir).flatMap (findingsAt d)).Pairwise fun f g =>
      f.path.Precedes g.path := by
  refine List.pairwise_flatMap.2 ⟨fun p _ => pairwise_findingsAt _ d p, ?_⟩
  refine (pairwise_precedes_snippets d extension dir).imp fun h f hf g hg => ?_
  rwa [path_of_mem_findingsAt hf, path_of_mem_findingsAt hg]

/-! ## The order of a directory does not show -/

theorem entries_of_same (h : Disk.Same d m) (dir : Path) : entries m dir = entries d dir := by
  rw [entries_eq, entries_eq, Disk.locate_congr h.here, Text.mergeSort_eq_of_perm (h.names_perm _)]

theorem snippets_of_same (h : Disk.Same d m) (extension : Text) (dir : Path) :
    snippets m extension dir = snippets d extension dir := by
  have hat : snippetsAt m extension = snippetsAt d extension := by
    funext p
    rw [snippetsAt, snippetsAt, entries_of_same h, h.isDirectory_eq]
  rw [snippets, snippets, entries_of_same h, hat]

/-- A check that ends well on a disk ends alike on every disk that holds the same. -/
theorem ends_checkAll_of_same (h : Disk.Same d m)
    (hcheck : (checkAll extension dir).Ends d (.ok findings) d') :
    (checkAll extension dir).Ends m (.ok findings) m := by
  obtain ⟨hfind, hread, hfindings, -⟩ := ends_checkAll.1 hcheck
  have hat : findingsAt m = findingsAt d := funext fun p => by
    rw [findingsAt, findingsAt, h.readText_eq]
  refine ends_checkAll.2 ⟨?_, ?_, ?_, rfl⟩
  · rwa [h.find_eq, Disk.locate_congr h.here]
  · simpa only [snippets_of_same h, h.readText_eq] using hread
  · rwa [snippets_of_same h, hat]

/-! ## What a check finds -/

/-- The findings are what is wrong with the files that have the extension and lie in directories
whose name does not start with a dot and whose path is not too long, each file once, in the order of
their paths over all these directories.  In which order the directories list their names does not
matter, and nothing on the disk changes. -/
theorem findings_sorted (h : (checkAll extension dir).Ends d (.ok findings) d') :
    d' = d ∧
    (∀ q x, ⟨q, x⟩ ∈ findings ↔ ∃ b n data t,
      d.get? (d.locate dir ++ [b] ++ [n]) = some (.file data) ∧ b.head? ≠ some '.' ∧
      Text.size (dir.join b).spelling < Path.tooLong ∧ (dir.join b).join n = q ∧
      q.extension? = some extension ∧ Text.ofBytes? data = some t ∧
      SnippetIssue.ofText t = some x) ∧
    (findings.map Finding.path).Nodup ∧
    (findings.Pairwise fun f g => f.path.Precedes g.path) ∧
    (∀ listing : Location → List Text, (∀ l, (listing l).Perm (d.names l)) →
      ∃ m, Disk.Same d m ∧ ∀ l, m.names l = listing l) ∧
    ∀ m, Disk.Same d m → (checkAll extension dir).Ends m (.ok findings) m := by
  obtain ⟨hdir, hread, rfl, rfl⟩ := ends_checkAll.1 h
  have hsorted := pairwise_precedes_findings d extension dir
  refine ⟨rfl, fun q x => ?_, ?_, hsorted, fun _ => Disk.exists_same_of_listing,
    fun m hm => ends_checkAll_of_same hm h⟩
  · have hextension {b n : Text} {e : Entry} (he : d.get? (d.locate dir ++ [b] ++ [n]) = some e) :
        ((dir.join b).join n).extension? = Path.extensionOf n := by
      have hn := Disk.name_of_mem_names (Disk.mem_names_iff.2 ⟨_, he⟩)
      rw [Path.extension?, Path.fileName?_join _ hn, Option.bind_some]
    rw [mem_findings_iff h]
    constructor
    · rintro ⟨hq, t, ht, hx⟩
      obtain ⟨b, n, e, he, hhidden, hshort, rfl, hn⟩ := (mem_snippets_iff_get? hdir).1 hq
      obtain ⟨data, rfl, htext⟩ := file_of_readText he ht
      exact ⟨b, n, data, t, he, hhidden, hshort, rfl, (hextension he).trans hn, htext, hx⟩
    · rintro ⟨b, n, data, t, he, hhidden, hshort, rfl, hn, htext, hx⟩
      have hq := (mem_snippets_iff_get? hdir).2
        ⟨b, n, _, he, hhidden, hshort, rfl, (hextension he).symm.trans hn⟩
      obtain ⟨t', ht'⟩ := hread _ hq
      obtain ⟨data', hdata, htext'⟩ := file_of_readText he ht'
      obtain rfl := Entry.file.inj hdata
      obtain rfl := Option.some.inj (htext.symm.trans htext')
      exact ⟨hq, t, ht', hx⟩
  · exact List.pairwise_map.2 (hsorted.imp Path.Precedes.ne)

/-- A disk with two bundles and something hidden beside them.  As texts, the paths of what lies in
the bundles have the other order, for a hyphen comes before a slash. -/
def drawer : Disk :=
  ["a-b", "a", ".c"].foldl (fun d b => (d.put [['o'], Text.ofString b] .directory).put
    [['o'], Text.ofString b, Text.ofString "x.py"] (.file (Text.ofString "# T").toBytes))
    (Disk.put {} [['o']] .directory)

theorem ends_checkAll_drawer : (checkAll (Text.ofString "py") (Path.ofString "o")).Ends drawer
    (.ok [⟨Path.ofString "o/a/x.py", .tooFewLines⟩, ⟨Path.ofString "o/a-b/x.py", .tooFewLines⟩])
    drawer := by
  have hentries : entries drawer (Path.ofString "o")
      = [Path.ofString "o/.c", Path.ofString "o/a", Path.ofString "o/a-b"] := by
    rw [entries_of_pairwise (by decide +kernel)]
    decide +kernel
  have ha : entries drawer (Path.ofString "o/a") = [Path.ofString "o/a/x.py"] := by
    rw [entries_of_pairwise (by decide +kernel)]
    decide +kernel
  have hab : entries drawer (Path.ofString "o/a-b") = [Path.ofString "o/a-b/x.py"] := by
    rw [entries_of_pairwise (by decide +kernel)]
    decide +kernel
  have hsnippets : snippets drawer (Text.ofString "py") (Path.ofString "o")
      = [Path.ofString "o/a/x.py", Path.ofString "o/a-b/x.py"] := by
    rw [snippets, hentries, List.flatMap_cons, List.flatMap_cons, List.flatMap_singleton]
    rw [snippetsAt, snippetsAt, snippetsAt, ha, hab]
    decide +kernel
  refine ends_checkAll.2 ⟨Disk.isDirectory_iff.1 (by decide +kernel), ?_, ?_, rfl⟩
  · have hread : ∀ q ∈ [Path.ofString "o/a/x.py", Path.ofString "o/a-b/x.py"],
        drawer.readText q = .ok (Text.ofString "# T") := by decide +kernel
    rw [hsnippets]
    exact fun q hq => ⟨_, hread q hq⟩
  · rw [hsnippets]
    decide +kernel

theorem findings_sorted_drawer :
    (checkAll (Text.ofString "py") (Path.ofString "o")).Ends drawer
      (.ok [⟨Path.ofString "o/a/x.py", .tooFewLines⟩, ⟨Path.ofString "o/a-b/x.py", .tooFewLines⟩])
      drawer ∧
    (Path.ofString "o/a/x.py").Precedes (Path.ofString "o/a-b/x.py") ∧
    ∃ m, Disk.Same drawer m ∧ m.names [['o']] = ["a-b", "a", ".c"].map Text.ofString ∧
      (checkAll (Text.ofString "py") (Path.ofString "o")).Ends m
        (.ok [⟨Path.ofString "o/a/x.py", .tooFewLines⟩,
          ⟨Path.ofString "o/a-b/x.py", .tooFewLines⟩]) m := by
  obtain ⟨-, -, -, hsorted, hlisting, hsame⟩ := findings_sorted ends_checkAll_drawer
  obtain ⟨m, hm, hlisted⟩ :=
    hlisting (fun l => (drawer.names l).reverse) fun l => List.reverse_perm _
  have hreversed : (drawer.names [['o']]).reverse = ["a-b", "a", ".c"].map Text.ofString := by
    decide +kernel
  have hfirst := List.rel_of_pairwise_cons hsorted (List.mem_singleton_self _)
  exact ⟨ends_checkAll_drawer, hfirst, m, hm, (hlisted _).trans hreversed, hsame m hm⟩

/-! ## What is passed over, and what is not -/

/-- The directory of the drawer, spelled so that there is no room for the name of a bundle. -/
def farDrawer : Path := ⟨'o' :: List.replicate 4094 '/'⟩

/-- Asked for by a path that is too long, a bundle is no directory, and a check that goes well
passes it over with the snippet in it. -/
theorem bundle_passed_over_of_tooLong :
    (checkAll (Text.ofString "py") farDrawer).Ends drawer (.ok []) drawer ∧
    drawer.locate farDrawer = drawer.locate (Path.ofString "o") ∧
    drawer.readText (Path.ofString "o/a/x.py") = .ok (Text.ofString "# T") ∧
    SnippetIssue.ofText (Text.ofString "# T") = some .tooFewLines := by
  have hdir : drawer.find farDrawer = .ok (drawer.locate farDrawer, .directory) :=
    Disk.isDirectory_iff.1 (by decide +kernel)
  have hsnippets : snippets drawer (Text.ofString "py") farDrawer = [] := by
    refine List.eq_nil_iff_forall_not_mem.2 fun q hq => ?_
    obtain ⟨b, n, e, he, -, hshort, -⟩ := (mem_snippets_iff_get? hdir).1 hq
    obtain ⟨hne, -, -, hslash⟩ :=
      Disk.name_of_mem_names (Disk.mem_names_iff.2 ⟨_, (Disk.parent_of_get? he).2⟩)
    have hfront : Text.size farDrawer.front = 4095 := by decide +kernel
    have hname : Text.size b ≠ 0 := fun h => hne (Text.size_eq_zero_iff.1 h)
    rw [Path.join_eq farDrawer (Path.head?_ne_of_not_mem hslash), Text.size_append, hfront,
      Path.tooLong] at hshort
    omega
  refine ⟨ends_checkAll.2 ⟨hdir, ?_, ?_, rfl⟩, ?_, ?_, ?_⟩
  · rw [hsnippets]
    exact nofun
  · rw [hsnippets]
    rfl
  · decide +kernel
  · decide +kernel
  · decide

/-- A name is hidden when its first byte is that of a dot and it is a text. -/
theorem isHiddenName_iff {name : ByteArray} : isHiddenName name = true ↔
    name.data.toList.head? = some 0x2E ∧ ∃ n, Text.toBytes n = name := by
  rw [isHiddenName, Option.any_eq_true]
  constructor
  · rintro ⟨n, hn, hdot⟩
    obtain rfl := Text.ofBytes?_eq_some_iff.1 hn
    exact ⟨Text.head?_bytes_eq_dot_iff.2 (beq_iff_eq.1 hdot), n, rfl⟩
  · rintro ⟨hdot, n, rfl⟩
    exact ⟨n, Text.ofBytes?_toBytes n, beq_iff_eq.2 (Text.head?_bytes_eq_dot_iff.1 hdot)⟩

/-- A dot does not hide a name that is no text. -/
theorem not_isHiddenName_of_dot :
    let name : ByteArray := ⟨#[0x2E, 0xFF]⟩
    name.data.toList.head? = some 0x2E ∧ isHiddenName name = false := by
  decide +kernel

end GuideBundles.Check
