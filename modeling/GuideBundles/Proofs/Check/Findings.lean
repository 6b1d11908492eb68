/-
# `Proofs.Check.Findings` — what is found in the bundles of a directory

A check that ends well has read every snippet file of every bundle, in order, and tells what is
wrong with each; the disk stays as it is.
-/
import GuideBundles.Check
import GuideBundles.Proofs.Disk.Names
import GuideBundles.Proofs.Disk.Way
import GuideBundles.Proofs.Path.Stem
import GuideBundles.Proofs.Script

namespace GuideBundles.Check

variable {d d' : Disk} {extension : Text} {dir p q : Path} {findings : List Finding}

/-! ## What is looked at -/

/-- The paths of what lies in a directory, in order. -/
def entries (d : Disk) (dir : Path) : List Path :=
  ((d.names (d.locate dir)).map dir.join).mergeSort Path.before

/-- The snippet files in a directory, if it counts as a bundle. -/
def snippetsAt (d : Disk) (extension : Text) (p : Path) : List Path :=
  if d.isDirectory p && !isHidden p then
    (entries d p).filter fun q => q.extension? == some extension
  else []

/-- The snippet files of all bundles of a directory. -/
def snippets (d : Disk) (extension : Text) (dir : Path) : List Path :=
  (entries d dir).flatMap (snippetsAt d extension)

/-- What is wrong with a file that can be read. -/
def findingsAt (d : Disk) (p : Path) : List Finding :=
  match d.readText p with
  | .ok t => (SnippetIssue.ofText t).toList.map (Finding.mk p)
  | .error _ => []

theorem mem_entries_iff : q ∈ entries d dir ↔ ∃ n ∈ d.names (d.locate dir), dir.join n = q := by
  rw [entries, List.mem_mergeSort, List.mem_map]

/-- What a directory lists is hidden when its name starts with a dot. -/
theorem isHidden_join {n : Text} (hn : n ∈ d.names (d.locate dir)) :
    isHidden (dir.join n) = (n.head? == some '.') := by
  rw [isHidden, Path.fileName?_join dir (Disk.name_of_mem_names hn), Option.any_some, isHiddenName,
    Text.ofBytes?_toBytes, Option.any_some]

theorem extension?_join {n : Text} (hn : n ∈ d.names (d.locate dir)) :
    (dir.join n).extension? = Path.extensionOf n := by
  rw [Path.extension?, Path.fileName?_join dir (Disk.name_of_mem_names hn), Option.bind_some]

theorem mem_snippetsAt_iff : q ∈ snippetsAt d extension p ↔
    d.isDirectory p = true ∧ isHidden p = false ∧
      ∃ n ∈ d.names (d.locate p), p.join n = q ∧ Path.extensionOf n = some extension := by
  unfold snippetsAt
  split
  · next hbundle =>
    rw [Bool.and_eq_true, Bool.not_eq_true'] at hbundle
    rw [List.mem_filter, mem_entries_iff, beq_iff_eq]
    constructor
    · rintro ⟨⟨n, hn, rfl⟩, hextension⟩
      rw [extension?_join hn] at hextension
      exact ⟨hbundle.1, hbundle.2, n, hn, rfl, hextension⟩
    · rintro ⟨-, -, n, hn, rfl, hextension⟩
      exact ⟨⟨n, hn, rfl⟩, (extension?_join hn).trans hextension⟩
  · next hother =>
    constructor
    · exact nofun
    · rintro ⟨hdir, hhidden, -⟩
      rw [hdir, hhidden] at hother
      exact absurd rfl hother

/-- A snippet file lies in a directory whose name does not start with a dot, and its own name has
the extension. -/
theorem mem_snippets_iff : q ∈ snippets d extension dir ↔
    ∃ b ∈ d.names (d.locate dir), b.head? ≠ some '.' ∧ d.isDirectory (dir.join b) = true ∧
      ∃ n ∈ d.names (d.locate (dir.join b)), (dir.join b).join n = q ∧
        Path.extensionOf n = some extension := by
  rw [snippets, List.mem_flatMap]
  constructor
  · rintro ⟨p, hp, hq⟩
    obtain ⟨b, hb, rfl⟩ := mem_entries_iff.1 hp
    obtain ⟨hdir, hhidden, hfile⟩ := mem_snippetsAt_iff.1 hq
    rw [isHidden_join hb, beq_eq_false_iff_ne] at hhidden
    exact ⟨b, hb, hhidden, hdir, hfile⟩
  · rintro ⟨b, hb, hhidden, hdir, hfile⟩
    refine ⟨dir.join b, mem_entries_iff.2 ⟨b, hb, rfl⟩, mem_snippetsAt_iff.2 ⟨hdir, ?_, hfile⟩⟩
    rw [isHidden_join hb, beq_eq_false_iff_ne]
    exact hhidden

/-- A file that has a name in a bundle is a snippet file when its name has the extension. -/
theorem mem_snippets_of_get? {b n : Text} {e : Entry}
    (hdir : d.find dir = .ok (d.locate dir, .directory)) (hb : b.head? ≠ some '.')
    (hflaw : (dir.join b).flaw? = none) (hfile : d.get? (d.locate dir ++ [b] ++ [n]) = some e)
    (hextension : Path.extensionOf n = some extension) :
    (dir.join b).join n ∈ snippets d extension dir := by
  have hbundle := (Disk.parent_of_get? hfile).2
  have hmem := Disk.mem_names_iff.2 ⟨_, hbundle⟩
  obtain ⟨hb₀, h₁, h₂, hslash⟩ := Disk.name_of_mem_names hmem
  have hloc := Disk.locate_join_name d dir hb₀ hslash h₁ h₂
  have hfind : d.find (dir.join b) = .ok (d.locate dir ++ [b], .directory) :=
    Disk.find_join_of_walk hb₀ hslash (Path.stepOf_eq_name_iff.2 ⟨rfl, h₁, h₂⟩) hflaw
      (Disk.walk_of_find_ok hdir) hbundle
  rw [← hloc] at hfile hfind
  exact mem_snippets_iff.2 ⟨b, hmem, hb, Disk.isDirectory_iff.2 hfind, n,
    Disk.mem_names_iff.2 ⟨e, hfile⟩, rfl, hextension⟩

/-- The snippet files by where they lie.  A directory with a path that is too long is not taken for
a directory, so what is in it is left out. -/
theorem mem_snippets_iff_get? (hdir : d.find dir = .ok (d.locate dir, .directory)) :
    q ∈ snippets d extension dir ↔ ∃ b n e, d.get? (d.locate dir ++ [b] ++ [n]) = some e ∧
      b.head? ≠ some '.' ∧ Text.size (dir.join b).spelling < Path.tooLong ∧
      (dir.join b).join n = q ∧ Path.extensionOf n = some extension := by
  have hflaw := Disk.flaw?_of_find_ok hdir
  constructor
  · intro h
    obtain ⟨b, hb, hhidden, hbundle, n, hn, rfl, hextension⟩ := mem_snippets_iff.1 h
    obtain ⟨hb₀, h₁, h₂, hslash⟩ := Disk.name_of_mem_names hb
    rw [Disk.locate_join_name d dir hb₀ hslash h₁ h₂] at hn
    obtain ⟨e, he⟩ := Disk.mem_names_iff.1 hn
    have hname := (Disk.parent_of_get? (Disk.parent_of_get? he).2).1
    have hshort := (Disk.flaw?_join_eq_none_iff hflaw hname).1
      (Disk.flaw?_of_find_ok (Disk.isDirectory_iff.1 hbundle))
    exact ⟨b, n, e, he, hhidden, hshort, rfl, hextension⟩
  · rintro ⟨b, n, e, he, hhidden, hshort, rfl, hextension⟩
    have hname := (Disk.parent_of_get? (Disk.parent_of_get? he).2).1
    exact mem_snippets_of_get? hdir hhidden ((Disk.flaw?_join_eq_none_iff hflaw hname).2 hshort) he
      hextension

/-- A file that can be read by its path is the one that lies there. -/
theorem file_of_readText {b n t : Text} {e : Entry}
    (hfile : d.get? (d.locate dir ++ [b] ++ [n]) = some e)
    (h : d.readText ((dir.join b).join n) = .ok t) :
    ∃ data, e = .file data ∧ Text.ofBytes? data = some t := by
  obtain ⟨data, hfind, htext⟩ := Disk.readText_eq_ok_iff.1 h
  have hbundle := (Disk.parent_of_get? hfile).2
  obtain ⟨hb₀, hb₁, hb₂, hb⟩ := Disk.name_of_mem_names (Disk.mem_names_iff.2 ⟨_, hbundle⟩)
  obtain ⟨hn₀, hn₁, hn₂, hn⟩ := Disk.name_of_mem_names (Disk.mem_names_iff.2 ⟨_, hfile⟩)
  have hat := (Disk.find_ok hfind).2
  rw [Disk.locate_join_name d _ hn₀ hn hn₁ hn₂, Disk.locate_join_name d _ hb₀ hb hb₁ hb₂,
    hfile] at hat
  exact ⟨data, Option.some.inj hat, htext⟩

theorem mem_findingsAt_iff {x : SnippetIssue} : ⟨q, x⟩ ∈ findingsAt d p ↔
    q = p ∧ ∃ t, d.readText p = .ok t ∧ SnippetIssue.ofText t = some x := by
  unfold findingsAt
  cases hread : d.readText p with
  | error f =>
    constructor
    · exact nofun
    · rintro ⟨rfl, t, ht, -⟩
      cases ht
  | ok t =>
    constructor
    · intro h
      obtain ⟨y, hy, heq⟩ := List.mem_map.1 h
      obtain ⟨rfl, rfl⟩ := Finding.mk.inj heq
      exact ⟨rfl, t, rfl, Option.mem_toList.1 hy⟩
    · rintro ⟨rfl, t', ht', hx⟩
      obtain rfl := Except.ok.inj ht'
      exact List.mem_map.2 ⟨x, Option.mem_toList.2 hx, rfl⟩

/-! ## How a check ends -/

theorem ends_pathsIn {ps : List Path} : (pathsIn dir).Ends d (.ok ps) d' ↔
    d.find dir = .ok (d.locate dir, .directory) ∧ entries d dir = ps ∧ d = d' := by
  unfold pathsIn
  constructor
  · intro h
    obtain ⟨names, m, hlist, h⟩ := Script.ends_bind_ok.1 h
    obtain ⟨hnames, rfl⟩ := Script.ends_list.1 hlist
    obtain ⟨hfind, rfl⟩ := Disk.list_eq_ok_iff.1 hnames
    obtain ⟨hps, rfl⟩ := Script.ends_pure.1 h
    exact ⟨hfind, Except.ok.inj hps, rfl⟩
  · rintro ⟨hfind, rfl, rfl⟩
    have hlist := Script.ends_list.2 ⟨Disk.list_eq_ok_iff.2 ⟨hfind, rfl⟩, rfl⟩
    exact Script.ends_bind_ok.2 ⟨_, d, hlist, Script.ends_pure.2 ⟨rfl, rfl⟩⟩

theorem checkFile_eq (p : Path) : checkFile p = (do
    let t ← Script.readText p
    pure ((SnippetIssue.ofText t).toList.map (Finding.mk p))) := by
  refine bind_congr fun t => ?_
  cases SnippetIssue.ofText t <;> rfl

theorem ends_checkFile : (checkFile p).Ends d (.ok findings) d' ↔
    (∃ t, d.readText p = .ok t) ∧ findingsAt d p = findings ∧ d = d' := by
  rw [checkFile_eq, findingsAt]
  constructor
  · intro h
    obtain ⟨t, m, hread, h⟩ := Script.ends_bind_ok.1 h
    obtain ⟨ht, rfl⟩ := Script.ends_readText.1 hread
    obtain ⟨hfindings, rfl⟩ := Script.ends_pure.1 h
    rw [ht]
    exact ⟨⟨t, rfl⟩, Except.ok.inj hfindings, rfl⟩
  · rintro ⟨⟨t, ht⟩, rfl, rfl⟩
    refine Script.ends_bind_ok.2 ⟨t, d, Script.ends_readText.2 ⟨ht, rfl⟩, ?_⟩
    rw [ht]
    exact Script.ends_pure.2 ⟨rfl, rfl⟩

/-- Several checks end well when each of them does, with all their findings in order. -/
theorem ends_checkEach {check : Path → Script (List Finding)} {Fit : Path → Prop}
    {look : Path → List Finding} {ps : List Path}
    (h : ∀ p ∈ ps, ∀ found m, (check p).Ends d (.ok found) m ↔ Fit p ∧ look p = found ∧ d = m) :
    (checkEach check ps).Ends d (.ok findings) d' ↔
      (∀ p ∈ ps, Fit p) ∧ ps.flatMap look = findings ∧ d = d' := by
  induction ps generalizing findings d' with
  | nil => simp [checkEach]
  | cons p rest ih =>
    obtain ⟨hfirst, hall⟩ := List.forall_mem_cons.1 h
    have hrest (found : List Finding) (m : Disk) : (checkEach check rest).Ends d (.ok found) m ↔
        (∀ q ∈ rest, Fit q) ∧ rest.flatMap look = found ∧ d = m := ih hall
    rw [checkEach, List.forall_mem_cons, List.flatMap_cons]
    constructor
    · intro hends
      obtain ⟨found, m, hcheck, hends⟩ := Script.ends_bind_ok.1 hends
      obtain ⟨hp, rfl, rfl⟩ := (hfirst _ _).1 hcheck
      obtain ⟨others, m, hothers, hends⟩ := Script.ends_bind_ok.1 hends
      obtain ⟨hfit, rfl, rfl⟩ := (hrest _ _).1 hothers
      obtain ⟨hfindings, rfl⟩ := Script.ends_pure.1 hends
      exact ⟨⟨hp, hfit⟩, Except.ok.inj hfindings, rfl⟩
    · rintro ⟨⟨hp, hfit⟩, rfl, rfl⟩
      refine Script.ends_bind_ok.2 ⟨_, d, (hfirst _ _).2 ⟨hp, rfl, rfl⟩, ?_⟩
      refine Script.ends_bind_ok.2 ⟨_, d, (hrest _ _).2 ⟨hfit, rfl, rfl⟩, ?_⟩
      exact Script.ends_pure.2 ⟨rfl, rfl⟩

/-- The directory of a bundle is found, so its files can be listed. -/
theorem ends_checkEntry : (checkEntry extension p).Ends d (.ok findings) d' ↔
    (∀ q ∈ snippetsAt d extension p, ∃ t, d.readText q = .ok t) ∧
      (snippetsAt d extension p).flatMap (findingsAt d) = findings ∧ d = d' := by
  have hrun : (checkEntry extension p).Ends d (.ok findings) d' ↔
      (if d.isDirectory p then if isHidden p then pure [] else checkBundle extension p
        else pure [] : Script (List Finding)).Ends d (.ok findings) d' := Iff.rfl
  rw [hrun, snippetsAt]
  cases hdir : d.isDirectory p with
  | false => simp
  | true =>
    cases hhidden : isHidden p with
    | true => simp
    | false =>
      simp only [Bool.not_false, Bool.and_self, if_true, Bool.false_eq_true, if_false]
      have hfind := Disk.isDirectory_iff.1 hdir
      rw [checkBundle, Script.ends_bind_ok]
      constructor
      · rintro ⟨ps, m, hps, h⟩
        obtain ⟨-, rfl, rfl⟩ := ends_pathsIn.1 hps
        exact (ends_checkEach fun q _ _ _ => ends_checkFile).1 h
      · intro h
        have hps := ends_pathsIn.2 ⟨hfind, rfl, rfl⟩
        exact ⟨_, d, hps, (ends_checkEach fun q _ _ _ => ends_checkFile).2 h⟩

/-- A check of a directory ends well when the directory is found and every snippet file in it can be
read. -/
theorem ends_checkAll : (checkAll extension dir).Ends d (.ok findings) d' ↔
    d.find dir = .ok (d.locate dir, .directory) ∧
      (∀ q ∈ snippets d extension dir, ∃ t, d.readText q = .ok t) ∧
      (snippets d extension dir).flatMap (findingsAt d) = findings ∧ d = d' := by
  have heach : (checkEach (checkEntry extension) (entries d dir)).Ends d (.ok findings) d' ↔ _ :=
    ends_checkEach fun p _ _ _ => ends_checkEntry
  rw [checkAll, Script.ends_bind_ok, snippets, List.flatMap_assoc]
  simp only [List.mem_flatMap, forall_exists_index, and_imp]
  constructor
  · rintro ⟨ps, m, hps, h⟩
    obtain ⟨hfind, rfl, rfl⟩ := ends_pathsIn.1 hps
    obtain ⟨hread, hfindings, rfl⟩ := heach.1 h
    exact ⟨hfind, fun q p hp hq => hread p hp q hq, hfindings, rfl⟩
  · rintro ⟨hfind, hread, hfindings, rfl⟩
    refine ⟨_, d, ends_pathsIn.2 ⟨hfind, rfl, rfl⟩, heach.2 ⟨?_, hfindings, rfl⟩⟩
    exact fun p hp q hq => hread q p hp hq

/-- That is so when all files with the extension can be read. -/
theorem ends_checkAll_of_isOk (hdir : d.isDirectory dir = true)
    (h : ∀ b ∈ d.names (d.locate dir), ∀ n ∈ d.names (d.locate (dir.join b)),
      Path.extensionOf n = some extension → (d.readText ((dir.join b).join n)).isOk = true) :
    (checkAll extension dir).Ends d
      (.ok ((snippets d extension dir).flatMap (findingsAt d))) d := by
  refine ends_checkAll.2 ⟨Disk.isDirectory_iff.1 hdir, ?_, rfl, rfl⟩
  intro q hq
  obtain ⟨b, hb, -, -, n, hn, rfl, hextension⟩ := mem_snippets_iff.1 hq
  have hok := h b hb n hn hextension
  cases hread : d.readText ((dir.join b).join n) with
  | ok t => exact ⟨t, rfl⟩
  | error f =>
    rw [hread] at hok
    cases hok

/-- The findings are what is wrong with the snippet files, and nothing else. -/
theorem mem_findings_iff (h : (checkAll extension dir).Ends d (.ok findings) d')
    {x : SnippetIssue} : ⟨q, x⟩ ∈ findings ↔ q ∈ snippets d extension dir ∧
      ∃ t, d.readText q = .ok t ∧ SnippetIssue.ofText t = some x := by
  obtain ⟨-, -, rfl, -⟩ := ends_checkAll.1 h
  simp only [List.mem_flatMap, mem_findingsAt_iff]
  constructor
  · rintro ⟨p, hp, rfl, hx⟩
    exact ⟨hp, hx⟩
  · rintro ⟨hq, hx⟩
    exact ⟨q, hq, rfl, hx⟩

end GuideBundles.Check
