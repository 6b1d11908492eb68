/-
# `Proofs.Conversion.Grown` — what stays while bundles are added

While documents are converted, nothing is taken away but staging directories: what else is in the
output directory stays there, and outside of it nothing changes.  So the documents of a directory
elsewhere stay the same, and what is done stays done.
-/
import GuideBundles.Proofs.Conversion.Collected
import GuideBundles.Proofs.Conversion.Interrupted

namespace GuideBundles.Conversion

variable {s : Settings} {dir p : Path} {id : ExampleId} {d d' : Disk}

/-! ## Documents that are no hidden files -/

/-- The identifier of a document does not begin with a dot. -/
def Visible (p : Path) : Prop :=
  ∀ id, ExampleId.ofPath p = .ok id → id.text.head? ≠ some '.'

theorem ne_dots_of_head? {n : Text} (h : n.head? ≠ some '.') : n ≠ ['.'] ∧ n ≠ ['.', '.'] := by
  constructor
  · rintro rfl
    exact h rfl
  · rintro rfl
    exact h rfl

theorem ne_stagingName_of_head? {n : Text} (h : n.head? ≠ some '.') (id : ExampleId) :
    n ≠ stagingName id := by
  rintro rfl
  exact h rfl

theorem visible_of_mem_documents (h : ∀ n ∈ documentNames d s dir, n.head? ≠ some '.')
    (hp : p ∈ documents d s dir) : Visible p := by
  obtain ⟨n, hn, rfl⟩ := List.mem_map.1 hp
  intro id hid
  rw [head?_text_of_mem_documentNames hn hid]
  exact h n hn

/-! ## Growing -/

/-- The second disk is the first one with more in the output directory and with directories made on
the way there; what was in the output directory is there, with the files as files, except for the
staging directories. -/
structure Grown (s : Settings) (d d' : Disk) : Prop where
  here : d'.here = d.here
  outside : ∀ k, (∀ n rest, k ≠ d.locate s.outputDir ++ n :: rest) → d'.get? k = d.get? k ∨
    (Disk.isUnder k (d.locate s.outputDir) = true ∧ d.get? k = none ∧
      d'.get? k = some .directory)
  inside : ∀ n rest b, (∀ id, n ≠ stagingName id) →
    d.kind? (d.locate s.outputDir ++ n :: rest) = some b →
      d'.kind? (d.locate s.outputDir ++ n :: rest) = some b

theorem Grown.refl (s : Settings) (d : Disk) : Grown s d d :=
  ⟨rfl, fun _ _ => .inl rfl, fun _ _ _ _ h => h⟩

theorem Grown.trans {d₁ d₂ d₃ : Disk} (h : Grown s d₁ d₂) (h' : Grown s d₂ d₃) :
    Grown s d₁ d₃ := by
  have hout := Disk.locate_congr h.here s.outputDir
  refine ⟨h'.here.trans h.here, ?_, ?_⟩
  · intro k hk
    have hsecond := h'.outside k (by rwa [hout])
    rw [hout] at hsecond
    exact Disk.same_or_made_trans (h.outside k hk) hsecond
  · intro n rest b hn hb
    have hsecond := h'.inside n rest b hn
    rw [hout] at hsecond
    exact hsecond (h.inside n rest b hn hb)

/-- What lies in no staging directory keeps its kind. -/
theorem Grown.kind?_of_some (h : Grown s d d') {k : Location}
    (hk : ∀ id, Disk.isUnder (stagingAt d s id) k = false) {b : Bool} (hb : d.kind? k = some b) :
    d'.kind? k = some b := by
  by_cases hin : ∃ n rest, k = d.locate s.outputDir ++ n :: rest
  · obtain ⟨n, rest, rfl⟩ := hin
    refine h.inside n rest b ?_ hb
    rintro id rfl
    have hu := Disk.isUnder_append (stagingAt d s id) rest
    rw [stagingAt, ← List.append_cons, ← stagingAt, hk id] at hu
    cases hu
  · rcases h.outside k (fun n rest heq => hin ⟨n, rest, heq⟩) with hsame | ⟨-, hnone, -⟩
    · rw [Disk.kind?_congr hsame]
      exact hb
    · rw [Disk.kind?_eq_none_iff.2 hnone] at hb
      cases hb

/-- What is found by a way through no staging directory is found again as a thing of its kind. -/
theorem Grown.findKind_eq (h : Grown s d d')
    (hthere : ∀ k ∈ d.way p, ∃ e, d.get? k = some e)
    (hway : ∀ k ∈ d.way p, ∀ id, Disk.isUnder (stagingAt d s id) k = false) :
    d'.findKind p = d.findKind p := by
  refine (Disk.findKind_congr h.here.symm ?_).symm
  intro k hk
  obtain ⟨e, he⟩ := hthere k hk
  have hkind : d.kind? k = some e.isDirectory := by rw [Disk.kind?, he, Option.map_some]
  rw [h.kind?_of_some (hway k hk) hkind, hkind]

/-! ## Directories outside -/

/-- A directory is outside the output directory, and the path to it does not lead through a staging
directory, as one that goes up again could. -/
structure Outside (d : Disk) (s : Settings) (dir : Path) : Prop where
  location : Disk.isUnder (d.locate s.outputDir) (d.locate dir) = false
  way : ∀ k ∈ d.way dir, ∀ id, Disk.isUnder (stagingAt d s id) k = false

/-- A path that does not go up leads through nothing that is not above its end. -/
theorem outside_iff_of_not_up (hup : .up ∉ dir.steps) :
    Outside d s dir ↔ Disk.isUnder (d.locate s.outputDir) (d.locate dir) = false := by
  constructor
  · exact fun h => h.location
  · intro hloc
    refine ⟨hloc, ?_⟩
    intro k hk id
    cases hu : Disk.isUnder (stagingAt d s id) k with
    | false => rfl
    | true =>
      have hin := Disk.isUnder_trans (Disk.isUnder_append _ [stagingName id])
        (Disk.isUnder_trans hu (Disk.isUnder_of_mem_way hup hk))
      rw [hloc] at hin
      cases hin

/-- A disk with two documents, a bundle that may be one of them, and a staging directory that was
left over from the other.  A path may go up out of the staging directory. -/
def winding : Disk :=
  let output := pair.put [['o']] .directory
  (output.put [['o'], ['b']] .directory).put [['o'], Text.ofString ".a.partial"] .directory

theorem Outside.congr (h : Outside d s dir) (hhere : d'.here = d.here) : Outside d' s dir := by
  refine ⟨?_, ?_⟩
  · rw [Disk.locate_congr hhere, Disk.locate_congr hhere]
    exact h.location
  · intro k hk id
    rw [Disk.way_congr hhere] at hk
    rw [stagingAt, Disk.locate_congr hhere]
    exact h.way k hk id

/-- What is in a directory outside is not in the output directory. -/
theorem Outside.ne_below (h : Outside d s dir) (m n : Text) (rest : Location) :
    d.locate dir ++ [m] ≠ d.locate s.outputDir ++ n :: rest := by
  intro heq
  have hloc := h.location
  rcases List.eq_nil_or_concat rest with rfl | ⟨r, l, rfl⟩
  · obtain ⟨hsame, -⟩ := List.append_singleton_inj.1 heq
    rw [hsame, Disk.isUnder_self] at hloc
    cases hloc
  · rw [List.concat_eq_append, ← List.cons_append, ← List.append_assoc] at heq
    obtain ⟨hsame, -⟩ := List.append_singleton_inj.1 heq
    rw [hsame, Disk.isUnder_append] at hloc
    cases hloc

theorem Outside.not_isUnder_staging (h : Outside d s dir) (m : Text) (id : ExampleId) :
    Disk.isUnder (stagingAt d s id) (d.locate dir ++ [m]) = false :=
  Disk.not_isUnder_child (h.ne_below m) _

/-! ## The documents of a directory outside -/

theorem Grown.isDirectory_eq (h : Grown s d d') (hfind : d.isDirectory dir = true)
    (hout : Outside d s dir) : d'.isDirectory dir = true := by
  have hfound := Disk.isDirectory_iff.1 hfind
  have hkind := h.findKind_eq (fun k hk => Disk.get?_of_mem_way hfound hk) hout.way
  rw [Disk.isDirectory_eq] at hfind ⊢
  rwa [hkind]

/-- Whether a name in the directory is the name of a file stays the same. -/
theorem Grown.isFile_join (h : Grown s d d') (hfind : d.isDirectory dir = true)
    (hout : Outside d s dir) {n : Text} (hn : n ≠ []) (hs : '/' ∉ n) (h₁ : n ≠ ['.'])
    (h₂ : n ≠ ['.', '.']) : d'.isFile (dir.join n) = d.isFile (dir.join n) := by
  have hfound := Disk.isDirectory_iff.1 hfind
  have hloc := Disk.locate_join_name d dir hn hs h₁ h₂
  cases hthere : d.get? (d.locate dir ++ [n]) with
  | some e =>
    -- All of the way is there, and it stays what it is.
    have hkind : d'.findKind (dir.join n) = d.findKind (dir.join n) := by
      refine h.findKind_eq ((Disk.forall_mem_way_join d dir hn hs h₁ h₂).2 ⟨?_, e, hthere⟩)
        ((Disk.forall_mem_way_join d dir hn hs h₁ h₂).2 ⟨hout.way, hout.not_isUnder_staging n⟩)
      exact fun k hk => Disk.get?_of_mem_way hfound hk
    rw [Disk.isFile_eq, Disk.isFile_eq, hkind]
  | none =>
    -- Only a directory can have been made there.
    have hnofile : ∀ data, d'.get? (d.locate dir ++ [n]) ≠ some (.file data) := by
      intro data hdata
      rcases h.outside _ (fun m rest => hout.ne_below n m rest) with hsame | ⟨-, -, hdir⟩
      · rw [hsame, hthere] at hdata
        cases hdata
      · rw [hdir] at hdata
        cases hdata
    have hno : ∀ {m : Disk}, m.here = d.here →
        (∀ data, m.get? (d.locate dir ++ [n]) ≠ some (.file data)) →
          m.isFile (dir.join n) = false := by
      intro m hhere hm
      rw [Bool.eq_false_iff]
      intro hfile
      obtain ⟨data, hdata⟩ := Disk.file_of_isFile hfile
      rw [Disk.locate_congr hhere, hloc] at hdata
      exact hm data hdata
    rw [hno h.here hnofile, hno rfl (by simp [hthere])]

/-- The documents of a directory outside stay the same. -/
theorem Grown.documents_eq (h : Grown s d d') (hfind : d.isDirectory dir = true)
    (hout : Outside d s dir) : documents d' s dir = documents d s dir := by
  refine congrArg (List.map dir.join) ?_
  refine Text.eq_of_pairwise_of_mem_iff (pairwise_documentNames d' s dir)
    (pairwise_documentNames d s dir) (nodup_documentNames d' s dir) (nodup_documentNames d s dir) ?_
  intro n
  rw [mem_documentNames_iff, mem_documentNames_iff]
  refine and_congr_right fun hname => and_congr_right fun _ => ?_
  rw [h.isFile_join hfind hout hname.1 hname.2.2.2 hname.2.1 hname.2.2.1]

end GuideBundles.Conversion
