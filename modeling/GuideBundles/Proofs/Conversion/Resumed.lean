/-
# `Proofs.Conversion.Resumed` — a batch that was cut off can be run again

A batch that is cut off leaves the bundles of its first documents and perhaps a part of the next one
in a staging directory.  Run again, it skips the first documents, removes what was left over, and
ends with the same disk as the batch that was not cut off.

That is so without links.  A symbolic link in the place of a bundle could lead into the staging
directory of a document, and would lead nowhere once this is gone.
-/
import GuideBundles.Proofs.Conversion.Batch
import GuideBundles.Proofs.Disk.Same

namespace GuideBundles.Conversion

variable {s : Settings} {dir p : Path} {id : ExampleId} {d m m' : Disk}

/-! ## Leftovers -/

/-- The second disk is the first one with a directory that holds anything as the staging directory
of a document. -/
structure Leftover (s : Settings) (id : ExampleId) (d d' : Disk) : Prop where
  here : d'.here = d.here
  staging : d'.get? (stagingAt d s id) = some .directory
  elsewhere : ∀ k, Disk.isUnder (stagingAt d s id) k = false → d'.get? k = d.get? k

theorem Leftover.grown (h : Leftover s id m m') : Grown s m m' := by
  refine ⟨h.here, ?_, ?_⟩
  · intro k hk
    exact .inl (h.elsewhere k (Disk.not_isUnder_child hk _))
  · intro n rest b hn hb
    rw [Disk.kind?_congr (h.elsewhere _ (Disk.not_isUnder_sibling (Ne.symm (hn id)) _ rest))]
    exact hb

/-- An empty staging directory is a leftover. -/
theorem leftover_put (hroom : m.hasRoom (stagingAt m s id) = true) :
    Leftover s id m (m.put (stagingAt m s id) .directory) := by
  refine ⟨Disk.here_put m _ _, ?_, ?_⟩
  · rw [Disk.get?_put hroom, if_pos rfl]
  · intro k hk
    have hne : k ≠ stagingAt m s id := by
      rintro rfl
      rw [Disk.isUnder_self] at hk
      cases hk
    rw [Disk.get?_put hroom, if_neg hne, if_neg (by simp [hk])]

/-- Anything can be put into a leftover. -/
theorem Leftover.put (h : Leftover s id m m') {n : Text} {rest : Location}
    (hroom : m'.hasRoom (stagingAt m s id ++ n :: rest) = true) (e : Entry) :
    Leftover s id m (m'.put (stagingAt m s id ++ n :: rest) e) := by
  refine ⟨(Disk.here_put m' _ _).trans h.here, ?_, ?_⟩
  · rw [Disk.get?_put hroom, if_neg (by simp), Disk.not_isUnder_above, if_neg (by simp)]
    exact h.staging
  · intro k hk
    have hne : k ≠ stagingAt m s id ++ n :: rest := by
      rintro rfl
      rw [Disk.isUnder_append] at hk
      cases hk
    have hu : Disk.isUnder (stagingAt m s id ++ n :: rest) k = false := by
      cases hu : Disk.isUnder (stagingAt m s id ++ n :: rest) k with
      | false => rfl
      | true =>
        rw [Disk.isUnder_trans (Disk.isUnder_append _ (n :: rest)) hu] at hk
        cases hk
    rw [Disk.get?_put hroom, if_neg hne, if_neg (by simp [hu])]
    exact h.elsewhere k hk

/-- By a way that does not lead through the staging directory the same is found. -/
theorem Leftover.find_eq (h : Leftover s id m m')
    (hway : ∀ k ∈ m.way p, Disk.isUnder (stagingAt m s id) k = false) : m'.find p = m.find p := by
  refine (Disk.find_congr h.here.symm ?_ ?_).symm
  · intro k hk
    exact Disk.kind?_congr (h.elsewhere k (hway k hk)).symm
  · exact (h.elsewhere _ (hway _ (Disk.locate_mem_way m p))).symm

/-- The staging directory is found by its path, if that has no flaw. -/
theorem Leftover.find_stagingDir (h : Leftover s id m m') (hid : '/' ∉ id.text)
    (hup : .up ∉ s.outputDir.steps) (hflaw : (stagingDir s id).flaw? = none) :
    m'.find (stagingDir s id) = .ok (stagingAt m s id, .directory) := by
  have hdir := h.staging
  rw [stagingAt, ← Disk.locate_congr h.here] at hdir ⊢
  exact Disk.find_join_of_get? (stagingName_ne_nil id) (slash_not_mem_stagingName hid)
    (stepOf_stagingName id) hflaw hup hdir

/-- Without the staging directory, the disks with and without the leftover are the same. -/
theorem Leftover.same_clear (h : Leftover s id m m')
    (hgone : ∀ k, Disk.isUnder (stagingAt m s id) k = true → d.get? k = none)
    (hhere : d.here = m.here)
    (hkept : ∀ k, Disk.isUnder (stagingAt m s id) k = false → d.get? k = m.get? k) :
    Disk.Same d (m'.clear (stagingAt m s id)) := by
  refine ⟨h.here.trans hhere.symm, ?_⟩
  intro k
  rw [Disk.get?_clear m' (by simp [stagingAt])]
  cases hu : Disk.isUnder (stagingAt m s id) k with
  | true => rw [if_pos rfl, hgone k hu]
  | false => rw [if_neg (by simp), h.elsewhere k hu, hkept k hu]

/-- The staging directory is emptied as if nothing had been left over. -/
theorem Leftover.ends_prepare {base : Disk} (h : Leftover s id m m') (hid : '/' ∉ id.text)
    (hup : .up ∉ s.outputDir.steps) (hrun : (prepare (stagingDir s id)).Ends m (.ok ()) base) :
    ∃ base', (prepare (stagingDir s id)).Ends m' (.ok ()) base' ∧ Disk.Same base base' := by
  have hloc : m.locate (stagingDir s id) = stagingAt m s id := locate_stagingDir m s hid
  have hsteps := steps_stagingDir s hid
  obtain ⟨c, hc, hcreate⟩ := ends_prepare_iff.1 hrun
  have hflaw : (stagingDir s id).flaw? = none := by
    obtain ⟨hmade, -⟩ := Script.ends_createDirs.1 hcreate
    have hne : (stagingDir s id).spelling ≠ [] :=
      Path.spelling_ne_nil_of_steps (by simp [hsteps])
    exact (Disk.reaches_of_makeDirs_ancestors hne hmade).1
  have hfind := h.find_stagingDir hid hup hflaw
  have hpresent : m'.isPresent (stagingDir s id) = true := by rw [Disk.isPresent, hfind]
  have hremove : m'.removeTree (stagingDir s id) = .ok (m'.clear (stagingAt m s id)) := by
    rw [Disk.removeTree, hfind]
    rfl
  have hsame : Disk.Same c (m'.clear (stagingAt m s id)) := by
    rcases hc with ⟨-, hremoved⟩ | ⟨habsent, rfl⟩
    · obtain ⟨-, rfl⟩ := Disk.removeTree_ok hremoved
      rw [hloc]
      refine h.same_clear ?_ rfl ?_
      · intro k hk
        rw [Disk.get?_clear m (by simp [stagingAt]), if_pos hk]
      · intro k hk
        rw [Disk.get?_clear m (by simp [stagingAt]), if_neg (by simp [hk])]
    · have hnone : m.get? (stagingAt m s id) = none := by
        refine Option.eq_none_iff_forall_ne_some.2 ?_
        intro e he
        have hfound := Disk.find_join_of_get? (stagingName_ne_nil id)
          (slash_not_mem_stagingName hid) (stepOf_stagingName id) hflaw hup he
        change m.find (stagingDir s id) = _ at hfound
        rw [Disk.isPresent, hfound] at habsent
        cases habsent
      refine h.same_clear ?_ rfl fun _ _ => rfl
      intro k hk
      obtain ⟨rest, rfl⟩ := Disk.isUnder_iff.1 hk
      cases rest with
      | nil => rwa [List.append_nil]
      | cons n rest => exact Disk.get?_below_eq_none (by simp [hnone]) n rest
  have honly : (Script.createDirs (stagingDir s id)).Only (fun r => ¬ r.Lists) fun _ => False :=
    Script.only_createDirs not_false
  obtain ⟨base', hcreate', hsame'⟩ := honly.ends_same (fun _ hr => hr) hsame hcreate
  exact ⟨base', ends_prepare_iff.2 ⟨_, .inl ⟨hpresent, hremove⟩, hcreate'⟩, hsame'⟩

/-! ## The document with the leftover -/

/-- A conversion lists no directory. -/
theorem not_lists_of_converts {r : Request} (h : Converts s id r) : ¬ r.Lists := by
  rcases h with h | rfl
  · cases h with
    | fill h =>
      cases h with
      | look hlook =>
        cases r with
        | list p => exact hlook.elim
        | _ => exact not_false
      | _ => exact not_false
    | _ => exact not_false
  · exact not_false

/-- A conversion reads the document, empties the staging directory, and goes on from there. -/
theorem convertNew_eq_prepare (s : Settings) (p : Path) (id : ExampleId) :
    convertNew s p id = (do
      let source ← Source.read p
      prepare (stagingDir s id)
      (writeBundle s source id (stagingDir s id)).attempt >>= finish s id) := by
  rw [convertNew_eq, stage, bind_assoc]
  simp only [bind_assoc]

/-- The way to the output directory does not lead through a staging directory. -/
theorem not_isUnder_stagingAt_of_mem_way (hup : .up ∉ s.outputDir.steps) {k : Location}
    (hk : k ∈ m.way s.outputDir) : Disk.isUnder (stagingAt m s id) k = false := by
  cases hu : Disk.isUnder (stagingAt m s id) k with
  | false => rfl
  | true =>
    have habove := Disk.isUnder_trans hu (Disk.isUnder_of_mem_way hup hk)
    rw [stagingAt, Disk.not_isUnder_above] at habove
    cases habove

/-- The document whose conversion was cut off is converted as if nothing had been left over. -/
theorem Leftover.ends_convertDocument {o : Outcome} (h : Leftover s id m m')
    (hsnippet : '/' ∉ s.emit.snippetExtension) (hcommand : '/' ∉ s.emit.commandExtension)
    (hup : .up ∉ s.outputDir.steps) (hvisible : Visible p) (hid : ExampleId.ofPath p = .ok id)
    (hway : ∀ k ∈ m.way p, Disk.isUnder (stagingAt m s id) k = false)
    (habsent : m.isPresent (bundleDir s id) = false)
    (hrun : (convertDocument s p).Ends m (.ok o) d) :
    ∃ d', (convertDocument s p).Ends m' (.ok o) d' ∧ Disk.Same d d' := by
  obtain ⟨hid₀, hslash⟩ := ExampleId.name_of_ofPath hid
  obtain ⟨h₁, h₂⟩ := ne_dots_of_head? (hvisible id hid)
  rw [convertDocument_eq hid, convertNew_eq_prepare] at hrun ⊢
  obtain ⟨found, c, hfound, hnew⟩ := Script.ends_bind_ok.1 hrun
  obtain ⟨rfl, rfl⟩ := Script.ends_present.1 hfound
  rw [habsent, if_neg (by simp)] at hnew
  obtain ⟨source, c, hread, hmake⟩ := Script.ends_bind_ok.1 hnew
  obtain ⟨text, htext, rfl, rfl⟩ := ends_read.1 hread
  obtain ⟨⟨⟩, base, hprepare, hfill⟩ := Script.ends_bind_ok.1 hmake
  -- The text of the document and the place of the bundle are as they were.
  have htext' : m'.readText p = .ok text := by
    rw [Disk.readText, h.find_eq hway, ← Disk.readText, htext]
  have habsent' : m'.isPresent (bundleDir s id) = false := by
    rw [Disk.isPresent, h.find_eq, ← Disk.isPresent, habsent]
    refine (Disk.forall_mem_way_join m s.outputDir hid₀ hslash h₁ h₂).2 ⟨?_, ?_⟩
    · exact fun k hk => not_isUnder_stagingAt_of_mem_way hup hk
    · exact Disk.not_isUnder_sibling (stagingName_ne_text id) _ []
  obtain ⟨base', hprepare', hsame⟩ := h.ends_prepare hslash hup hprepare
  have honly : ((writeBundle s ⟨p, text⟩ id (stagingDir s id)).attempt >>= finish s id).Only
      (Converts s id) fun _ => False :=
    ((only_writeBundle _ hslash hsnippet hcommand).attempt.imp (fun _ hr => .inl hr)
      fun _ he => he).bind (only_finish (.inl .remove) (.inr rfl))
  obtain ⟨d', hfill', hsame'⟩ :=
    honly.ends_same (fun _ hr => not_lists_of_converts hr) hsame hfill
  refine ⟨d', ?_, hsame'⟩
  refine Script.ends_bind_ok.2 ⟨false, m', Script.ends_present.2 ⟨habsent', rfl⟩, ?_⟩
  rw [if_neg (by simp)]
  refine Script.ends_bind_ok.2 ⟨⟨p, text⟩, m', ends_read.2 ⟨text, htext', rfl, rfl⟩, ?_⟩
  exact Script.ends_bind_ok.2 ⟨(), base', hprepare', hfill'⟩

/-! ## The first documents -/

/-- What tells that a document was converted has a number past the first ones. -/
def PastFirst (n : Nat) (e : Event) : Prop :=
  ∀ name i total, e = .document name .converted i total → n < i

/-- Where the first documents are done, they are skipped and the disk stays as it is. -/
theorem ends_convertFirst_of_done {opened : Opened} {n : Nat}
    (hopen : (openBatch s dir).Ends m (.ok opened) m)
    (hdone : ∀ p ∈ opened.documents.take n, Done s m p) :
    ∃ os, (convertFirst s dir n).Ends m (.ok (opened, os)) m ∧
      ∀ e ∈ ((convertFirst s dir n).run m).events, PastFirst n e := by
  obtain ⟨events, hall, hskipped⟩ :=
    run_convertAll_of_done 0 opened.documents.length hdone
  refine ⟨List.replicate (opened.documents.take n).length .skipped, ?_, ?_⟩
  · refine Script.ends_bind_ok.2 ⟨opened, m, hopen, ?_⟩
    refine Script.ends_bind_ok.2 ⟨_, m, ?_, Script.ends_pure.2 ⟨rfl, rfl⟩⟩
    rw [Script.Ends, hall]
    exact ⟨rfl, rfl⟩
  · intro e he
    rcases Script.mem_events_bind he with he | ⟨opened', m', hopen', hfirst⟩
    · obtain ⟨phase, rfl⟩ := (only_openBatch s dir).of_mem_events he
      intro name i total h
      cases h
    · obtain ⟨hsame, rfl⟩ := hopen.unique hopen'
      obtain rfl := Except.ok.inj hsame
      rcases Script.mem_events_bind hfirst with hturn | ⟨os, m', -, hpure⟩
      · rw [hall] at hturn
        obtain ⟨name, i, rfl⟩ := hskipped e hturn
        intro name' i' total h
        cases h
      · cases hpure

/-- The rest of a batch converts only documents past the first ones. -/
theorem pastFirst_of_convertRest (hsnippet : '/' ∉ s.emit.snippetExtension)
    (hcommand : '/' ∉ s.emit.commandExtension) {n : Nat} {first : Opened × List Outcome} {e : Event}
    (he : e ∈ ((convertRest s n first).run m).events) : PastFirst n e := by
  obtain ⟨opened, os⟩ := first
  rcases Script.mem_events_bind he with he | ⟨os', m', -, he⟩
  · rcases Nat.lt_or_ge opened.documents.length n with hn | hn
    · simp only [List.drop_eq_nil_of_le (Nat.le_of_lt hn)] at he
      cases he
    · have honly := only_convertAll (opened.documents.drop n)
        (opened.documents.take n).length opened.documents.length
        fun p hp => only_convertOne hp hsnippet hcommand
      obtain ⟨name, outcome, i, rfl, hi⟩ := honly.of_mem_events he
      rw [List.length_take_of_le hn] at hi
      intro name' i' total' heq
      obtain ⟨-, -, rfl, -⟩ := Event.document.inj heq
      exact hi
  · obtain ⟨r, rfl⟩ := (only_closeBatch _ _).of_mem_events he
    exact nofun

theorem ends_convertFirst_of_result {opened : Opened} (n : Nat) (os : List Outcome)
    (hopen : (openBatch s dir).Ends d (.ok opened) m)
    (hall : ((convertAll s 0 opened.documents.length (opened.documents.take n)).run m).result
      = .ok os) : (convertFirst s dir n).Ends d (.ok (opened, os))
        ((convertAll s 0 opened.documents.length (opened.documents.take n)).run m).disk := by
  refine Script.ends_bind_ok.2 ⟨opened, m, hopen, ?_⟩
  exact Script.ends_bind_ok.2 ⟨os, _, Script.ends_of_result hall, rfl, rfl⟩

/-! ## Batches that are run again after they were cut off -/

/-- What a batch leaves that is cut off when `n` documents are done: it was between two documents,
or in the middle of the next one, which leaves anything in the staging directory. -/
inductive CutOff (s : Settings) (dir : Path) (d : Disk) (n : Nat) : Disk → Prop
  | between : CutOff s dir d n ((convertFirst s dir n).run d).disk
  | during {p : Path} {id : ExampleId} {m : Disk} (hp : (documents d s dir)[n]? = some p)
      (hid : ExampleId.ofPath p = .ok id)
      (habsent : ((convertFirst s dir n).run d).disk.isPresent (bundleDir s id) = false)
      (h : Leftover s id ((convertFirst s dir n).run d).disk m) : CutOff s dir d n m

theorem CutOff.grown {n : Nat} (h : CutOff s dir d n m')
    (hm : ((convertFirst s dir n).run d).disk = m) : Grown s m m' := by
  cases h with
  | between => exact hm ▸ Grown.refl s m
  | during _ _ _ h => exact hm ▸ h.grown

/-- The documents that are left go through after the cut as they do without it. -/
theorem CutOff.ends_rest {final : Disk} {n current total : Nat} {os : List Outcome}
    (hcut : CutOff s dir d n m') (hm : ((convertFirst s dir n).run d).disk = m)
    (hsnippet : '/' ∉ s.emit.snippetExtension) (hcommand : '/' ∉ s.emit.commandExtension)
    (hup : .up ∉ s.outputDir.steps) (hout : Outside m s dir)
    (hvisible : ∀ p ∈ documents d s dir, Visible p)
    (hrun : (convertAll s current total ((documents d s dir).drop n)).Ends m (.ok os) final) :
    ∃ final', (convertAll s current total ((documents d s dir).drop n)).Ends m' (.ok os) final' ∧
      Disk.Same final final' := by
  cases hcut with
  | between =>
    rw [hm]
    exact ⟨final, hrun, Disk.Same.refl final⟩
  | @during p id _ hp hid habsent h =>
    rw [hm] at habsent h
    obtain ⟨hn, hpn⟩ := List.getElem?_eq_some_iff.1 hp
    rw [List.drop_eq_getElem_cons hn, hpn] at hrun ⊢
    obtain ⟨o, d₁, hfirst, hsay⟩ := Script.ends_bind_ok.1 hrun
    obtain ⟨⟨⟩, d₂, ⟨-, rfl⟩, htail⟩ := Script.ends_bind_ok.1 hsay
    have hmem : p ∈ documents d s dir := List.mem_of_getElem? hp
    have hway : ∀ k ∈ m.way p, Disk.isUnder (stagingAt m s id) k = false := by
      obtain ⟨name, hname, rfl⟩ := List.mem_map.1 hmem
      obtain ⟨⟨hn₀, h₁, h₂, hs⟩, -⟩ := mem_documentNames_iff.1 hname
      exact (Disk.forall_mem_way_join m dir hn₀ hs h₁ h₂).2
        ⟨fun k hk => hout.way k hk id, hout.not_isUnder_staging name id⟩
    obtain ⟨d₁', hfirst', hsame⟩ := h.ends_convertDocument hsnippet hcommand hup
      (hvisible p hmem) hid hway habsent hfirst
    have honly := (only_convertAll (s := s) ((documents d s dir).drop (n + 1)) (current + 1) total
      fun p hp => only_convertOne hp hsnippet hcommand).bind fun os => Script.only_pure (o :: os)
    obtain ⟨final', htail', hsame'⟩ := honly.ends_same
      (fun r ⟨_, _, _, _, hr⟩ => not_lists_of_converts hr) hsame htail
    refine ⟨final', ?_, hsame'⟩
    refine Script.ends_bind_ok.2 ⟨o, d₁', hfirst', ?_⟩
    exact Script.ends_bind_ok.2 ⟨(), d₁', ⟨rfl, rfl⟩, htail'⟩

/-- A batch that goes through would also have gone through had it been cut off after any number of
documents, in the middle of the next one or not, and been run again: it converts only documents past
the first ones, and ends with a disk that holds the same. -/
theorem resumed_ends_same {r : Report} {final : Disk} {n : Nat}
    (hsnippet : '/' ∉ s.emit.snippetExtension) (hcommand : '/' ∉ s.emit.commandExtension)
    (hup : .up ∉ s.outputDir.parts) (hout : Outside d s dir)
    (hnames : ∀ n ∈ documentNames d s dir, n.head? ≠ some '.')
    (hrun : (convertDirectory s dir).Ends d (.ok r) final) (hcut : CutOff s dir d n m) :
    ∃ r' final', (convertDirectory s dir).Ends m (.ok r') final' ∧ r'.seen = r.seen ∧
      Disk.Same final final' ∧
      ∀ name i total, .document name .converted i total ∈ ((convertDirectory s dir).run m).events →
        n < i := by
  have hup' := Path.up_not_mem_steps hup
  rw [convertDirectory_eq_first_rest s dir n] at hrun
  obtain ⟨first, m₀, hfirst, hrest⟩ := Script.ends_bind_ok.1 hrun
  obtain ⟨opened, d₀, hopen, hturns⟩ := Script.ends_bind_ok.1 hfirst
  obtain ⟨os, m₁, hall, hpure⟩ := Script.ends_bind_ok.1 hturns
  obtain ⟨hopened, rfl⟩ := Script.ends_pure.1 hpure
  obtain rfl := Except.ok.inj hopened
  obtain ⟨os', final₁, htail, hclose⟩ := Script.ends_bind_ok.1 hrest
  obtain ⟨rfl, rfl⟩ := ends_closeBatch.1 hclose
  obtain ⟨hs, -⟩ := ends_openBatch.1 hopen
  obtain ⟨hdocuments, hvisible⟩ := visible_of_openBatch hup' hout hnames hopen
  have hvisible' : ∀ p ∈ opened.documents.take n, Visible p :=
    fun p hp => hvisible p (List.mem_of_mem_take hp)
  -- Whatever the cut has left, the first documents are done, and the batch opens again.
  have hopened := grown_of_openBatch hup' hopen
  obtain ⟨hgrown, hdone⟩ := grown_of_convertAll hs hsnippet hcommand hup' hvisible' hall
  have hleft : Grown s m₁ m := hcut.grown hfirst.2
  obtain ⟨sections, hagain⟩ := ends_openBatch_again hup' hout hopen (hgrown.trans hleft)
  obtain ⟨os₀, hfirst', hpast⟩ := ends_convertFirst_of_done hagain
    fun p hp => hleft.done hup' (hvisible' p hp) (hdone p hp)
  -- The other documents go through as before.
  have hout' : Outside m₁ s dir := hout.congr (hgrown.here.trans hopened.here)
  rw [hdocuments] at htail hvisible
  obtain ⟨final', htail', hsame⟩ :=
    hcut.ends_rest hfirst.2 hsnippet hcommand hup' hout' hvisible htail
  rw [← hdocuments] at htail'
  have hends : (convertDirectory s dir).Ends m
      (.ok (Opened.report ⟨sections, opened.documents⟩ (os₀ ++ os'))) final' := by
    rw [convertDirectory_eq_first_rest s dir n]
    refine Script.ends_bind_ok.2 ⟨_, m, hfirst', ?_⟩
    exact Script.ends_bind_ok.2 ⟨os', final', htail', ends_closeBatch.2 ⟨rfl, rfl⟩⟩
  refine ⟨_, final', hends, rfl, hsame, ?_⟩
  intro name i total he
  rw [convertDirectory_eq_first_rest s dir n] at he
  rcases Script.mem_events_bind he with he | ⟨first, m', -, hrest⟩
  · exact hpast _ he name i total rfl
  · exact pastFirst_of_convertRest hsnippet hcommand hrest name i total rfl

/-- A batch of two documents that was cut off when the second one was being converted. -/
theorem resumed_ends_same_pair :
    let s : Settings := { outputDir := Path.ofString "o" }
    let dir := Path.ofString "d"
    ∃ r final m r' final', (convertDirectory s dir).Ends pair (.ok r) final ∧
      CutOff s dir pair 1 m ∧ m.isFile (Path.ofString "o/.b.partial/x") = true ∧
      (convertDirectory s dir).Ends m (.ok r') final' ∧ r'.seen = r.seen ∧
      Disk.Same final final' ∧
      ∀ name i total, .document name .converted i total ∈ ((convertDirectory s dir).run m).events →
        1 < i := by
  intro s dir
  have hnames : ∀ n ∈ documentNames pair s dir, n.head? ≠ some '.' := by
    rw [documentNames_pair]
    decide
  have hout : Outside pair s dir := (outside_iff_of_not_up (by decide)).2 (by decide +kernel)
  have hrun := ends_convertDirectory_of_result [.converted, .converted] ends_openBatch_pair
    (by decide +kernel)
  have hfirst := ends_convertFirst_of_result 1 [.converted] ends_openBatch_pair
    (by decide +kernel)
  let id : ExampleId := ⟨['b'], rfl⟩
  let m₀ := ((convertAll s 0 2 [Path.ofString "d/a.md"]).run
    (pair.makeDirs s.outputDir.ancestors).2).disk
  let m := (m₀.put (stagingAt m₀ s id) .directory).put (stagingAt m₀ s id ++ [['x']])
    (.file ⟨#[1]⟩)
  have hm₀ : ((convertFirst s dir 1).run pair).disk = m₀ := hfirst.2
  have hleft : Leftover s id m₀ m := (leftover_put (by decide +kernel)).put (by decide +kernel) _
  have hcut : CutOff s dir pair 1 m := by
    refine .during (p := Path.ofString "d/b.md") ?_ rfl ?_ (hm₀ ▸ hleft)
    · rw [documents, documentNames_pair]
      rfl
    · rw [hm₀]
      decide +kernel
  obtain ⟨r', final', hends⟩ := resumed_ends_same (by decide) (by decide) (by decide) hout hnames
    hrun hcut
  exact ⟨_, _, m, r', final', hrun, hcut, by decide +kernel, hends⟩

/-- When the path to the directory of documents goes up out of the staging directory of a document
that is done, the batch cannot be run again. -/
theorem resumed_fails_through_staging :
    let s : Settings := { outputDir := Path.ofString "o" }
    let dir := Path.ofString "o/.a.partial/../../d"
    s.validate = .ok () ∧
      Disk.isUnder (winding.locate s.outputDir) (winding.locate dir) = false ∧
      (∀ n ∈ documentNames winding s dir, n.head? ≠ some '.') ∧
      ∃ r final m, (convertDirectory s dir).Ends winding (.ok r) final ∧
        CutOff s dir winding 1 m ∧
        ((convertDirectory s dir).run m).result = .error (.inputNotFound dir) := by
  intro s dir
  have hnames : ∀ n ∈ documentNames winding s dir, n.head? ≠ some '.' := by
    rw [documentNames_winding]
    decide
  have hrun := ends_convertDirectory_of_result [.converted, .skipped] ends_openBatch_winding
    (by decide +kernel)
  have hfirst := ends_convertFirst_of_result 1 [.converted] ends_openBatch_winding
    (by decide +kernel)
  refine ⟨rfl, by decide +kernel, hnames, _, _, _, hrun, .between, ?_⟩
  rw [hfirst.2]
  decide +kernel

end GuideBundles.Conversion
