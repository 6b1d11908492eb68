/-
# `Proofs.Conversion.Failed` — a conversion that fails leaves the output as it was

A conversion can fail before it touches anything, while it makes the staging directory, while it
puts the bundle together there, and when it gives the bundle its final name.  The last of these does
not happen: the final name is a shorter one in the same directory, and nothing has it.  After each
of the others the staging directory is gone, or it is what it was before.

That needs an identifier that names something.  With a single dot or two dots for an identifier the
last step always fails, and nothing removes the staging directory then.  Disks have no links here,
so the final name is free whenever nothing is found by it.
-/
import GuideBundles.Proofs.Conversion.Isolated
import GuideBundles.Proofs.Disk.Refused

namespace GuideBundles.Conversion

variable {s : Settings} {p : Path} {id : ExampleId} {source : Source} {d d' m : Disk} {f : Failure}

/-! ## While the staging directory is made -/

/-- Nothing lies at a location, or what lies there and below is what lay there before. -/
def GoneOrKept (l : Location) (d d' : Disk) : Prop :=
  (∀ rest, d'.get? (l ++ rest) = none) ∨ Disk.Keeps l d d'

theorem ends_read_error (h : (Source.read p).Ends d (.error f) d') : d' = d := by
  rcases Script.ends_bind_error.1 h with h | ⟨text, m, -, h⟩
  · exact (Script.ends_readText_error.1 h).2.symm
  · cases h.1

/-- When there is no empty directory in the end, what was there before is gone or untouched. -/
theorem goneOrKept_of_ends_prepare_error {q : Path} (hup : .up ∉ q.steps) (hl : d.locate q ≠ [])
    (h : (prepare q).Ends d (.error f) d') : GoneOrKept (d.locate q) d d' := by
  have hcreate {m : Disk} (hhere : m.here = d.here)
      (h : (Script.createDirs q).Ends m (.error f) d') :
      d'.here = d.here ∧
        ∀ rest, d'.get? (d.locate q ++ rest) = m.get? (d.locate q ++ rest) := by
    obtain ⟨⟨g, hg, -⟩, rfl⟩ := Script.ends_createDirs_error.1 h
    refine ⟨(Disk.here_makeDirs m _).trans hhere, ?_⟩
    rw [← Disk.locate_congr hhere]
    exact Disk.get?_of_makeDirs_error hup hg
  rcases Script.ends_bind_error.1 h with h | ⟨found, m, hfound, h⟩
  · exact absurd h Script.not_ends_request_error
  · obtain ⟨-, rfl⟩ := Script.ends_present.1 hfound
    cases found with
    | false =>
      obtain ⟨hhere, hsame⟩ := hcreate rfl h
      exact .inr ⟨hhere, hsame⟩
    | true =>
      rcases Script.ends_bind_error.1 h with h | ⟨⟨⟩, m, hremove, h⟩
      · obtain ⟨-, rfl⟩ := Script.ends_removeTree_error.1 h
        exact .inr (Disk.Keeps.refl _ d)
      · obtain ⟨-, rfl⟩ := Disk.removeTree_ok (Script.ends_removeTree.1 hremove)
        obtain ⟨-, hgone⟩ := hcreate (Disk.here_clear d _) h
        refine .inl ?_
        intro rest
        rw [hgone, Disk.get?_clear d hl, if_pos (Disk.isUnder_append _ rest)]

theorem reaches_of_ends_prepare {q : Path} (hq : q.spelling ≠ [])
    (h : (prepare q).Ends d (.ok ()) d') : d'.Reaches q := by
  obtain ⟨m, -, hcreate⟩ := ends_prepare_iff.1 h
  obtain ⟨hmade, rfl⟩ := Script.ends_createDirs.1 hcreate
  exact Disk.reaches_of_makeDirs_ancestors hq hmade

/-! ## While the bundle is put together -/

/-- Filling a directory takes no directory away. -/
theorem directory_of_fills {dir : Path} {named : Text → Prop} {r : Request}
    (h : Fills dir named r) {k : Location} (hk : d.get? k = some .directory) :
    (d.answer r).2.get? k = some .directory := by
  cases h with
  | look hlook => rwa [Disk.answer_of_looks hlook]
  | copy source =>
    exact Disk.settle_cases (R := fun _ b => b.get? k = some .directory) hk
      fun _ hm => Disk.directory_of_copyFile hm hk
  | write t =>
    exact Disk.settle_cases (R := fun _ b => b.get? k = some .directory) hk
      fun _ hm => Disk.directory_of_writeBytes hm hk

theorem directory_of_ends_writeBundle {dir : Path} {written : Except Failure Unit}
    (h : (writeBundle s source id dir).Ends d written m) {k : Location}
    (hk : d.get? k = some .directory) : m.get? k = some .directory := by
  have honly : (writeBundle s source id dir).Only (Fills dir (· ∈ (artifactNames s id).toList))
      fun _ => False := only_fills_writeBundle source dir
  obtain ⟨hstays, -⟩ := honly.bounded
    (R := fun a b => ∀ k, a.get? k = some .directory → b.get? k = some .directory)
    (fun _ _ hk => hk) (fun hab hbc k hk => hbc k (hab k hk))
    (fun _ hr _ _ hk => directory_of_fills hr hk) d
  rw [h.2] at hstays
  exact hstays k hk

/-- The first half of a conversion changes nothing but the staging directory. -/
theorem confined_of_ends_stage {r : Except Failure (Except Failure Unit)} (hid : '/' ∉ id.text)
    (hsnippet : '/' ∉ s.emit.snippetExtension) (hcommand : '/' ∉ s.emit.commandExtension)
    (hup : .up ∉ s.outputDir.steps) (h : (stage s p id).Ends d r m) :
    Disk.Confined (d.locate s.outputDir) [stagingAt d s id] d m := by
  have honly := only_stage (Q := fun _ => False) p hid hsnippet hcommand
  obtain ⟨hconf, -⟩ := confined_of_only_stages hid hup honly d
  rwa [h.2] at hconf

/-- Whether or not the bundle could be put together, its staging directory is there afterwards. -/
theorem reaches_of_ends_stage {written : Except Failure Unit} (hid : '/' ∉ id.text)
    (h : (stage s p id).Ends d (.ok written) m) : m.Reaches (stagingDir s id) := by
  obtain ⟨source, m₀, -, h⟩ := Script.ends_bind_ok.1 h
  obtain ⟨⟨⟩, base, hprepare, h⟩ := Script.ends_bind_ok.1 h
  have hne : (stagingDir s id).spelling ≠ [] :=
    Path.spelling_ne_nil_of_steps (by simp [steps_stagingDir s hid])
  obtain ⟨hflaw, hdir⟩ := reaches_of_ends_prepare hne hprepare
  refine ⟨hflaw, ?_⟩
  rw [Disk.locate_congr h.here]
  exact directory_of_ends_writeBundle (Script.ends_attempt.1 h) hdir

/-! ## The last step -/

/-- What was put together gets its final name. -/
theorem rename_of_reaches (hid₀ : id.text ≠ []) (hid : '/' ∉ id.text) (h₁ : id.text ≠ ['.'])
    (h₂ : id.text ≠ ['.', '.']) (hup : .up ∉ s.outputDir.steps)
    (habsent : d.isPresent (bundleDir s id) = false)
    (hconf : Disk.Confined (d.locate s.outputDir) [stagingAt d s id] d m)
    (hreach : m.Reaches (stagingDir s id)) :
    ∃ m', m.rename (stagingDir s id) (bundleDir s id) = .ok m' := by
  obtain ⟨hflaw, hdir⟩ := hreach
  have hns := slash_not_mem_stagingName hid
  have hsub : id.text.Sublist (stagingName id) :=
    (List.sublist_append_left id.text _).cons '.'
  have hflaw' : (bundleDir s id).flaw? = none :=
    Path.flaw?_join_of_sublist hns hid hid₀ hsub hflaw
  rw [locate_stagingDir m s hid] at hdir
  have hfree : m.get? (m.locate s.outputDir ++ [id.text]) = none := by
    refine Option.eq_none_iff_forall_ne_some.2 ?_
    intro e he
    have hno := absent_of_confined hid₀ hid h₁ h₂ hup habsent hconf
    rw [isPresent_bundleDir hid₀ hid h₁ h₂ hup hflaw' he] at hno
    cases hno
  exact ⟨_, Disk.rename_of_absent hup (stepOf_stagingName id) (stagingName_ne_nil id) hns
    (Path.stepOf_eq_name_iff.2 ⟨rfl, h₁, h₂⟩) hid₀ hid hsub (stagingName_ne_text id) hflaw hdir
    hfree⟩

/-- After a failure while the bundle was put together, the staging directory is removed. -/
theorem gone_of_ends_finish_error {g : Failure} (hid : '/' ∉ id.text)
    (hup : .up ∉ s.outputDir.steps) (hreach : m.Reaches (stagingDir s id))
    (h : (finish s id (.error g)).Ends m (.error f) d') (rest : Location) :
    d'.get? (stagingAt m s id ++ rest) = none := by
  have hloc : m.locate (stagingDir s id) = stagingAt m s id := locate_stagingDir m s hid
  have hstep : .up ∉ (stagingDir s id).steps := by simp [steps_stagingDir s hid, hup]
  rcases Script.ends_bind_error.1 h with h | ⟨x, m', hremove, h⟩
  · exact absurd h Script.not_ends_request_error
  · obtain ⟨-, rfl⟩ := Script.ends_fail.1 h
    have hanswer : (m.answer (.removeTree (stagingDir s id))).2 = m' :=
      congrArg Prod.snd (Script.ends_request.1 hremove)
    rw [← hanswer]
    show (m.settle (m.removeTree (stagingDir s id))).2.get? _ = none
    rw [Disk.removeTree_of_get? hreach.1 hstep hreach.2, hloc]
    show (m.clear (stagingAt m s id)).get? _ = none
    rw [Disk.get?_clear m (by simp [stagingAt]), if_pos (Disk.isUnder_append _ rest)]

/-! ## Failures -/

/-- What a conversion that failed leaves: everything outside the staging directory is as it was,
except that the output directory and those above it may have been made.  Unless the identifier is
made of dots alone, there is still no bundle, and the staging directory is gone or untouched. -/
structure Undone (s : Settings) (id : ExampleId) (d d' : Disk) : Prop where
  outside : Disk.Confined (d.locate s.outputDir) [stagingAt d s id] d d'
  others : ∀ n rest, n ≠ stagingName id →
    d'.get? (d.locate s.outputDir ++ n :: rest) = d.get? (d.locate s.outputDir ++ n :: rest)
  bundle : id.text ≠ ['.'] → id.text ≠ ['.', '.'] → d'.isPresent (bundleDir s id) = false
  staging : id.text ≠ ['.'] → id.text ≠ ['.', '.'] → GoneOrKept (stagingAt d s id) d d'

/-- What is confined to the staging directory is undone when that is gone or untouched. -/
theorem undone_of_confined (hid₀ : id.text ≠ []) (hid : '/' ∉ id.text)
    (hup : .up ∉ s.outputDir.steps) (habsent : d.isPresent (bundleDir s id) = false)
    (h : Disk.Confined (d.locate s.outputDir) [stagingAt d s id] d d')
    (hstaging : id.text ≠ ['.'] → id.text ≠ ['.', '.'] → GoneOrKept (stagingAt d s id) d d') :
    Undone s id d d' := by
  refine ⟨h, ?_, ?_, hstaging⟩
  · intro n rest hn
    refine h.get?_eq ?_ (Disk.not_isUnder_above _ n rest)
    intro l hl
    rw [List.mem_singleton.1 hl]
    exact Disk.not_isUnder_sibling hn.symm _ rest
  · intro h₁ h₂
    exact absent_of_confined hid₀ hid h₁ h₂ hup habsent h

theorem undone_of_convertNew (hid₀ : id.text ≠ []) (hid : '/' ∉ id.text)
    (hsnippet : '/' ∉ s.emit.snippetExtension) (hcommand : '/' ∉ s.emit.commandExtension)
    (hup : .up ∉ s.outputDir.steps) (habsent : d.isPresent (bundleDir s id) = false)
    (h : (convertNew s p id).Ends d (.error f) d') : Undone s id d d' := by
  have hloc : d.locate (stagingDir s id) = stagingAt d s id := locate_stagingDir d s hid
  rw [convertNew_eq] at h
  rcases Script.ends_bind_error.1 h with h | ⟨written, m, hstage, h⟩
  · -- The staging directory was not made.
    have hconf := confined_of_ends_stage hid hsnippet hcommand hup h
    refine undone_of_confined hid₀ hid hup habsent hconf fun _ _ => ?_
    rcases Script.ends_bind_error.1 h with h | ⟨source, m, hread, h⟩
    · rw [ends_read_error h]
      exact .inr (Disk.Keeps.refl _ d)
    · obtain ⟨text, -, -, rfl⟩ := ends_read.1 hread
      rcases Script.ends_bind_error.1 h with h | ⟨⟨⟩, base, -, h⟩
      · rw [← hloc]
        exact goneOrKept_of_ends_prepare_error (by simp [steps_stagingDir s hid, hup])
          (by simp [hloc, stagingAt]) h
      · exact absurd h Script.not_ends_attempt_error
  · have hconf := confined_of_ends_stage hid hsnippet hcommand hup hstage
    have hreach := reaches_of_ends_stage hid hstage
    have hstagingAt : stagingAt m s id = stagingAt d s id := by
      rw [stagingAt, stagingAt, Disk.locate_congr hconf.here]
    cases written with
    | error g =>
      have hgone := gone_of_ends_finish_error hid hup hreach h
      rw [hstagingAt] at hgone
      have honly : (finish s id (.error g)).Only (Stages s id) fun _ => False :=
        (Script.only_request .remove).bind fun _ => Script.only_fail g
      have hlast := (confined_of_only_stages hid hup honly m).1
      rw [h.2, hstagingAt, Disk.locate_congr hconf.here] at hlast
      exact undone_of_confined hid₀ hid hup habsent (hconf.trans hlast) fun _ _ => .inl hgone
    | ok u =>
      rcases Script.ends_bind_error.1 h with h | ⟨_, _, -, h⟩
      · obtain ⟨⟨g, hg, -⟩, rfl⟩ := Script.ends_rename_error.1 h
        refine undone_of_confined hid₀ hid hup habsent hconf fun h₁ h₂ => ?_
        obtain ⟨m', hm'⟩ := rename_of_reaches hid₀ hid h₁ h₂ hup habsent hconf hreach
        rw [hg] at hm'
        cases hm'
      · cases h.1

/-- A conversion that fails has no identifier and changes nothing, or its bundle was not there
before and all that it did is undone. -/
theorem undone_of_failed (hsnippet : '/' ∉ s.emit.snippetExtension)
    (hcommand : '/' ∉ s.emit.commandExtension) (hup : .up ∉ s.outputDir.parts)
    (h : (convertDocument s p).Ends d (.error f) d') :
    (ExampleId.ofPath p = .error f ∧ d' = d) ∨ ∃ id, ExampleId.ofPath p = .ok id ∧
      d.isPresent (bundleDir s id) = false ∧ Undone s id d d' := by
  have hup' := Path.up_not_mem_steps hup
  rcases Script.ends_bind_error.1 h with h | ⟨id, m, hcompute, h⟩
  · obtain ⟨hid, rfl⟩ := Script.ends_ofExcept.1 h
    exact .inl ⟨hid, rfl⟩
  · obtain ⟨hid, rfl⟩ := Script.ends_ofExcept.1 hcompute
    obtain ⟨hid₀, hslash⟩ := ExampleId.name_of_ofPath hid
    rcases Script.ends_bind_error.1 h with h | ⟨found, m, hfound, h⟩
    · exact absurd h Script.not_ends_request_error
    · obtain ⟨hpresent, rfl⟩ := Script.ends_present.1 hfound
      cases found with
      | true => cases h.1
      | false =>
        exact .inr ⟨id, hid, hpresent,
          undone_of_convertNew hid₀ hslash hsnippet hcommand hup' hpresent h⟩

/-- A conversion that fails when the stale staging directory has been replaced and the image has
been copied, because the name of the snippet file is too long. -/
theorem undone_of_failed_leftover :
    let s : Settings :=
      { outputDir := Path.ofString "o", emit := { snippetExtension := List.replicate 255 'x' } }
    let p := Path.ofString "7-a.md"
    let id : ExampleId := ⟨Text.ofString "7-a", rfl⟩
    ∃ q d', (convertDocument s p).Ends leftover (.error (.io q .nameTooLong)) d' ∧
      leftover.isDirectory (stagingDir s id) = true ∧ d'.isPresent (stagingDir s id) = false ∧
      Undone s id leftover d' := by
  intro s p id
  let q := (stagingDir s id).join (artifactNames s id).snippet
  have hresult : ((convertDocument s p).run leftover).result = .error (.io q .nameTooLong) := by
    decide +kernel
  have hends := Script.ends_of_result hresult
  have hid : ExampleId.ofPath p = .ok id := rfl
  rcases undone_of_failed (by decide) (by decide) (by decide) hends with ⟨hnone, -⟩ | ⟨id', hid', h⟩
  · cases hid.symm.trans hnone
  · obtain rfl := Except.ok.inj (hid.symm.trans hid')
    exact ⟨q, _, hends, by decide +kernel, by decide +kernel, h.2⟩

/-- With a single dot for an identifier, a conversion that fails leaves what it has put together in
the staging directory. -/
theorem staging_left_of_dot :
    let s : Settings := { outputDir := Path.ofString "o" }
    let p := Path.ofString "..md"
    let id : ExampleId := ⟨['.'], rfl⟩
    s.validate = .ok () ∧ ExampleId.ofPath p = .ok id ∧
      dotted.isPresent (stagingDir s id) = false ∧
      ∃ f d', (convertDocument s p).Ends dotted (.error f) d' ∧
        d'.isFile ((stagingDir s id).join (artifactNames s id).snippet) = true := by
  intro s p id
  have hresult : ((convertDocument s p).run dotted).result
      = .error (.io (bundleDir s id) .busy) := by
    decide +kernel
  exact ⟨rfl, rfl, by decide +kernel, _, _, Script.ends_of_result hresult, by decide +kernel⟩

end GuideBundles.Conversion
