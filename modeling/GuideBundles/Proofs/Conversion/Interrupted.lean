/-
# `Proofs.Conversion.Interrupted` — a conversion that is cut off leaves no part of a bundle

After each of its requests, a conversion could be cut off.  Whatever it has done by then, the output
directory holds what it held before, besides the staging directory and the bundle, and the bundle is
not there until the last request, which puts it there as a whole.

That needs an identifier that names something.  A single dot or two dots are identifiers too, and
they lead to the output directory or to the one above it, which the conversion makes at its start.
And it needs a disk without links, as all disks here are.
-/
import GuideBundles.Proofs.Conversion.Steps

namespace GuideBundles.Conversion

variable {s : Settings} {p : Path} {id : ExampleId} {d d' : Disk}

/-! ## Bundles by their paths -/

/-- An identifier that is no dots names the bundle in the output directory. -/
theorem locate_bundleDir (d : Disk) (s : Settings) (hid₀ : id.text ≠ []) (hid : '/' ∉ id.text)
    (h₁ : id.text ≠ ['.']) (h₂ : id.text ≠ ['.', '.']) :
    d.locate (bundleDir s id) = bundleAt d s id :=
  Disk.locate_join_name d s.outputDir hid₀ hid h₁ h₂

/-- A bundle whose path can be walked is present when something lies in its place. -/
theorem isPresent_bundleDir (hid₀ : id.text ≠ []) (hid : '/' ∉ id.text) (h₁ : id.text ≠ ['.'])
    (h₂ : id.text ≠ ['.', '.']) (hup : .up ∉ s.outputDir.steps)
    (hflaw : (bundleDir s id).flaw? = none) {e : Entry} (h : d.get? (bundleAt d s id) = some e) :
    d.isPresent (bundleDir s id) = true := by
  have hfind := Disk.find_join_of_get? hid₀ hid (Path.stepOf_eq_name_iff.2 ⟨rfl, h₁, h₂⟩) hflaw
    hup h
  change d.find (bundleDir s id) = _ at hfind
  rw [Disk.isPresent, hfind]

theorem flaw?_of_isPresent {q : Path} (h : d.isPresent q = true) :
    ∃ e, d.get? (d.locate q) = some e ∧ q.flaw? = none := by
  unfold Disk.isPresent at h
  split at h
  · next x hfind =>
    obtain ⟨l, e⟩ := x
    obtain ⟨rfl, he⟩ := Disk.find_ok hfind
    exact ⟨e, he, Disk.flaw?_of_find_ok hfind⟩
  · cases h

/-- While only the staging directory differs, a bundle that was absent stays absent. -/
theorem absent_of_confined (hid₀ : id.text ≠ []) (hid : '/' ∉ id.text) (h₁ : id.text ≠ ['.'])
    (h₂ : id.text ≠ ['.', '.']) (hup : .up ∉ s.outputDir.steps)
    (habsent : d.isPresent (bundleDir s id) = false)
    (h : Disk.Confined (d.locate s.outputDir) [stagingAt d s id] d d') :
    d'.isPresent (bundleDir s id) = false := by
  cases hpresent : d'.isPresent (bundleDir s id) with
  | false => rfl
  | true =>
    obtain ⟨e, he, hflaw⟩ := flaw?_of_isPresent hpresent
    rw [Disk.locate_congr h.here, locate_bundleDir d s hid₀ hid h₁ h₂] at he
    have hout : ∀ l ∈ [stagingAt d s id], Disk.isUnder l (bundleAt d s id) = false := by
      intro l hl
      rw [List.mem_singleton.1 hl]
      exact Disk.not_isUnder_sibling (stagingName_ne_text id) _ []
    rw [h.get?_eq hout (Disk.not_isUnder_above _ _ [])] at he
    rw [isPresent_bundleDir hid₀ hid h₁ h₂ hup hflaw he] at habsent
    cases habsent

/-! ## At any time -/

/-- After each request of a conversion whose bundle was not there, everything in the output
directory besides the staging directory and the bundle is as it was; and unless the identifier is
made of dots alone, the bundle is either not there, or the request was the last one and the bundle
is there as a whole. -/
theorem absent_or_whole_of_mem_trace (hs : s.validate = .ok ())
    (hsnippet : '/' ∉ s.emit.snippetExtension) (hcommand : '/' ∉ s.emit.commandExtension)
    (hup : .up ∉ s.outputDir.parts) (hp : ExampleId.ofPath p = .ok id)
    (habsent : d.isPresent (bundleDir s id) = false) {x : Request × Disk}
    (hx : x ∈ (convertDocument s p).trace d) :
    (∀ n rest, n ≠ id.text → n ≠ stagingName id →
      x.2.get? (d.locate s.outputDir ++ n :: rest) = d.get? (d.locate s.outputDir ++ n :: rest)) ∧
    (id.text ≠ ['.'] → id.text ≠ ['.', '.'] →
      x.2.isPresent (bundleDir s id) = false ∨
        x.1 = .rename (stagingDir s id) (bundleDir s id) ∧
          ∃ text base, d.readText p = .ok text ∧
            Disk.Emptied (d.locate (stagingDir s id)) d base ∧
            HoldsWhole x.2 base s ⟨p, text⟩ id) := by
  obtain ⟨hid₀, hid⟩ := ExampleId.name_of_ofPath hp
  have hup' := Path.up_not_mem_steps hup
  constructor
  · intro n rest hn hns
    have honly := only_convertDocument (Q := fun _ => False) hp hsnippet hcommand
    have hconf := (confined_of_only_converts hid₀ hid hup' honly d).2 x hx
    exact get?_eq_of_confined hconf hn hns rest
  · intro h₁ h₂
    rw [convertDocument_eq hp] at hx
    rcases Script.mem_trace_bind hx with hx | ⟨found, m, hfound, hx⟩
    · obtain rfl := List.mem_singleton.1 hx
      exact .inl habsent
    · obtain ⟨rfl, rfl⟩ := Script.ends_present.1 hfound
      rw [habsent, if_neg (by simp)] at hx
      rcases mem_trace_convertNew hid hsnippet hcommand hup' hx with
        hconf | ⟨m, hstage, hconf, hrequest, hdisk⟩
      · exact .inl (absent_of_confined hid₀ hid h₁ h₂ hup' habsent hconf)
      · rw [hrequest] at hdisk
        change x.2 = (m.settle (m.rename _ _)).2 at hdisk
        cases hrename : m.rename (stagingDir s id) (bundleDir s id) with
        | error f =>
          rw [hdisk, hrename]
          exact .inl (absent_of_confined hid₀ hid h₁ h₂ hup' habsent hconf)
        | ok m' =>
          obtain ⟨text, base, xs, htext, hempty, hxs, hfull⟩ :=
            ends_stage hid hsnippet hcommand hup' hstage
          obtain ⟨-, hwhole⟩ := holdsWhole_of_rename hid₀ hid hs hup' hxs hfull hrename
          rw [hdisk, hrename]
          exact .inr ⟨hrequest, text, base, htext, hempty, hwhole⟩

/-- The last request of the conversion beside a leftover puts the whole bundle into its place. -/
theorem absent_or_whole_of_mem_trace_leftover :
    let s : Settings := { outputDir := Path.ofString "o" }
    let p := Path.ofString "7-a.md"
    let id : ExampleId := ⟨Text.ofString "7-a", rfl⟩
    ∃ x ∈ (convertDocument s p).trace leftover,
      x.1 = .rename (stagingDir s id) (bundleDir s id) ∧
        ∃ text base, leftover.readText p = .ok text ∧
          Disk.Emptied (leftover.locate (stagingDir s id)) leftover base ∧
          HoldsWhole x.2 base s ⟨p, text⟩ id := by
  intro s p id
  have hfound : ((convertDocument s p).trace leftover).any
      (fun x => x.2.isPresent (bundleDir s id)) = true := by decide +kernel
  obtain ⟨x, hx, hpresent⟩ := List.any_eq_true.1 hfound
  have hid : ExampleId.ofPath p = .ok id := rfl
  obtain ⟨-, hbundle⟩ := absent_or_whole_of_mem_trace (s := s) rfl (by decide) (by decide)
    (by decide) hid (by decide +kernel) hx
  rcases hbundle (by decide) (by decide) with habsent | hwhole
  · rw [hpresent] at habsent
    cases habsent
  · exact ⟨x, hx, hwhole⟩

/-- A disk with a document whose identifier is a single dot. -/
def dotted : Disk := Disk.put {} [Text.ofString "..md"] (.file (Text.ofString "# T").toBytes)

/-- The bundle of a single dot is there, without its files, before anything was renamed. -/
theorem present_before_whole_of_dot :
    let s : Settings := { outputDir := Path.ofString "o" }
    let p := Path.ofString "..md"
    let id : ExampleId := ⟨['.'], rfl⟩
    s.validate = .ok () ∧ ExampleId.ofPath p = .ok id ∧
      dotted.isPresent (bundleDir s id) = false ∧
      ∃ x ∈ (convertDocument s p).trace dotted, x.2.isPresent (bundleDir s id) = true ∧
        ∀ base source, ¬ HoldsWhole x.2 base s source id := by
  intro s p id
  have hfound : ((convertDocument s p).trace dotted).any (fun x =>
      x.2.isPresent (bundleDir s id) && (x.2.get? (x.2.locate (bundleDir s id) ++
        [(artifactNames s id).snippet])).isNone) = true := by decide +kernel
  refine ⟨rfl, rfl, by decide +kernel, ?_⟩
  obtain ⟨x, hx, hboth⟩ := List.any_eq_true.1 hfound
  obtain ⟨hpresent, hnone⟩ := Bool.and_eq_true_iff.1 hboth
  refine ⟨x, hx, hpresent, ?_⟩
  rintro base source ⟨-, xs, -, hholds⟩
  have hsnippet := hholds.artifact _ List.mem_cons_self
  rw [Option.isNone_iff_eq_none] at hnone
  exact absurd (hnone.symm.trans hsnippet) (by simp)

end GuideBundles.Conversion
