/-
# `Proofs.Conversion.Isolated` — a conversion leaves the bundles of others alone

A conversion works in its staging directory and in the place of its bundle.  The bundle of another
document lies in neither of them, unless it is called as the staging directory is; so it stays as it
was while other documents are converted, and in particular until a batch is at its end.

Names of documents may begin with a dot, and then a bundle can be called as a staging directory is.
Without links there is no other way for a bundle to lie in one.
-/
import GuideBundles.Proofs.Conversion.Collected
import GuideBundles.Proofs.Conversion.Interrupted

namespace GuideBundles

/-- Everything at a location and below is on the second disk as it is on the first. -/
structure Disk.Keeps (l : Location) (d d' : Disk) : Prop where
  here : d'.here = d.here
  get? : ∀ rest, d'.get? (l ++ rest) = d.get? (l ++ rest)

theorem Disk.Keeps.refl (l : Location) (d : Disk) : Disk.Keeps l d d := ⟨rfl, fun _ => rfl⟩

theorem Disk.Keeps.trans {l : Location} {a b c : Disk} (h : Disk.Keeps l a b)
    (h' : Disk.Keeps l b c) : Disk.Keeps l a c :=
  ⟨h'.here.trans h.here, fun rest => (h'.get? rest).trans (h.get? rest)⟩

namespace Conversion

variable {s : Settings} {dir p q : Path} {a b : ExampleId} {d d' : Disk}

/-! ## Requests for other documents -/

/-- A request for one document leaves the bundle of another one as it is. -/
theorem keeps_of_converts (ha₀ : a.text ≠ []) (ha : '/' ∉ a.text) (hup : .up ∉ s.outputDir.steps)
    (hne : a.text ≠ b.text) (hclash : stagingName a ≠ b.text) {r : Request}
    (h : Converts s a r) (d : Disk) : Disk.Keeps (bundleAt d s b) d (d.answer r).2 := by
  have hconf := confined_of_converts ha₀ ha hup h d
  refine ⟨hconf.here, ?_⟩
  intro rest
  rw [bundleAt, List.append_assoc]
  exact get?_eq_of_confined hconf hne.symm hclash.symm rest

/-- A script that asks for other documents only leaves a bundle as it is, all the time. -/
theorem keeps_of_only {α : Type} {Q : Event → Prop} {ps : List Path}
    (hup : .up ∉ s.outputDir.steps)
    (hother : ∀ p ∈ ps, ∀ a, ExampleId.ofPath p = .ok a →
      a.text ≠ b.text ∧ stagingName a ≠ b.text)
    {t : Script α} (ht : t.Only (ConvertsOne s ps) Q) (d : Disk) :
    Disk.Keeps (bundleAt d s b) d (t.run d).disk ∧
      ∀ x ∈ t.trace d, Disk.Keeps (bundleAt d s b) d x.2 := by
  refine ht.bounded (R := fun x y => Disk.Keeps (bundleAt x s b) x y)
    (fun _ => Disk.Keeps.refl _ _) ?_ ?_ d
  · intro x y z hxy hyz
    rw [bundleAt, Disk.locate_congr hxy.here] at hyz
    exact hxy.trans hyz
  · rintro r ⟨p, hp, a, ha, hr⟩ d
    obtain ⟨ha₀, has⟩ := ExampleId.name_of_ofPath ha
    obtain ⟨hne, hclash⟩ := hother p hp a ha
    exact keeps_of_converts ha₀ has hup hne hclash hr d

/-! ## Batches -/

/-- A bundle that is kept is found as before. -/
theorem find_bundleDir_of_keeps (hb₀ : b.text ≠ []) (hb : '/' ∉ b.text) (h₁ : b.text ≠ ['.'])
    (h₂ : b.text ≠ ['.', '.']) (hup : .up ∉ s.outputDir.steps)
    (h : Disk.Keeps (bundleAt d s b) d d')
    (hfind : d.find (bundleDir s b) = .ok (d.locate (bundleDir s b), .directory)) :
    d'.find (bundleDir s b) = .ok (d'.locate (bundleDir s b), .directory) := by
  have hdir := (Disk.find_ok hfind).2
  rw [locate_bundleDir d s hb₀ hb h₁ h₂] at hdir
  have hkept := h.get? []
  rw [List.append_nil, hdir, bundleAt, ← Disk.locate_congr h.here] at hkept
  rw [locate_bundleDir d' s hb₀ hb h₁ h₂]
  exact Disk.find_join_of_get? hb₀ hb (Path.stepOf_eq_name_iff.2 ⟨rfl, h₁, h₂⟩)
    (Disk.flaw?_of_find_ok hfind) hup hkept

/-- Of the documents in a directory, let one have an identifier that is neither made of dots alone
nor the name of the staging directory of another.  While any other of them is converted, the bundle
of that one is as it was, at any time; and after it was converted, its bundle stays in its place as
it is, at any time until all later documents are done. -/
theorem bundle_kept (hs : s.validate = .ok ()) (hsnippet : '/' ∉ s.emit.snippetExtension)
    (hcommand : '/' ∉ s.emit.commandExtension) (hup : .up ∉ s.outputDir.parts) {ps : List Path}
    (hps : (collect s dir).Ends d (.ok ps) d') (hq : q ∈ ps) (hb : ExampleId.ofPath q = .ok b)
    (h₁ : b.text ≠ ['.']) (h₂ : b.text ≠ ['.', '.'])
    (hclash : ∀ p ∈ ps, ∀ a, ExampleId.ofPath p = .ok a → stagingName a ≠ b.text) :
    (∀ p ∈ ps, p ≠ q → ∀ m, Disk.Keeps (m.locate (bundleDir s b)) m
        ((convertDocument s p).run m).disk ∧
      ∀ x ∈ (convertDocument s p).trace m, Disk.Keeps (m.locate (bundleDir s b)) m x.2) ∧
    (∀ before after, ps = before ++ q :: after → ∀ m m',
      (convertDocument s q).Ends m (.ok .converted) m' → ∀ current total,
        ∀ m'' ∈ m' :: (convertAll s current total after).disks m',
          Disk.Keeps (m'.locate (bundleDir s b)) m' m'' ∧
          m''.find (bundleDir s b) = .ok (m''.locate (bundleDir s b), .directory)) := by
  have hup' := Path.up_not_mem_steps hup
  obtain ⟨hb₀, hbs⟩ := ExampleId.name_of_ofPath hb
  obtain ⟨-, rfl, -⟩ := ends_collect.1 hps
  have hother : ∀ p ∈ documents d s dir, p ≠ q → ∀ a, ExampleId.ofPath p = .ok a →
      a.text ≠ b.text ∧ stagingName a ≠ b.text := by
    intro p hp hne a ha
    exact ⟨text_ne_of_mem_documents hp hq hne ha hb, hclash p hp a ha⟩
  constructor
  · intro p hp hne m
    rw [locate_bundleDir m s hb₀ hbs h₁ h₂]
    have honly :=
      only_convertOne (Q := fun _ => False) (List.mem_singleton_self p) hsnippet hcommand
    refine keeps_of_only hup' ?_ honly m
    intro p' hp'
    rw [List.mem_singleton.1 hp']
    exact hother p hp hne
  · intro before after hsplit m m' hconv current total m'' hm''
    have hnodup : (before ++ q :: after).Nodup := hsplit ▸ nodup_documents d s dir
    have hafter : ∀ p ∈ after, p ∈ documents d s dir ∧ p ≠ q := by
      intro p hp
      refine ⟨hsplit ▸ List.mem_append_right _ (List.mem_cons_of_mem _ hp), ?_⟩
      rintro rfl
      exact (List.nodup_cons.1 (List.nodup_append.1 hnodup).2.1).1 hp
    have honly := only_convertAll (s := s) after current total
      fun p hp => only_convertOne hp hsnippet hcommand
    obtain ⟨-, hkept⟩ := keeps_of_only hup'
      (fun p hp => hother p (hafter p hp).1 (hafter p hp).2) honly m'
    have hkeeps : Disk.Keeps (bundleAt m' s b) m' m'' := by
      rcases List.mem_cons.1 hm'' with rfl | hm''
      · exact Disk.Keeps.refl _ m''
      · rw [← Script.map_snd_trace] at hm''
        obtain ⟨x, hx, rfl⟩ := List.mem_map.1 hm''
        exact hkept x hx
    have hfound : m'.find (bundleDir s b) = .ok (m'.locate (bundleDir s b), .directory) := by
      obtain ⟨b', hb', ⟨-, ho, -⟩ | ⟨-, -, hnew⟩⟩ := ends_convertDocument hconv
      · cases ho
      · obtain rfl := Except.ok.inj (hb'.symm.trans hb)
        obtain ⟨text, base, -, -, -, hwhole⟩ :=
          ends_convertNew hb₀ hbs hs hsnippet hcommand hup' hnew
        exact hwhole.1
    rw [locate_bundleDir m' s hb₀ hbs h₁ h₂]
    exact ⟨hkeeps, find_bundleDir_of_keeps hb₀ hbs h₁ h₂ hup' hkeeps hfound⟩

/-- The first of two bundles is there while the second document is converted. -/
theorem bundle_kept_first :
    let s : Settings := { outputDir := Path.ofString "o" }
    let q := Path.ofString "d/a.md"
    let b : ExampleId := ⟨['a'], rfl⟩
    ∃ m', (convertDocument s q).Ends pair (.ok .converted) m' ∧
      ∀ m'' ∈ m' :: (convertAll s 1 2 [Path.ofString "d/b.md"]).disks m',
        Disk.Keeps (m'.locate (bundleDir s b)) m' m'' ∧
          m''.find (bundleDir s b) = .ok (m''.locate (bundleDir s b), .directory) := by
  intro s q b
  have hconv : ((convertDocument s q).run pair).result = .ok .converted := by decide +kernel
  have hb : ExampleId.ofPath q = .ok b := rfl
  have hclash : ∀ p ∈ [q, Path.ofString "d/b.md"], ∀ a, ExampleId.ofPath p = .ok a →
      stagingName a ≠ b.text := by
    intro p _ a _ heq
    have hlength := congrArg List.length heq
    rw [length_stagingName] at hlength
    exact absurd hlength (by simp [b])
  obtain ⟨-, hkept⟩ := bundle_kept rfl (by decide) (by decide) (by decide) ends_collect_pair
    List.mem_cons_self hb (by decide) (by decide) hclash
  have hends := Script.ends_of_result hconv
  exact ⟨_, hends, hkept [] _ rfl _ _ hends 1 2⟩

/-- The bundle of a document that is called as the staging directory of another is lost when that
one is converted after it. -/
theorem bundle_lost_of_stagingName :
    let s : Settings := { outputDir := Path.ofString "o" }
    let d := shelf [Text.ofString "x.md", Text.ofString ".x.partial.md"]
    let p := Path.ofString "d/x.md"
    let q := Path.ofString "d/.x.partial.md"
    let b : ExampleId := ⟨Text.ofString ".x.partial", rfl⟩
    s.validate = .ok () ∧ (collect s (Path.ofString "d")).Ends d (.ok [q, p]) d ∧
      ExampleId.ofPath q = .ok b ∧
      ∃ m m', (convertDocument s q).Ends d (.ok .converted) m ∧
        m.isDirectory (bundleDir s b) = true ∧
        (convertDocument s p).Ends m (.ok .converted) m' ∧
        m'.isPresent (bundleDir s b) = false := by
  intro s d p q b
  have hcollect : (collect s (Path.ofString "d")).Ends d (.ok [q, p]) d := by
    refine ends_collect.2 ⟨Disk.isDirectory_iff.1 (by decide +kernel), ?_, rfl⟩
    rw [documents, documentNames_of_pairwise (by decide +kernel)]
    decide +kernel
  have hfirst : ((convertDocument s q).run d).result = .ok .converted := by decide +kernel
  have hthere : ((convertDocument s q).run d).disk.isDirectory (bundleDir s b) = true := by
    decide +kernel
  have hsecond : ((convertDocument s p).run ((convertDocument s q).run d).disk).result
      = .ok .converted := by decide +kernel
  have hgone : ((convertDocument s p).run
      ((convertDocument s q).run d).disk).disk.isPresent (bundleDir s b) = false := by
    decide +kernel
  exact ⟨rfl, hcollect, rfl, _, _, Script.ends_of_result hfirst, hthere,
    Script.ends_of_result hsecond, hgone⟩

end Conversion
end GuideBundles
