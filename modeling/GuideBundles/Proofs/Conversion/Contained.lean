/-
# `Proofs.Conversion.Contained` — what a conversion writes lies in its bundle

Images are copied under base names, and a base name has no slash.  The names of the generated files
are not taken apart so: an extension may hold slashes, and behind an identifier that ends with its
hyphen it can lead up and out of the staging directory.  As long as the names stay in their
directory, nothing outside the staging directory and the bundle changes, whatever the identifier,
the text and the images are, except that the output directory and those on the way to it may be
made.  No link leads out of the staging directory, for a disk has no links.
-/
import GuideBundles.Proofs.Conversion.Failed

namespace GuideBundles.Conversion

variable {s : Settings} {p : Path} {id : ExampleId} {d d' : Disk} {named : Text → Prop}

/-- A request of a conversion changes nothing outside the staging directory and the bundle. -/
theorem within_of_assembles_or_rename (hid₀ : id.text ≠ []) (hid : '/' ∉ id.text)
    (hnamed : ∀ n, named n → Path.staysIn n = true) {r : Request}
    (h : Assembles s id named r ∨ r = .rename (stagingDir s id) (bundleDir s id)) (d : Disk) :
    Disk.Within (· ∈ d.way s.outputDir) [stagingAt d s id, bundleAt d s id] d (d.answer r).2 := by
  rcases h with h | rfl
  · exact (within_of_assembles hid hnamed h d).mono (by simp)
  · exact within_answer_renameStaging hid₀ hid d

/-- And so does a script of such requests, at any time. -/
theorem within_of_only {α : Type} {Q : Event → Prop} {t : Script α} (hid₀ : id.text ≠ [])
    (hid : '/' ∉ id.text) (hnamed : ∀ n, named n → Path.staysIn n = true)
    (ht : t.Only (fun r => Assembles s id named r ∨
      r = .rename (stagingDir s id) (bundleDir s id)) Q) (d : Disk) :
    Disk.Within (· ∈ d.way s.outputDir) [stagingAt d s id, bundleAt d s id] d (t.run d).disk ∧
      ∀ x ∈ t.trace d,
        Disk.Within (· ∈ d.way s.outputDir) [stagingAt d s id, bundleAt d s id] d x.2 := by
  refine ht.bounded
    (R := fun a b =>
      Disk.Within (· ∈ a.way s.outputDir) [stagingAt a s id, bundleAt a s id] a b)
    (fun _ => Disk.Within.refl _ _ _) ?_
    (fun _ hr d => within_of_assembles_or_rename hid₀ hid hnamed hr d) d
  intro a b c hab hbc
  rw [stagingAt, bundleAt, Disk.locate_congr hab.here, Disk.way_congr hab.here] at hbc
  exact hab.trans hbc

/-- What was put together in the staging directory is not there any more when it has its final
name. -/
theorem gone_of_ends_convertNew (hid₀ : id.text ≠ []) (hid : '/' ∉ id.text)
    (h : (convertNew s p id).Ends d (.ok .converted) d') (rest : Location) :
    d'.get? (stagingAt d s id ++ rest) = none := by
  rw [convertNew_eq] at h
  obtain ⟨written, m, hstage, h⟩ := Script.ends_bind_ok.1 h
  obtain ⟨rfl, -, hrename⟩ := ends_finish h
  obtain ⟨-, hdir⟩ := reaches_of_ends_stage hid hstage
  rw [locate_stagingDir m s hid] at hdir
  obtain ⟨-, -, -, hmoved⟩ := moved_of_rename hid₀ hid hdir hrename
  rw [stagingAt, ← Disk.locate_congr hstage.here]
  exact (hmoved rest).2

/-- A document without an identifier is not converted and nothing changes.  For any other one, let
the names of the generated files stay in their directory.  Then at any time of its conversion
nothing but the staging directory and the bundle is different from what it was, apart from
directories made on the way to the output directory; and when it is converted, nothing is left of
the staging directory. -/
theorem written_within_bundle
    (hnames : ∀ id, ExampleId.ofPath p = .ok id →
      ∀ n ∈ (artifactNames s id).toList, Path.staysIn n = true) (d : Disk) :
    (∀ f, ExampleId.ofPath p = .error f →
      (convertDocument s p).Ends d (.error f) d ∧ (convertDocument s p).trace d = []) ∧
    ∀ id, ExampleId.ofPath p = .ok id →
      (∀ m ∈ ((convertDocument s p).run d).disk :: (convertDocument s p).disks d,
        Disk.Within (· ∈ d.way s.outputDir) [stagingAt d s id, bundleAt d s id] d m) ∧
      ∀ d', (convertDocument s p).Ends d (.ok .converted) d' →
        ∀ rest, d'.get? (stagingAt d s id ++ rest) = none := by
  constructor
  · intro f hf
    rw [convertDocument, hf]
    exact ⟨⟨rfl, rfl⟩, rfl⟩
  · intro id hid
    obtain ⟨hid₀, hslash⟩ := ExampleId.name_of_ofPath hid
    have honly : (convertDocument s p).Only
        (fun r => Assembles s id (· ∈ (artifactNames s id).toList) r ∨
          r = .rename (stagingDir s id) (bundleDir s id)) fun _ => False :=
      only_convertDocument_of_new hid (.inl (.fill (.look trivial)))
        (only_convertNew_of_stage ((only_assembles_stage p).imp (fun _ h => .inl h) fun _ h => h)
          (.inl .remove) (.inr rfl))
    obtain ⟨hlast, hbefore⟩ := within_of_only hid₀ hslash (hnames id hid) honly d
    constructor
    · intro m hm
      rcases List.mem_cons.1 hm with rfl | hm
      · exact hlast
      · rw [← Script.map_snd_trace] at hm
        obtain ⟨x, hx, rfl⟩ := List.mem_map.1 hm
        exact hbefore x hx
    · intro d' h rest
      obtain ⟨id', hid', ⟨-, ho, -⟩ | ⟨-, -, hnew⟩⟩ := ends_convertDocument h
      · cases ho
      · obtain rfl := Except.ok.inj (hid.symm.trans hid')
        exact gone_of_ends_convertNew hid₀ hslash hnew rest

/-- Extensions without slashes make such names. -/
theorem staysIn_of_mem_artifactNames (hid : ExampleId.ofPath p = .ok id)
    (hsnippet : '/' ∉ s.emit.snippetExtension) (hcommand : '/' ∉ s.emit.commandExtension)
    {n : Text} (hn : n ∈ (artifactNames s id).toList) : Path.staysIn n = true := by
  obtain ⟨hn₀, hs⟩ :=
    name_of_mem_artifactNames (ExampleId.name_of_ofPath hid).2 hsnippet hcommand hn
  exact Path.staysIn_name hn₀ hs

/-- An extension with a slash behind an identifier that ends with its hyphen, and the file is
written in the bundle all the same. -/
theorem written_within_bundle_slash :
    let s : Settings :=
      { outputDir := Path.ofString "n/../o", emit := { snippetExtension := ['/', 's'] } }
    let p := Path.ofString "d/a-.md"
    let id : ExampleId := ⟨['a', '-'], rfl⟩
    let d := shelf [Text.ofString "a-.md"]
    ∃ d', (convertDocument s p).Ends d (.ok .converted) d' ∧
      d'.isFile (Path.ofString "o/a-/s") = true ∧
      Disk.Within (· ∈ d.way s.outputDir) [stagingAt d s id, bundleAt d s id] d d' ∧
      ∀ rest, d'.get? (stagingAt d s id ++ rest) = none := by
  intro s p id d
  have hid : ExampleId.ofPath p = .ok id := rfl
  have hresult : ((convertDocument s p).run d).result = .ok .converted := by decide +kernel
  have hends := Script.ends_of_result hresult
  have hnames : ∀ n ∈ (artifactNames s id).toList, Path.staysIn n = true := by decide +kernel
  obtain ⟨-, h⟩ := written_within_bundle (s := s) (p := p) (fun id' hid' => by
    obtain rfl := Except.ok.inj (hid.symm.trans hid')
    exact hnames) d
  obtain ⟨hwithin, hgone⟩ := h id hid
  exact ⟨_, hends, by decide +kernel, hwithin _ List.mem_cons_self, hgone _ hends⟩

/-- How long a file is. -/
def fileSize : Option Entry → Nat
  | some (.file data) => data.size
  | _ => 0

/-- With an extension that leads up, a file of another directory is overwritten, and the document is
told to be converted. -/
theorem overwritten_of_up :
    let s : Settings :=
      { outputDir := Path.ofString "o", emit := { snippetExtension := Text.ofString "/../../v/x" } }
    let p := Path.ofString "d/a-.md"
    let id : ExampleId := ⟨['a', '-'], rfl⟩
    let d := ((shelf [Text.ofString "a-.md"]).put [['v']] .directory).put [['v'], ['x']]
      (.file (Text.ofString "mine").toBytes)
    s.validate = .ok () ∧ ExampleId.ofPath p = .ok id ∧
      ∃ d', (convertDocument s p).Ends d (.ok .converted) d' ∧
        d.readText (Path.ofString "v/x") = .ok (Text.ofString "mine") ∧
        d'.readText (Path.ofString "v/x") = .ok (Text.ofString "# T\n\n# \n\n") ∧
        ¬ Disk.Within (· ∈ d.way s.outputDir) [stagingAt d s id, bundleAt d s id] d d' := by
  intro s p id d
  have hresult : ((convertDocument s p).run d).result = .ok .converted := by decide +kernel
  have hbefore : fileSize (d.get? [['v'], ['x']]) = 4 := by decide +kernel
  have hafter : fileSize (((convertDocument s p).run d).disk.get? [['v'], ['x']]) = 9 := by
    decide +kernel
  refine ⟨rfl, rfl, _, Script.ends_of_result hresult, by decide +kernel, by decide +kernel, ?_⟩
  intro hwithin
  rcases hwithin.get? [['v'], ['x']] (by decide +kernel) with hsame | ⟨-, hnone, -⟩
  · rw [hsame, hbefore] at hafter
    cases hafter
  · rw [hnone] at hbefore
    cases hbefore

end GuideBundles.Conversion
