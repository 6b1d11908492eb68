/-
# `Proofs.Conversion.Steps` — what a conversion asks a disk

All requests of a conversion but the last one look at something or change the staging directory; the
last one gives it the name of the bundle.  So at any time of a conversion, granted or refused, the
rest of the disk is as it was, except that the output directory may have been made.
-/
import GuideBundles.Proofs.Conversion.Converted
import GuideBundles.Proofs.Disk.Confined

namespace GuideBundles

/-- Whether a request only looks at what lies at a path. -/
def Request.Looks : Request → Prop
  | .present _ | .isFile _ | .isDirectory _ | .readText _ => True
  | .list _ | .createDirs _ | .removeTree _ | .copyFile _ _ | .writeText _ _ | .rename _ _ => False

theorem Disk.answer_of_looks {d : Disk} {r : Request} (h : r.Looks) : (d.answer r).2 = d := by
  cases r with
  | present p => rfl
  | isFile p => rfl
  | isDirectory p => rfl
  | readText p => rfl
  | _ => exact absurd h id

/-- A run leaves where relative paths start. -/
theorem Script.Ends.here {α : Type} {t : Script α} {d d' : Disk} {r : Except Failure α}
    (h : t.Ends d r d') : d'.here = d.here := by
  obtain ⟨-, rfl⟩ := h
  induction t generalizing d with
  | done a => rfl
  | fail f => rfl
  | ask r next ih => exact (ih _).trans (Disk.here_answer d r)
  | tell e next ih => exact ih

namespace Conversion

variable {s : Settings} {p : Path} {id : ExampleId} {d d' : Disk}

/-- Where a staging directory lies. -/
def stagingAt (d : Disk) (s : Settings) (id : ExampleId) : Location :=
  d.locate s.outputDir ++ [stagingName id]

/-- Where a bundle lies, by its name in the output directory. -/
def bundleAt (d : Disk) (s : Settings) (id : ExampleId) : Location :=
  d.locate s.outputDir ++ [id.text]

/-- When the staging directory got its final name, the bundle has all that it held, and nothing is
left of it. -/
theorem moved_of_rename (hid₀ : id.text ≠ []) (hid : '/' ∉ id.text)
    (hdir : d.get? (stagingAt d s id) = some .directory)
    (hrename : d.rename (stagingDir s id) (bundleDir s id) = .ok d') :
    (bundleDir s id).flaw? = none ∧ Path.stepOf id.text = .name id.text ∧ d'.here = d.here ∧
      ∀ rest, d'.get? (bundleAt d s id ++ rest) = d.get? (stagingAt d s id ++ rest) ∧
        d'.get? (stagingAt d s id ++ rest) = none := by
  obtain ⟨hflaw, hstep, hhere, hmoved⟩ := Disk.rename_beside (stepOf_stagingName id)
    (stagingName_ne_nil id) (slash_not_mem_stagingName hid) hid₀ hid (stagingName_ne_text id) hdir
    hrename
  refine ⟨hflaw, hstep, hhere, ?_⟩
  intro rest
  rw [bundleAt, stagingAt, ← List.append_cons, ← List.append_cons]
  exact hmoved rest

theorem convertDocument_eq (hp : ExampleId.ofPath p = .ok id) :
    convertDocument s p = (do
      if ← Script.request (.present (bundleDir s id)) then pure .skipped
      else convertNew s p id) := by
  rw [convertDocument, hp]
  rfl

/-! ## The requests -/

/-- The requests that fill a directory: those that only look, copies under base names, and files
with names of one kind. -/
inductive Fills (dir : Path) (named : Text → Prop) : Request → Prop
  | look {r : Request} (h : r.Looks) : Fills dir named r
  | copy (source : Path) {n : Text} (hn : n ≠ []) (hs : '/' ∉ n) :
      Fills dir named (.copyFile source (dir.join n))
  | write {n : Text} (t : Text) (hn : named n) : Fills dir named (.writeText (dir.join n) t)

/-- The requests of a conversion that do not give the staging directory its final name, when the
generated files have names of one kind. -/
inductive Assembles (s : Settings) (id : ExampleId) (named : Text → Prop) : Request → Prop
  | create : Assembles s id named (.createDirs (stagingDir s id))
  | remove : Assembles s id named (.removeTree (stagingDir s id))
  | fill {r : Request} (h : Fills (stagingDir s id) named r) : Assembles s id named r

theorem Assembles.imp {named named' : Text → Prop} (hnamed : ∀ n, named n → named' n) {r : Request}
    (h : Assembles s id named r) : Assembles s id named' r := by
  cases h with
  | create => exact .create
  | remove => exact .remove
  | fill h =>
    cases h with
    | look hlook => exact .fill (.look hlook)
    | copy source hn hs => exact .fill (.copy source hn hs)
    | write t hn => exact .fill (.write t (hnamed _ hn))

/-- The same requests, with generated files whose names are free of slashes. -/
def Stages (s : Settings) (id : ExampleId) : Request → Prop :=
  Assembles s id fun n => n ≠ [] ∧ '/' ∉ n

theorem name_of_mem_artifactNames (hid : '/' ∉ id.text) (hsnippet : '/' ∉ s.emit.snippetExtension)
    (hcommand : '/' ∉ s.emit.commandExtension) {n : Text} (hn : n ∈ (artifactNames s id).toList) :
    n ≠ [] ∧ '/' ∉ n :=
  ArtifactNames.name_of_mem_toList (ExampleId.slash_not_mem_exampleName hid) hsnippet hcommand hn

/-- The requests of a conversion. -/
def Converts (s : Settings) (id : ExampleId) (r : Request) : Prop :=
  Stages s id r ∨ r = .rename (stagingDir s id) (bundleDir s id)

section Only

variable {P : Request → Prop} {Q : Event → Prop} {stagingPath : Path} {named : Text → Prop}

theorem only_settleImage (docDir : Path) (taken : ArtifactNames) (image : Reference) :
    (Bundle.settleImage docDir stagingPath taken image).Only (Fills stagingPath named) Q := by
  unfold Bundle.settleImage
  split
  · exact Script.only_pure image
  · split
    · exact Script.only_pure image
    · next name hname =>
      obtain ⟨hn, -, -, hs⟩ := Path.of_fileName? hname
      refine (Script.only_request (.look trivial)).bind fun found => ?_
      split
      · split
        · exact Script.only_pure image
        · exact (Script.only_copyFile (.copy _ hn hs)).bind fun _ => Script.only_pure _
      · exact Script.only_pure image

theorem only_settleImages (docDir : Path) (taken : ArtifactNames) (images : List Reference) :
    (Bundle.settleImages docDir stagingPath taken images).Only (Fills stagingPath named) Q := by
  induction images with
  | nil => exact Script.only_pure []
  | cons image rest ih =>
    exact (only_settleImage docDir taken image).bind fun _ => ih.bind fun _ => Script.only_pure _

theorem only_writeAll {artifacts : List Artifact} (hnames : ∀ a ∈ artifacts, named a.name) :
    (Artifact.writeAll stagingPath artifacts).Only (Fills stagingPath named) Q := by
  induction artifacts with
  | nil => exact Script.only_pure []
  | cons a rest ih =>
    refine (Script.only_writeText (.write a.content (hnames a List.mem_cons_self))).bind fun _ => ?_
    exact (ih fun b hb => hnames b (List.mem_cons_of_mem _ hb)).bind fun _ => Script.only_pure _

/-- A bundle is written by requests that fill its directory. -/
theorem only_fills_writeBundle (source : Source) (dir : Path) :
    (writeBundle s source id dir).Only (Fills dir (· ∈ (artifactNames s id).toList)) Q := by
  rw [writeBundle, Bundle.assemble, bind_assoc]
  refine (only_settleImages _ _ _).bind fun settled => ?_
  rw [pure_bind]
  refine (only_writeAll ?_).bind fun _ => Script.only_pure ()
  intro a ha
  have hmem := List.mem_map_of_mem (f := Artifact.name) ha
  rw [map_name_ofBundle] at hmem
  exact hmem

theorem only_writeBundle (source : Source) (hid : '/' ∉ id.text)
    (hsnippet : '/' ∉ s.emit.snippetExtension) (hcommand : '/' ∉ s.emit.commandExtension) :
    (writeBundle s source id (stagingDir s id)).Only (Stages s id) Q :=
  (only_fills_writeBundle source _).imp
    (fun _ h => (Assembles.fill h).imp fun _ hn =>
      name_of_mem_artifactNames hid hsnippet hcommand hn) fun _ h => h

theorem only_prepare : (prepare (stagingDir s id)).Only (Assembles s id named) Q := by
  have hcreate : (Script.createDirs (stagingDir s id)).Only (Assembles s id named) Q :=
    Script.only_createDirs .create
  refine (Script.only_request (.fill (.look trivial))).bind fun found => ?_
  split
  · exact (Script.only_removeTree .remove).bind fun _ => hcreate
  · exact hcreate

/-- The first half of a conversion. -/
theorem only_assembles_stage (p : Path) :
    (stage s p id).Only (Assembles s id (· ∈ (artifactNames s id).toList)) Q := by
  refine (Script.Only.bind (Script.only_readText (.fill (.look trivial))) fun _ =>
    Script.only_pure _).bind fun source => ?_
  refine only_prepare.bind fun _ => ?_
  exact ((only_fills_writeBundle source _).imp (fun _ h => .fill h) fun _ h => h).attempt

theorem only_stage (p : Path) (hid : '/' ∉ id.text) (hsnippet : '/' ∉ s.emit.snippetExtension)
    (hcommand : '/' ∉ s.emit.commandExtension) : (stage s p id).Only (Stages s id) Q :=
  (only_assembles_stage p).imp
    (fun _ h => h.imp fun _ hn => name_of_mem_artifactNames hid hsnippet hcommand hn) fun _ h => h

/-- The second half of a conversion. -/
theorem only_finish (hremove : P (.removeTree (stagingDir s id)))
    (hrename : P (.rename (stagingDir s id) (bundleDir s id))) (written : Except Failure Unit) :
    (finish s id written).Only P Q := by
  cases written with
  | ok u => exact (Script.only_rename hrename).bind fun _ => Script.only_pure _
  | error f => exact (Script.only_request hremove).bind fun _ => Script.only_fail f

theorem only_convertNew_of_stage (hstage : (stage s p id).Only P Q)
    (hremove : P (.removeTree (stagingDir s id)))
    (hrename : P (.rename (stagingDir s id) (bundleDir s id))) :
    (convertNew s p id).Only P Q := by
  rw [convertNew_eq]
  exact hstage.bind (only_finish hremove hrename)

theorem only_convertNew (p : Path) (hid : '/' ∉ id.text) (hsnippet : '/' ∉ s.emit.snippetExtension)
    (hcommand : '/' ∉ s.emit.commandExtension) : (convertNew s p id).Only (Converts s id) Q :=
  only_convertNew_of_stage
    ((only_stage p hid hsnippet hcommand).imp (fun _ h => .inl h) fun _ h => h)
    (.inl .remove) (.inr rfl)

theorem only_convertDocument_of_new (hp : ExampleId.ofPath p = .ok id)
    (hlook : P (.present (bundleDir s id))) (hnew : (convertNew s p id).Only P Q) :
    (convertDocument s p).Only P Q := by
  rw [convertDocument_eq hp]
  refine (Script.only_request hlook).bind fun found => ?_
  split
  · exact Script.only_pure _
  · exact hnew

/-- A whole conversion. -/
theorem only_convertDocument (hp : ExampleId.ofPath p = .ok id)
    (hsnippet : '/' ∉ s.emit.snippetExtension) (hcommand : '/' ∉ s.emit.commandExtension) :
    (convertDocument s p).Only (Converts s id) Q :=
  only_convertDocument_of_new hp (.inl (.fill (.look trivial)))
    (only_convertNew p (ExampleId.name_of_ofPath hp).2 hsnippet hcommand)

/-- A request of the conversion of one of some documents. -/
def ConvertsOne (s : Settings) (ps : List Path) (r : Request) : Prop :=
  ∃ p ∈ ps, ∃ id, ExampleId.ofPath p = .ok id ∧ Converts s id r

theorem only_convertOne {ps : List Path} (hp : p ∈ ps)
    (hsnippet : '/' ∉ s.emit.snippetExtension) (hcommand : '/' ∉ s.emit.commandExtension) :
    (convertDocument s p).Only (ConvertsOne s ps) Q := by
  cases hid : ExampleId.ofPath p with
  | error f =>
    rw [convertDocument, hid]
    exact Script.only_fail f
  | ok id =>
    refine (only_convertDocument hid hsnippet hcommand).imp ?_ fun _ he => he
    exact fun r hr => ⟨p, hp, id, hid, hr⟩

/-- Documents that are converted one by one are told of by numbers past the first ones. -/
theorem only_convertAll {P : Request → Prop} (ps : List Path) (current total : Nat)
    (h : ∀ p ∈ ps, (convertDocument s p).Only P fun _ => False) :
    (convertAll s current total ps).Only P fun e =>
      ∃ name outcome i, e = .document name outcome i total ∧ current < i := by
  induction ps generalizing current with
  | nil => exact Script.only_pure []
  | cons p rest ih =>
    have hrest := ih (current + 1) fun q hq => h q (List.mem_cons_of_mem _ hq)
    refine ((h p List.mem_cons_self).imp (fun _ hr => hr) fun _ => False.elim).bind
      fun outcome => ?_
    refine (Script.only_say ⟨_, _, _, rfl, Nat.lt_succ_self current⟩).bind fun _ => ?_
    refine (hrest.imp (fun _ hr => hr) ?_).bind fun _ => Script.only_pure _
    rintro e ⟨name, outcome, i, rfl, hi⟩
    exact ⟨name, outcome, i, rfl, Nat.lt_of_succ_lt hi⟩

end Only

/-! ## What they change -/

/-- What generated files that stay in their directory change lies in the staging directory. -/
theorem within_of_assembles {named : Text → Prop} (hid : '/' ∉ id.text)
    (hnamed : ∀ n, named n → Path.staysIn n = true) {r : Request} (h : Assembles s id named r)
    (d : Disk) : Disk.Within (· ∈ d.way s.outputDir) [stagingAt d s id] d (d.answer r).2 := by
  have hdir : d.locate (stagingDir s id) = stagingAt d s id := locate_stagingDir d s hid
  have hinside {t : Text} (ht : Path.staysIn t = true) (n : Text)
      (hlast : ((stagingDir s id).join t).steps.getLast? = some (.name n)) :
      ∃ l ∈ [stagingAt d s id], Disk.isUnder l (d.locate ((stagingDir s id).join t)) = true := by
    refine ⟨_, List.mem_singleton_self _, ?_⟩
    rw [← hdir]
    exact Disk.isUnder_locate_join ht n hlast
  cases h with
  | create =>
    refine Disk.within_answer_createDirs ?_
    obtain ⟨-, h₁, h₂⟩ := Path.stepOf_eq_name_iff.1 (stepOf_stagingName id)
    refine (Disk.forall_mem_way_join d s.outputDir (stagingName_ne_nil id)
      (slash_not_mem_stagingName hid) h₁ h₂).2 ⟨fun k hk => .inl hk, ?_⟩
    exact .inr ⟨_, List.mem_singleton_self _, Disk.isUnder_self _⟩
  | remove => exact Disk.within_answer_removeTree (by simp [hdir]) (by simp [hdir, stagingAt])
  | fill h =>
    cases h with
    | look hlook =>
      rw [Disk.answer_of_looks hlook]
      exact Disk.Within.refl _ _ d
    | copy source hn hs =>
      exact Disk.within_answer_copyFile source (hinside (Path.staysIn_name hn hs))
    | write t hn => exact Disk.within_answer_writeText t (hinside (hnamed _ hn))

theorem within_answer_renameStaging (hid₀ : id.text ≠ []) (hid : '/' ∉ id.text) (d : Disk)
    {made : Location → Prop} :
    Disk.Within made [stagingAt d s id, bundleAt d s id] d
      (d.answer (.rename (stagingDir s id) (bundleDir s id))).2 :=
  Disk.within_answer_rename hid₀ hid (by simp [stagingAt, locate_stagingDir d s hid])
    (by simp [bundleAt])

theorem confined_of_stages (hid : '/' ∉ id.text) (hup : .up ∉ s.outputDir.steps) {r : Request}
    (h : Stages s id r) (d : Disk) :
    Disk.Confined (d.locate s.outputDir) [stagingAt d s id] d (d.answer r).2 :=
  (within_of_assembles hid (fun _ hn => Path.staysIn_name hn.1 hn.2) h d).confined hup

theorem confined_of_converts (hid₀ : id.text ≠ []) (hid : '/' ∉ id.text)
    (hup : .up ∉ s.outputDir.steps) {r : Request} (h : Converts s id r) (d : Disk) :
    Disk.Confined (d.locate s.outputDir) [stagingAt d s id, bundleAt d s id] d
      (d.answer r).2 := by
  rcases h with h | rfl
  · exact (confined_of_stages hid hup h d).mono (by simp)
  · exact (within_answer_renameStaging hid₀ hid d).confined hup

/-- What has another name in the output directory is as it was. -/
theorem get?_eq_of_confined {n : Text}
    (h : Disk.Confined (d.locate s.outputDir) [stagingAt d s id, bundleAt d s id] d d')
    (hn : n ≠ id.text) (hns : n ≠ stagingName id) (rest : Location) :
    d'.get? (d.locate s.outputDir ++ n :: rest) = d.get? (d.locate s.outputDir ++ n :: rest) := by
  refine h.get?_eq ?_ (Disk.not_isUnder_above _ n rest)
  intro l hl
  rcases List.mem_cons.1 hl with rfl | hl
  · exact Disk.not_isUnder_sibling (Ne.symm hns) _ rest
  · rw [List.mem_singleton.1 hl]
    exact Disk.not_isUnder_sibling (Ne.symm hn) _ rest

variable {α : Type} {Q : Event → Prop}

theorem confined_of_only_stages (hid : '/' ∉ id.text) (hup : .up ∉ s.outputDir.steps)
    {t : Script α} (ht : t.Only (Stages s id) Q) (d : Disk) :
    Disk.Confined (d.locate s.outputDir) [stagingAt d s id] d (t.run d).disk ∧
      ∀ x ∈ t.trace d, Disk.Confined (d.locate s.outputDir) [stagingAt d s id] d x.2 := by
  refine ht.bounded (R := fun a b => Disk.Confined (a.locate s.outputDir) [stagingAt a s id] a b)
    (fun _ => Disk.Confined.refl _ _ _) ?_ (fun _ hr d => confined_of_stages hid hup hr d) d
  intro a b c hab hbc
  rw [stagingAt, Disk.locate_congr hab.here] at hbc
  exact hab.trans hbc

/-- At any time of a conversion, only its staging directory and its bundle differ from what they
were, and the output directory may have been made. -/
theorem confined_of_only_converts (hid₀ : id.text ≠ []) (hid : '/' ∉ id.text)
    (hup : .up ∉ s.outputDir.steps) {t : Script α} (ht : t.Only (Converts s id) Q) (d : Disk) :
    Disk.Confined (d.locate s.outputDir) [stagingAt d s id, bundleAt d s id] d (t.run d).disk ∧
      ∀ x ∈ t.trace d,
        Disk.Confined (d.locate s.outputDir) [stagingAt d s id, bundleAt d s id] d x.2 := by
  refine ht.bounded
    (R := fun a b =>
      Disk.Confined (a.locate s.outputDir) [stagingAt a s id, bundleAt a s id] a b)
    (fun _ => Disk.Confined.refl _ _ _) ?_
    (fun _ hr d => confined_of_converts hid₀ hid hup hr d) d
  intro a b c hab hbc
  rw [stagingAt, bundleAt, Disk.locate_congr hab.here] at hbc
  exact hab.trans hbc

/-- A request of a new conversion comes before the last one, and only the staging directory differs;
or it is the one that gives the final name to what was put together. -/
theorem mem_trace_convertNew (hid : '/' ∉ id.text) (hsnippet : '/' ∉ s.emit.snippetExtension)
    (hcommand : '/' ∉ s.emit.commandExtension) (hup : .up ∉ s.outputDir.steps)
    {x : Request × Disk} (hx : x ∈ (convertNew s p id).trace d) :
    Disk.Confined (d.locate s.outputDir) [stagingAt d s id] d x.2 ∨
      ∃ m, (stage s p id).Ends d (.ok (.ok ())) m ∧
        Disk.Confined (d.locate s.outputDir) [stagingAt d s id] d m ∧
        x.1 = .rename (stagingDir s id) (bundleDir s id) ∧ x.2 = (m.answer x.1).2 := by
  have hstage := only_stage (Q := fun _ => False) p hid hsnippet hcommand
  obtain ⟨hlast, hbefore⟩ := confined_of_only_stages hid hup hstage d
  rw [convertNew_eq] at hx
  rcases Script.mem_trace_bind hx with hx | ⟨written, m, hends, hx⟩
  · exact .inl (hbefore x hx)
  · rw [hends.2] at hlast
    cases written with
    | ok u =>
      rcases Script.mem_trace_bind hx with hx | ⟨_, _, _, hx⟩
      · rw [Script.trace_rename, List.mem_singleton] at hx
        exact .inr ⟨m, hends, hlast, by rw [hx], by rw [hx]⟩
      · cases hx
    | error f =>
      obtain rfl := List.mem_singleton.1 hx
      have hremove := confined_of_stages hid hup Assembles.remove m
      rw [stagingAt, Disk.locate_congr hlast.here] at hremove
      exact .inl (hlast.trans hremove)

end Conversion
end GuideBundles
