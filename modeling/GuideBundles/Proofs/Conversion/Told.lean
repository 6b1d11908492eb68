/-
# `Proofs.Conversion.Told` — a batch tells what it did

A batch tells of its phases, then of each document that went through, and at last gives its report,
if no document failed.  What it tells is read off the turns of the documents: each turn has the disk
that the one before it left, a disk without links as all of them.
-/
import GuideBundles.Proofs.Conversion.Batch
import GuideBundles.Proofs.Disk.Confined

namespace GuideBundles

/-- A script that tells nothing ends with its result and its disk alone. -/
theorem Script.run_eq_of_silent {α : Type} {P : Request → Prop} {t : Script α} {d d' : Disk}
    {r : Except Failure α} (ht : t.Only P fun _ => False) (h : t.Ends d r d') :
    t.run d = ⟨r, d', []⟩ := by
  have hevents : (t.run d).events = [] :=
    List.eq_nil_iff_forall_not_mem.2 fun _ he => ht.of_mem_events he
  obtain ⟨rfl, rfl⟩ := h
  rw [← hevents]

/-- Whether an event tells of a document with an outcome. -/
def Event.tells (o : Outcome) : Event → Bool
  | .document _ o' _ _ => o' == o
  | _ => false

namespace Conversion

variable {s : Settings} {dir p : Path} {d m d' : Disk} {f : Failure} {o : Outcome}

/-! ## Turns -/

/-- The turn of a document that went through. -/
structure Turn where
  path : Path
  id : ExampleId
  outcome : Outcome

/-- Turns that come one after the other, each on the disk that the one before it left. -/
inductive Turns (s : Settings) : Disk → List Turn → Disk → Prop
  | nil (d : Disk) : Turns s d [] d
  | cons {d m d' : Disk} {t : Turn} {rest : List Turn} (hid : ExampleId.ofPath t.path = .ok t.id)
      (hturn : (convertDocument s t.path).Ends d (.ok t.outcome) m) (hrest : Turns s m rest d') :
      Turns s d (t :: rest) d'

/-- What is told of turns that come after some others: the identifier, the outcome, the number of
documents that are done by then, and the number of all documents. -/
def told (before total : Nat) (turns : List Turn) : List Event :=
  turns.mapIdx fun i t => .document t.id.text t.outcome (before + i + 1) total

theorem told_cons (before total : Nat) (t : Turn) (turns : List Turn) :
    told before total (t :: turns) =
      .document t.id.text t.outcome (before + 1) total :: told (before + 1) total turns := by
  have hshift (i : Nat) : before + (i + 1) + 1 = before + 1 + i + 1 := by omega
  simp only [told, List.mapIdx_cons, hshift, Nat.add_zero]

theorem only_convertDocument_silent (s : Settings) (p : Path) :
    (convertDocument s p).Only (fun _ => True) fun _ => False := by
  cases hid : ExampleId.ofPath p with
  | error f =>
    rw [convertDocument, hid]
    exact Script.only_fail f
  | ok id =>
    refine only_convertDocument_of_new hid trivial (only_convertNew_of_stage ?_ trivial trivial)
    exact (only_assembles_stage p).imp (fun _ _ => trivial) fun _ h => h

/-- A document that goes through is told of before the others take their turns. -/
theorem run_convertAll_cons (rest : List Path) (before total : Nat)
    (h : (convertDocument s p).Ends d (.ok o) m) : (convertAll s before total (p :: rest)).run d =
      { result := ((convertAll s (before + 1) total rest).run m).result.map (o :: ·)
        disk := ((convertAll s (before + 1) total rest).run m).disk
        events := .document (p.stem?.getD []) o (before + 1) total ::
          ((convertAll s (before + 1) total rest).run m).events } := by
  have hfirst := Script.run_eq_of_silent (only_convertDocument_silent s p) h
  have hsay (e : Event) : (Script.say e).run m = ⟨.ok (), m, [e]⟩ := rfl
  simp only [convertAll, Script.run_bind, hfirst, Script.Ending.andThen, hsay]
  cases hrest : ((convertAll s (before + 1) total rest).run m).result with
  | error f => simp [Except.map]
  | ok os => simp [Except.map]

/-- After a document that fails, no other one takes its turn, and nothing is told. -/
theorem run_convertAll_cons_error (rest : List Path) (before total : Nat)
    (h : (convertDocument s p).Ends d (.error f) m) :
    (convertAll s before total (p :: rest)).run d = ⟨.error f, m, []⟩ := by
  have hfirst := Script.run_eq_of_silent (only_convertDocument_silent s p) h
  simp only [convertAll, Script.run_bind, hfirst, Script.Ending.andThen]

/-- Documents take their turns until all are done or one fails, and what is told is what is told of
these turns. -/
theorem run_convertAll (s : Settings) (before total : Nat) (ps : List Path) (d : Disk) :
    (∃ turns d', turns.map Turn.path = ps ∧ Turns s d turns d' ∧
      (convertAll s before total ps).run d =
        ⟨.ok (turns.map Turn.outcome), d', told before total turns⟩) ∨
    ∃ turns p rest m f d', turns.map Turn.path ++ p :: rest = ps ∧ Turns s d turns m ∧
      (convertDocument s p).Ends m (.error f) d' ∧
      (convertAll s before total ps).run d = ⟨.error f, d', told before total turns⟩ := by
  induction ps generalizing before d with
  | nil => exact .inl ⟨[], d, rfl, .nil d, rfl⟩
  | cons p rest ih =>
    cases hresult : ((convertDocument s p).run d).result with
    | error f =>
      have hfails := Script.ends_of_result hresult
      exact .inr ⟨[], p, rest, d, f, _, rfl, .nil d, hfails,
        run_convertAll_cons_error rest before total hfails⟩
    | ok o =>
      have hturn := Script.ends_of_result hresult
      obtain ⟨id, hid, -⟩ := ends_convertDocument hturn
      have hname : p.stem?.getD [] = id.text := by
        rw [ExampleId.stem?_of_ofPath hid, Option.getD_some]
      have hrun := run_convertAll_cons rest before total hturn
      rw [hname] at hrun
      rcases ih (before + 1) ((convertDocument s p).run d).disk with
        ⟨turns, d', rfl, hturns, hrest⟩ | ⟨turns, q, others, m, f, d', rfl, hturns, hfails, hrest⟩
      · refine .inl ⟨⟨p, id, o⟩ :: turns, d', rfl, .cons hid hturn hturns, ?_⟩
        rw [hrun, hrest, told_cons]
        rfl
      · refine .inr ⟨⟨p, id, o⟩ :: turns, q, others, m, f, d', rfl, .cons hid hturn hturns,
          hfails, ?_⟩
        rw [hrun, hrest, told_cons]
        rfl

/-! ## Before the first turn -/

theorem run_isDirectory {b : Bool} (h : d.isDirectory p = b) :
    (Script.request (.isDirectory p)).run d = ⟨.ok b, d, []⟩ := by
  rw [← h]
  rfl

theorem run_validate (h : s.validate = .ok ()) (d : Disk) :
    (Script.ofExcept s.validate).run d = ⟨.ok (), d, []⟩ := by
  rw [h]
  rfl

theorem run_say (e : Event) (d : Disk) : (Script.say e).run d = ⟨.ok (), d, [e]⟩ := rfl

theorem run_openBatch_of_unfit (hs : s.validate = .error f) :
    (openBatch s dir).run d = ⟨.error f, d, []⟩ := by
  rw [openBatch, hs]
  rfl

theorem run_openBatch_of_noInput (hs : s.validate = .ok ()) (hdir : d.isDirectory dir = false) :
    (openBatch s dir).run d = ⟨.error (.inputNotFound dir), d, []⟩ := by
  simp only [openBatch, Script.run_bind, run_validate hs, run_isDirectory hdir,
    Script.Ending.andThen]
  rfl

/-- Up to the output directory, only the first phase was told of. -/
theorem run_openBatch_of_noOutput (hs : s.validate = .ok ()) (hdir : d.isDirectory dir = true)
    (h : (Script.createDirs s.outputDir).Ends d (.error f) m) :
    (openBatch s dir).run d = ⟨.error f, m, [.phase .loadingSections]⟩ := by
  have hcreate := Script.run_eq_of_silent (Script.only_createDirs (P := fun _ => True) trivial) h
  simp only [openBatch, Script.run_bind, run_validate hs, run_isDirectory hdir, if_true, run_say,
    run_load, hcreate, Script.Ending.andThen]
  rfl

/-- When its settings are fit, its directory is there and the output directory could be made, a
batch tells of both phases and has the documents of its directory. -/
theorem run_openBatch (hs : s.validate = .ok ()) (hdir : d.isDirectory dir = true)
    (h : (Script.createDirs s.outputDir).Ends d (.ok ()) m) :
    (collect s dir).Ends m (.ok (documents m s dir)) m ∧ (openBatch s dir).run d =
      ⟨.ok ⟨sectionsAt d s.sectionsFile, documents m s dir⟩, m,
        [.phase .loadingSections, .phase .convertingDocuments]⟩ := by
  have hdir' := Disk.isDirectory_makeDirs hdir s.outputDir.ancestors
  rw [(Script.ends_createDirs.1 h).2] at hdir'
  have hcollect : (collect s dir).Ends m (.ok (documents m s dir)) m :=
    ends_collect.2 ⟨Disk.isDirectory_iff.1 hdir', rfl, rfl⟩
  refine ⟨hcollect, ?_⟩
  have hcreate := Script.run_eq_of_silent (Script.only_createDirs (P := fun _ => True) trivial) h
  have hdocuments := Script.run_eq_of_silent (only_collect s dir) hcollect
  simp only [openBatch, Script.run_bind, run_validate hs, run_isDirectory hdir, if_true, run_say,
    run_load, hcreate, hdocuments, Script.Ending.andThen]
  rfl

/-! ## Courses -/

/-- The courses that a batch can take: what it ends with, the disk that it leaves, and all that it
tells. -/
inductive Course (s : Settings) (dir : Path) (d : Disk) : Script.Ending Report → Prop
  /-- The settings are not fit. -/
  | unfit {f : Failure} (hs : s.validate = .error f) : Course s dir d ⟨.error f, d, []⟩
  /-- There is no directory of documents. -/
  | noInput (hs : s.validate = .ok ()) (hdir : d.isDirectory dir = false) :
      Course s dir d ⟨.error (.inputNotFound dir), d, []⟩
  /-- The output directory cannot be made. -/
  | noOutput {f : Failure} {m : Disk} (hs : s.validate = .ok ()) (hdir : d.isDirectory dir = true)
      (hout : (Script.createDirs s.outputDir).Ends d (.error f) m) :
      Course s dir d ⟨.error f, m, [.phase .loadingSections]⟩
  /-- A document fails after the turns of all documents before it. -/
  | failed {ps rest : List Path} {turns : List Turn} {p : Path} {f : Failure} {d₀ m d' : Disk}
      (hs : s.validate = .ok ()) (hdir : d.isDirectory dir = true)
      (hout : (Script.createDirs s.outputDir).Ends d (.ok ()) d₀)
      (hps : (collect s dir).Ends d₀ (.ok ps) d₀) (hsplit : turns.map Turn.path ++ p :: rest = ps)
      (hturns : Turns s d₀ turns m) (hfails : (convertDocument s p).Ends m (.error f) d') :
      Course s dir d ⟨.error f, d', [.phase .loadingSections, .phase .convertingDocuments] ++
        told 0 ps.length turns⟩
  /-- All documents take their turns. -/
  | finished {ps : List Path} {turns : List Turn} {d₀ d' : Disk} {r : Report}
      (hs : s.validate = .ok ()) (hdir : d.isDirectory dir = true)
      (hout : (Script.createDirs s.outputDir).Ends d (.ok ()) d₀)
      (hps : (collect s dir).Ends d₀ (.ok ps) d₀) (hall : turns.map Turn.path = ps)
      (hturns : Turns s d₀ turns d')
      (hr : Opened.report ⟨sectionsAt d s.sectionsFile, ps⟩ (turns.map Turn.outcome) = r) :
      Course s dir d ⟨.ok r, d', [.phase .loadingSections, .phase .convertingDocuments] ++
        told 0 ps.length turns ++ [.done r]⟩

theorem course_convertDirectory (s : Settings) (dir : Path) (d : Disk) :
    Course s dir d ((convertDirectory s dir).run d) := by
  rw [convertDirectory_eq, Script.run_bind]
  cases hs : s.validate with
  | error f =>
    rw [run_openBatch_of_unfit hs]
    exact .unfit hs
  | ok u =>
    cases hdir : d.isDirectory dir with
    | false =>
      rw [run_openBatch_of_noInput hs hdir]
      exact .noInput hs hdir
    | true =>
      cases hmade : ((Script.createDirs s.outputDir).run d).result with
      | error f =>
        have hout := Script.ends_of_result hmade
        rw [run_openBatch_of_noOutput hs hdir hout]
        exact .noOutput hs hdir hout
      | ok u =>
        have hout := Script.ends_of_result hmade
        obtain ⟨hps, hopen⟩ := run_openBatch hs hdir hout
        rw [hopen]
        simp only [Script.Ending.andThen, Script.run_bind]
        have hclose (opened : Opened) (os : List Outcome) (a : Disk) : (closeBatch opened os).run a
            = ⟨.ok (opened.report os), a, [.done (opened.report os)]⟩ := rfl
        rcases run_convertAll s 0 _ _ _ with
          ⟨turns, d', hall, hturns, hrun⟩ | ⟨turns, p, rest, m, f, d', hsplit, hturns, hfails, hrun⟩
        · rw [hrun]
          simp only [hclose, ← List.append_assoc]
          exact .finished hs hdir hout hps hall hturns rfl
        · rw [hrun]
          exact .failed hs hdir hout hps hsplit hturns hfails

/-! ## What is read off a course -/

theorem mem_told {before total : Nat} {turns : List Turn} {e : Event}
    (h : e ∈ told before total turns) : ∃ name outcome i, e = .document name outcome i total := by
  obtain ⟨i, hi, rfl⟩ := List.mem_mapIdx.1 h
  exact ⟨_, _, _, rfl⟩

/-- As many documents are told of with an outcome as turns had it. -/
theorem countP_told (o : Outcome) (before total : Nat) (turns : List Turn) :
    (told before total turns).countP (Event.tells o) = (turns.map Turn.outcome).count o := by
  induction turns generalizing before with
  | nil => rfl
  | cons t rest ih =>
    rw [told_cons, List.countP_cons, ih, List.map_cons, List.count_cons]
    rfl

theorem count_outcomes (os : List Outcome) :
    os.length = os.count .converted + os.count .skipped := by
  induction os with
  | nil => rfl
  | cons o rest ih => cases o <;> simp [ih] <;> omega

variable {e : Script.Ending Report} {r : Report}

/-- A report is told of when it is the result, and only then. -/
theorem Course.done_mem_iff (h : Course s dir d e) : .done r ∈ e.events ↔ e.result = .ok r := by
  have htold {before total : Nat} {turns : List Turn} : .done r ∉ told before total turns := by
    intro hmem
    obtain ⟨_, _, _, heq⟩ := mem_told hmem
    cases heq
  cases h with
  | unfit hs => simp
  | noInput hs hdir => simp
  | noOutput hs hdir hout => simp
  | failed hs hdir hout hps hsplit hturns hfails => simp [htold]
  | finished hs hdir hout hps hall hturns hr => simp [htold, eq_comm]

/-- The report is the last thing told. -/
theorem Course.last_of_ok (h : Course s dir d e) (hok : e.result = .ok r) :
    ∃ before, e.events = before ++ [.done r] ∧ ∀ r', .done r' ∉ before := by
  cases h with
  | finished hs hdir hout hps hall hturns hr =>
    obtain rfl := Except.ok.inj hok
    refine ⟨_, rfl, ?_⟩
    intro r' hmem
    rcases List.mem_append.1 hmem with hmem | hmem
    · simp at hmem
    · obtain ⟨_, _, _, heq⟩ := mem_told hmem
      cases heq
  | _ => cases hok

/-- The report counts what was told. -/
theorem Course.counts_of_ok (h : Course s dir d e) (hok : e.result = .ok r) :
    r.converted = e.events.countP (Event.tells .converted) ∧
      r.skipped = e.events.countP (Event.tells .skipped) ∧ r.seen = r.converted + r.skipped := by
  cases h with
  | @finished ps turns d₀ d' r' hs hdir hout hps hall hturns hr =>
    obtain rfl := Except.ok.inj hok
    have hcount (o : Outcome) : ([Event.phase .loadingSections, .phase .convertingDocuments] ++
        told 0 ps.length turns ++ [Event.done r']).countP (Event.tells o)
          = (turns.map Turn.outcome).count o := by
      rw [List.countP_append, List.countP_append, countP_told]
      exact Nat.zero_add _
    refine ⟨?_, ?_, ?_⟩
    · rw [hcount, ← hr]
      rfl
    · rw [hcount, ← hr]
      rfl
    · have hlength : ps.length = (turns.map Turn.outcome).length := by
        rw [← hall, List.length_map, List.length_map]
      rw [← hr]
      exact hlength.trans (count_outcomes _)
  | _ => cases hok

/-- Whatever the disk, the settings and the directory are, a batch takes one of the courses: it
tells nothing and changes nothing when its settings are not fit or its directory is not there;
otherwise it tells of its phases and then of each document that went through, in their order, until
one fails.  The report comes once, at the end, if and only if none fails, and its counts are those
of what was told. -/
theorem convertDirectory_tells (s : Settings) (dir : Path) (d : Disk) :
    let ending := (convertDirectory s dir).run d
    Course s dir d ending ∧ (∀ r, .done r ∈ ending.events ↔ ending.result = .ok r) ∧
      ∀ r, ending.result = .ok r →
        (∃ before, ending.events = before ++ [.done r] ∧ ∀ r', .done r' ∉ before) ∧
        r.converted = ending.events.countP (Event.tells .converted) ∧
        r.skipped = ending.events.countP (Event.tells .skipped) ∧
        r.seen = r.converted + r.skipped := by
  intro ending
  have hcourse : Course s dir d ending := course_convertDirectory s dir d
  refine ⟨hcourse, fun r => hcourse.done_mem_iff, ?_⟩
  intro r hok
  exact ⟨hcourse.last_of_ok hok, hcourse.counts_of_ok hok⟩

/-- Two documents are converted, and both are told of before the report. -/
theorem convertDirectory_tells_pair :
    let s : Settings := { outputDir := Path.ofString "o" }
    let ending := (convertDirectory s (Path.ofString "d")).run pair
    ∃ r before, ending.result = .ok r ∧ r.seen = 2 ∧ ending.events = before ++ [.done r] ∧
      ending.events.countP (Event.tells .converted) = 2 := by
  intro s ending
  obtain ⟨hresult, -⟩ := ends_convertDirectory_of_result [.converted, .converted]
    ends_openBatch_pair (by decide +kernel)
  obtain ⟨-, -, htold⟩ := convertDirectory_tells s (Path.ofString "d") pair
  obtain ⟨⟨before, hlast, -⟩, hconverted, -, -⟩ := htold _ hresult
  exact ⟨_, before, hresult, rfl, hlast, hconverted.symm⟩

end Conversion
end GuideBundles
