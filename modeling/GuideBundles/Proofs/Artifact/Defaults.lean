/-
# `Proofs.Artifact.Defaults` — the default commands in a shell file

A document without commands gets two of the settings, each behind one prompt.  Of a setting with
more lines the others stand as they are, and a setting that begins with a prompt gets a second one.
So the shell file shows the settings in the way in which it shows the commands of a document only
when each of them fits behind its prompt.
-/
import GuideBundles.Proofs.Artifact.Shell

namespace GuideBundles.Artifact

open Text (lines endsRow)

/-! ## A setting behind its prompt -/

/-- The lines of a setting behind a prompt. -/
def shown (t : Text) : List Text := lines (Text.ofString "$ " ++ t ++ ['\n'])

/-- Whether a text is a command or several ones, and is not cut at its end when a newline
follows. -/
def IsSetting (t : Text) : Prop := t ≠ [] ∧ t.getLast? ≠ some '\r'

instance (t : Text) : Decidable (IsSetting t) := inferInstanceAs (Decidable (_ ∧ _))

/-- Whether a setting fits behind a prompt: its first line has no prompt, and all others have
one. -/
def Fits (t : Text) : Prop :=
  ∃ first more, lines t = first :: more ∧ isPrompted first = false ∧
    ∀ line ∈ more, isPrompted line = true

variable {t u first : Text} {more : List Text}

theorem lines_ne_nil (h : t ≠ []) : lines t ≠ [] := fun hnil => by
  rw [lines, List.map_eq_nil_iff] at hnil
  exact h (by rw [← Text.flatten_fullLines t, hnil]; rfl)

/-- A prompt stands in front of the first line only. -/
theorem shown_eq (hr : t.getLast? ≠ some '\r') (h : lines t = first :: more) :
    shown t = (Text.ofString "$ " ++ first) :: more ++ if endsRow t then [[]] else [] := by
  have hlines : lines (t ++ ['\n']) = first :: (more ++ if endsRow t then [[]] else []) := by
    rw [Text.lines_append_newline hr, h, List.cons_append]
  exact Text.lines_cons (by decide) (by decide) (Text.lines_cons (by decide) (by decide) hlines)

theorem filter_isPrompted_shown (hr : t.getLast? ≠ some '\r') (h : lines t = first :: more) :
    (shown t).filter isPrompted = (Text.ofString "$ " ++ first) :: more.filter isPrompted := by
  have hend : (if endsRow t then [[]] else [] : List Text).filter isPrompted = [] := by
    split <;> rfl
  rw [shown_eq hr h, List.filter_append, hend, List.append_nil, List.filter_cons_of_pos rfl]

theorem prompted_eq_iff (line : Text) :
    prompted line = Text.ofString "$ " ++ line ↔ isPrompted line = false := by
  unfold prompted isPrompted
  split
  · next h =>
    have hlength : line ≠ Text.ofString "$ " ++ line := fun heq => by
      have hcount := congrArg List.length heq
      rw [List.length_append] at hcount
      exact absurd hcount (by simp [Text.ofString])
    simp [h, hlength]
  · next h => simp [h]

/-- A setting shows all of its lines as commands when it fits. -/
theorem filter_isPrompted_shown_eq_iff (ht : IsSetting t) :
    (shown t).filter isPrompted = (lines t).map prompted ↔ Fits t := by
  obtain ⟨first, more, hlines⟩ := List.exists_cons_of_ne_nil (lines_ne_nil ht.1)
  have hfits : Fits t ↔ isPrompted first = false ∧ ∀ line ∈ more, isPrompted line = true := by
    constructor
    · rintro ⟨_, _, hcons, h⟩
      obtain ⟨rfl, rfl⟩ := List.cons.inj (hlines.symm.trans hcons)
      exact h
    · exact fun h => ⟨first, more, hlines, h⟩
  have hmore : more.filter isPrompted = more.map prompted ↔
      ∀ line ∈ more, isPrompted line = true := by
    constructor
    · intro heq
      refine List.length_filter_eq_length_iff.1 ?_
      rw [heq, List.length_map]
    · intro hall
      have hsame : ∀ line ∈ more, prompted line = line := fun line hline =>
        if_pos (by simpa [isPrompted] using hall line hline)
      rw [List.filter_eq_self.2 hall, List.map_congr_left hsame, List.map_id']
  rw [filter_isPrompted_shown ht.2 hlines, hlines, List.map_cons, List.cons.injEq, hmore,
    eq_comm, prompted_eq_iff, hfits]

/-- No setting shows more commands than it has lines. -/
theorem length_filter_isPrompted_shown_le (ht : IsSetting t) :
    ((shown t).filter isPrompted).length ≤ ((lines t).map prompted).length := by
  obtain ⟨first, more, hlines⟩ := List.exists_cons_of_ne_nil (lines_ne_nil ht.1)
  rw [filter_isPrompted_shown ht.2 hlines, hlines, List.length_map]
  exact Nat.succ_le_succ (List.length_filter_le _ _)

theorem of_mem_shown (ht : IsSetting t) (hfits : Fits t) {line : Text} (h : line ∈ shown t) :
    isPrompted line = true ∨ line = [] := by
  obtain ⟨first, more, hlines, -, hmore⟩ := hfits
  rw [shown_eq ht.2 hlines] at h
  rcases List.mem_append.1 h with h | h
  · rcases List.mem_cons.1 h with rfl | h
    · exact .inl rfl
    · exact .inl (hmore _ h)
  · split at h
    · exact .inr (List.mem_singleton.1 h)
    · cases h

/-! ## The shell file of a document without commands -/

/-- The lines over the two settings. -/
def installRow : Text := mark ++ Text.ofString "First, install dependencies"

def runRow : Text := mark ++ Text.ofString "Run the snippet"

theorem lines_shellText {b : Bundle} (h : b.commands = []) (snippetFile : Text)
    (emit : EmitSettings) : lines (shellText b snippetFile emit) =
      headerRow :: installRow :: (shown emit.installCommand ++ [] :: runRow ::
        shown (Text.replace placeholder snippetFile emit.runCommand)) := by
  have hheader : Text.ofString "# Run the example\n" = headerRow ++ ['\n'] := by decide
  have hfirst : Text.ofString "# First, install dependencies\n$ "
      = installRow ++ '\n' :: Text.ofString "$ " := by decide
  have hnext : Text.ofString "\n\n# Run the snippet\n$ "
      = ['\n'] ++ ([] ++ '\n' :: (runRow ++ '\n' :: Text.ofString "$ ")) := by decide
  have htext : shellText b snippetFile emit = headerRow ++ '\n' :: (installRow ++ '\n' ::
      ((Text.ofString "$ " ++ emit.installCommand ++ ['\n']) ++ ([] ++ '\n' :: (runRow ++ '\n' ::
        (Text.ofString "$ " ++ Text.replace placeholder snippetFile emit.runCommand
          ++ ['\n']))))) := by
    unfold shellText defaultCommands
    rw [if_pos h, hheader, hfirst, hnext]
    simp only [List.append_assoc, List.cons_append, List.nil_append]
  have hinstall : '\n' ∉ installRow ∧ '\r' ∉ installRow := by decide
  have hrun : '\n' ∉ runRow ∧ '\r' ∉ runRow := by decide
  rw [htext, Text.lines_line (by decide) (by decide), Text.lines_line hinstall.1 hinstall.2,
    Text.lines_append (Text.endsRow_append_newline _),
    Text.lines_line List.not_mem_nil List.not_mem_nil, Text.lines_line hrun.1 hrun.2]
  rfl

/-- The shell file of a document without commands, whose settings for it are not empty and do
not end with a carriage return.  All of its lines are empty, comments or commands, and its
commands are the lines of the two settings, each with a prompt if it has none, exactly when both
settings fit behind the prompts that they are given. -/
theorem shellText_defaults {b : Bundle} (h : b.commands = []) {emit : EmitSettings}
    (hinstall : IsSetting emit.installCommand)
    (hrun : IsSetting (Text.replace placeholder
      (ArtifactNames.ofName b.id.exampleName emit).snippet emit.runCommand)) :
    let names := ArtifactNames.ofName b.id.exampleName emit
    let run := Text.replace placeholder names.snippet emit.runCommand
    let file := lines (shellText b names.snippet emit)
    (ofBundle b emit)[1]? = some ⟨names.shell, shellText b names.snippet emit⟩ ∧
      ((∀ line ∈ file, line = [] ∨ mark <+: line ∨ line.head? = some '$') ∧
        file.filter isPrompted = (lines emit.installCommand ++ lines run).map (fun line =>
          if line.head? = some '$' then line else Text.ofString "$ " ++ line) ↔
        Fits emit.installCommand ∧ Fits run) := by
  intro names run file
  have hfile : file = _ := lines_shellText h names.snippet emit
  have hcommands : file.filter isPrompted
      = (shown emit.installCommand).filter isPrompted ++ (shown run).filter isPrompted := by
    rw [hfile, List.filter_cons_of_neg (not_isPrompted_of_mark mark_prefix_headerRow),
      List.filter_cons_of_neg (by decide), List.filter_append, List.filter_cons_of_neg (by decide),
      List.filter_cons_of_neg (by decide)]
  refine ⟨rfl, ?_⟩
  change (_ ∧ _ = (lines emit.installCommand ++ lines run).map prompted) ↔ _
  rw [hcommands, List.map_append]
  constructor
  · rintro ⟨-, heq⟩
    -- neither setting shows more commands than it has lines, so each shows as many
    have hlength := congrArg List.length heq
    rw [List.length_append, List.length_append] at hlength
    have hle := length_filter_isPrompted_shown_le hinstall
    have hle' : ((shown run).filter isPrompted).length ≤ ((lines run).map prompted).length :=
      length_filter_isPrompted_shown_le hrun
    obtain ⟨hfirst, hsecond⟩ := List.append_inj heq (by omega)
    exact ⟨(filter_isPrompted_shown_eq_iff hinstall).1 hfirst,
      (filter_isPrompted_shown_eq_iff hrun).1 hsecond⟩
  · rintro ⟨hfirst, hsecond⟩
    refine ⟨fun line hline => ?_, ?_⟩
    · have hshown {t : Text} (ht : IsSetting t) (hfits : Fits t) (h : line ∈ shown t) :
          line = [] ∨ mark <+: line ∨ line.head? = some '$' :=
        (of_mem_shown ht hfits h).elim (fun hp => .inr (.inr (of_decide_eq_true hp))) .inl
      rw [hfile, List.mem_cons, List.mem_cons, List.mem_append, List.mem_cons,
        List.mem_cons] at hline
      rcases hline with rfl | rfl | hline | rfl | rfl | hline
      · exact .inr (.inl mark_prefix_headerRow)
      · exact .inr (.inl (List.prefix_append mark _))
      · exact hshown hinstall hfirst hline
      · exact .inl rfl
      · exact .inr (.inl (List.prefix_append mark _))
      · exact hshown hrun hsecond hline
    · rw [(filter_isPrompted_shown_eq_iff hinstall).2 hfirst,
        (filter_isPrompted_shown_eq_iff hrun).2 hsecond]

/-- The bundle of a document with a title only. -/
def titled (id : ExampleId) : Bundle :=
  Bundle.ofDocument id (Document.ofText {} (Text.ofString "# T\n")) []

theorem commands_titled (id : ExampleId) : (titled id).commands = [] := by
  have hnone : (Document.ofText {} (Text.ofString "# T\n")).commands = [] := by decide +kernel
  exact hnone

theorem shellText_defaults_prompts :
    let emit : EmitSettings := { installCommand := Text.ofString "pip a\n$ pip b\n" }
    let file := lines (shellText (titled ⟨['a'], rfl⟩) (Text.ofString "a.snippet") emit)
    (titled ⟨['a'], rfl⟩).commands = [] ∧
      file.filter isPrompted = [Text.ofString "$ pip a", Text.ofString "$ pip b",
        Text.ofString "$ python a.snippet"] := by
  intro emit file
  have hcommands := commands_titled ⟨['a'], rfl⟩
  have hinstall : IsSetting emit.installCommand := by decide +kernel
  have hrun : IsSetting (Text.replace placeholder
      (ArtifactNames.ofName (titled ⟨['a'], rfl⟩).id.exampleName emit).snippet
      emit.runCommand) := by
    decide +kernel
  have hfits : Fits emit.installCommand :=
    ⟨Text.ofString "pip a", [Text.ofString "$ pip b"], by decide +kernel, by decide, by decide⟩
  have hfits' : Fits (Text.replace placeholder
      (ArtifactNames.ofName (titled ⟨['a'], rfl⟩).id.exampleName emit).snippet emit.runCommand) :=
    ⟨Text.ofString "python a.snippet", [], by decide +kernel, by decide, nofun⟩
  obtain ⟨-, hfile⟩ := shellText_defaults hcommands hinstall hrun
  exact ⟨hcommands, (hfile.2 ⟨hfits, hfits'⟩).2.trans (by decide +kernel)⟩

/-- The second line of a setting stands bare, a prompt in a setting is doubled, and a line break in
an identifier breaks the run command. -/
theorem bare_line_of_setting : (∀ id, (titled id).commands = []) ∧
    (∃ line ∈ lines (shellText (titled ⟨['a'], rfl⟩) (Text.ofString "a.snippet")
        { installCommand := Text.ofString "pip a\npip b" }),
      line ≠ [] ∧ ¬ mark <+: line ∧ line.head? ≠ some '$') ∧
    (prompted (Text.ofString "$ pip a") = Text.ofString "$ pip a" ∧
      (lines (shellText (titled ⟨['a'], rfl⟩) (Text.ofString "a.snippet")
          { installCommand := Text.ofString "$ pip a" })).filter isPrompted
        = [Text.ofString "$ $ pip a", Text.ofString "$ python a.snippet"]) ∧
    ∃ line ∈ lines (shellText (titled ⟨Text.ofString "a\nb", rfl⟩)
        (Text.ofString "a\nb.snippet") {}),
      line ≠ [] ∧ ¬ mark <+: line ∧ line.head? ≠ some '$' := by
  refine ⟨commands_titled, ⟨Text.ofString "pip b", ?_⟩, ?_, ⟨Text.ofString "b.snippet", ?_⟩⟩ <;>
    decide +kernel

end GuideBundles.Artifact
