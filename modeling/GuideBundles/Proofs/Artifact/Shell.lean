/-
# `Proofs.Artifact.Shell` — the commands in a shell file

The rows of a shell file are the rows of its command blocks one after the other.  A row that begins
with a dollar sign is a command there: the rows of notes begin with a number sign, even when they
show commands of another fence, and the row behind a block is empty.
-/
import GuideBundles.Proofs.Artifact.Snippet
import GuideBundles.Proofs.Text.LineEnds

namespace GuideBundles.Artifact

open Text (rows lines trim)

/-- Whether a row begins with a dollar sign. -/
def isPrompted (row : Text) : Bool := row.head? = some '$'

/-! ## The rows of a command block -/

/-- The rows of the note to a block. -/
def noteRows (s : CodeBlock) : List Text :=
  if s.note = [] then [] else (rows s.note).map (mark ++ ·)

/-- The rows of a block of commands: the note, the commands and an empty row. -/
def commandRows (s : CodeBlock) : List Text :=
  noteRows s ++ (lines (trim s.code)).map prompted ++ [[]]

theorem mark_prefix_of_mem_noteRows {s : CodeBlock} {row : Text} (h : row ∈ noteRows s) :
    mark <+: row := by
  unfold noteRows at h
  split at h
  · cases h
  · obtain ⟨r, -, rfl⟩ := List.mem_map.1 h
    exact List.prefix_append mark r

theorem rows_note_append (s : CodeBlock) (t : Text) :
    rows (note s ++ t) = noteRows s ++ rows t := by
  unfold note noteRows
  split
  · rfl
  · rw [List.append_assoc, List.singleton_append, Text.rows_append_newline, rows_comment]

/-- Lines with a newline behind each are rows. -/
theorem rows_flatMap_append {f : Text → Text} {ls : List Text} (h : ∀ l ∈ ls, '\n' ∉ f l)
    (t : Text) : rows (ls.flatMap (fun l => f l ++ ['\n']) ++ t) = ls.map f ++ rows t := by
  induction ls with
  | nil => rfl
  | cons l rest ih =>
    rw [List.flatMap_cons, List.append_assoc, List.append_assoc, List.singleton_append,
      Text.rows_append_newline, Text.rows_of_not_mem (h l List.mem_cons_self),
      ih fun m hm => h m (List.mem_cons_of_mem _ hm)]
    rfl

theorem newline_not_mem_prompted {line : Text} (h : '\n' ∉ line) : '\n' ∉ prompted line := by
  have hprompt : '\n' ∉ Text.ofString "$ " := by decide
  unfold prompted
  split
  · exact h
  · rw [List.mem_append, not_or]
    exact ⟨hprompt, h⟩

theorem rows_commandText_append (s : CodeBlock) (t : Text) :
    rows (commandText s ++ t) = commandRows s ++ rows t := by
  have htext : commandText s ++ t = note s ++ ((lines (trim s.code)).flatMap
      (fun line => prompted line ++ ['\n']) ++ ([] ++ '\n' :: t)) := by
    simp only [commandText, List.append_assoc]
    rfl
  have hlines : ∀ line ∈ lines (trim s.code), '\n' ∉ prompted line :=
    fun _ hline => newline_not_mem_prompted (Text.newline_not_mem_of_mem_lines hline)
  rw [htext, rows_note_append, rows_flatMap_append hlines, Text.rows_append_newline, commandRows,
    List.append_assoc, List.append_assoc]
  rfl

/-- The row that a shell file begins with. -/
def headerRow : Text := mark ++ Text.ofString "Run the example"

theorem mark_prefix_headerRow : mark <+: headerRow := List.prefix_append mark _

/-- The rows of a shell file with commands: a header, the rows of the blocks, and an empty row
behind the last newline. -/
theorem rows_shellText {b : Bundle} (h : b.commands ≠ []) (snippetFile : Text)
    (emit : EmitSettings) : rows (shellText b snippetFile emit)
      = headerRow :: (b.commands.flatMap commandRows ++ [[]]) := by
  have hblocks (ss : List CodeBlock) :
      rows (ss.flatMap commandText) = ss.flatMap commandRows ++ [[]] := by
    induction ss with
    | nil => rfl
    | cons s ss ih =>
      rw [List.flatMap_cons, rows_commandText_append, ih, List.flatMap_cons, List.append_assoc]
  have hheader : Text.ofString "# Run the example\n" = headerRow ++ ['\n'] := by decide
  have hrow : '\n' ∉ headerRow := by decide
  unfold shellText
  rw [if_neg h, hheader, List.append_assoc, List.singleton_append,
    Text.rows_append_newline, Text.rows_of_not_mem hrow, hblocks, List.singleton_append]

/-! ## Commands and other rows -/

theorem isPrompted_prompted (line : Text) : isPrompted (prompted line) = true := by
  unfold prompted
  split
  · next h => simpa [isPrompted] using h
  · rfl

theorem not_isPrompted_of_mark {row : Text} (h : mark <+: row) : ¬ isPrompted row = true := by
  obtain ⟨r, rfl⟩ := h
  simp [isPrompted, mark]

/-- The commands among the rows of a block. -/
theorem filter_isPrompted_commandRows (s : CodeBlock) :
    (commandRows s).filter isPrompted = (lines (trim s.code)).map prompted := by
  have hnote : (noteRows s).filter isPrompted = [] :=
    List.filter_eq_nil_iff.2 fun _ hrow =>
      not_isPrompted_of_mark (mark_prefix_of_mem_noteRows hrow)
  have hcode : ((lines (trim s.code)).map prompted).filter isPrompted
      = (lines (trim s.code)).map prompted := by
    rw [List.filter_eq_self]
    intro row hrow
    obtain ⟨line, -, rfl⟩ := List.mem_map.1 hrow
    exact isPrompted_prompted line
  rw [commandRows, List.filter_append, List.filter_append, hnote, hcode]
  exact List.append_nil _

/-- A row of a block is a command, or empty, or marked. -/
theorem isPrompted_or_of_mem_commandRows {s : CodeBlock} {row : Text} (h : row ∈ commandRows s) :
    isPrompted row = true ∨ row = [] ∨ mark <+: row := by
  unfold commandRows at h
  rcases List.mem_append.1 h with h | h
  · rcases List.mem_append.1 h with h | h
    · exact .inr (.inr (mark_prefix_of_mem_noteRows h))
    · obtain ⟨line, -, rfl⟩ := List.mem_map.1 h
      exact .inl (isPrompted_prompted line)
  · exact .inr (.inl (List.mem_singleton.1 h))

/-- Of a document with commands, the rows of the shell file that begin with a dollar sign are, in
order and each as often as it is there, the lines of the trimmed command blocks, with a dollar sign
and a space put in front where there is no dollar sign yet; and every other row is empty or a
comment. -/
theorem shellText_read {tags : FenceTags} {t : Text} (h : (Document.ofText tags t).commands ≠ [])
    (id : ExampleId) (images : List Reference) (snippetFile : Text) (emit : EmitSettings) :
    let d := Document.ofText tags t
    let file := rows (shellText (Bundle.ofDocument id d images) snippetFile emit)
    (file.filter isPrompted = d.commands.flatMap fun s => (lines (trim s.code)).map fun line =>
      if line.head? = some '$' then line else Text.ofString "$ " ++ line) ∧
      ∀ row ∈ file, ¬ isPrompted row = true → row = [] ∨ mark <+: row := by
  intro d file
  have hfile : file = headerRow :: (d.commands.flatMap commandRows ++ [[]]) :=
    rows_shellText (b := Bundle.ofDocument id d images) h snippetFile emit
  constructor
  · rw [hfile, List.filter_cons_of_neg (not_isPrompted_of_mark mark_prefix_headerRow),
      List.filter_append, List.filter_flatMap,
      List.flatMap_congr fun s _ => filter_isPrompted_commandRows s]
    exact List.append_nil _
  · intro row hrow hno
    rw [hfile] at hrow
    rcases List.mem_cons.1 hrow with rfl | hrow
    · exact .inr mark_prefix_headerRow
    · rcases List.mem_append.1 hrow with hrow | hrow
      · obtain ⟨s, -, hs⟩ := List.mem_flatMap.1 hrow
        exact (isPrompted_or_of_mem_commandRows hs).resolve_left hno
      · exact .inl (List.mem_singleton.1 hrow)

/-- A note that shows a command of another fence, and code with a prompt, a blank line and a
carriage return. -/
theorem shellText_read_prompts :
    let t := Text.ofString "a\n```c\n$ x\n```\n```bash\n$ b\r\n\n c\n```\n```shell\n```\n"
    let d := Document.ofText { } t
    let file := rows (shellText (Bundle.ofDocument ⟨['i'], rfl⟩ d []) ['s'] { })
    d.commands ≠ [] ∧
      file.filter isPrompted = [Text.ofString "$ b", Text.ofString "$ ", Text.ofString "$  c"] ∧
      ∀ row ∈ file, ¬ isPrompted row = true → row = [] ∨ mark <+: row := by
  intro t d file
  have hcommands : d.commands ≠ [] := by decide +kernel
  obtain ⟨hprompted, hothers⟩ := shellText_read hcommands ⟨['i'], rfl⟩ [] ['s'] { }
  refine ⟨hcommands, hprompted.trans ?_, hothers⟩
  decide +kernel

end GuideBundles.Artifact
