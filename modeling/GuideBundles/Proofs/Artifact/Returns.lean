/-
# `Proofs.Artifact.Returns` — line ends make no difference to what is published

A document with a carriage return in front of each newline says what it says without them, and its
three files differ in carriage returns alone.  What identifier and settings put into the files stays
as it is, so the files of the document without returns are free of them when those are.
-/
import GuideBundles.Proofs.Artifact.Names
import GuideBundles.Proofs.Artifact.Title
import GuideBundles.Proofs.Markdown.Extracted
import GuideBundles.Proofs.Markdown.Returns
import GuideBundles.Proofs.Text.Parts

namespace GuideBundles

open Text (dropReturns)

/-! ## Documents with other texts -/

/-- A reference with a function applied to its texts. -/
def Reference.retext (f : Text → Text) : Reference → Reference
  | link target => link (f target)
  | image target alt => image (f target) (f alt)

/-- A code block with a function applied to its texts, and without its place in the document. -/
def CodeBlock.retext (f : Text → Text) (b : CodeBlock) : CodeBlock :=
  ⟨b.dialect, f b.code, f b.note, 0, 0⟩

theorem CodeBlock.map_retext_of_alike {bs bs' : List CodeBlock} (h : List.Forall₂ Alike bs bs') :
    bs'.map (retext dropReturns) = bs.map (retext dropReturns) := by
  induction h with
  | nil => rfl
  | cons hb _ ih =>
    rw [List.map_cons, List.map_cons, ih, retext, retext, hb.dialect, hb.code, hb.note,
      Text.dropReturns_crlf]

namespace Document

/-- What a document says with a function applied to each text, and without places. -/
def retext (f : Text → Text) (d : Document) : Document where
  heading := ⟨d.heading.title.map f, f d.heading.description⟩
  snippets := d.snippets.map (CodeBlock.retext f)
  commands := d.commands.map (CodeBlock.retext f)
  links := d.links.map (Reference.retext f)
  images := d.images.map (Reference.retext f)

theorem retext_congr {d : Document} {f g : Text → Text} (h : ∀ u ∈ d.texts, f u = g u) :
    d.retext f = d.retext g := by
  have hcode : ∀ b ∈ d.snippets ++ d.commands, b.retext f = b.retext g := by
    intro b hb
    have htext : ∀ u ∈ [b.code, b.note], f u = g u := fun u hu =>
      h u (List.mem_append_right _ (List.mem_cons_of_mem _
        (List.mem_append_left _ (List.mem_flatMap.2 ⟨b, hb, hu⟩))))
    rw [CodeBlock.retext, CodeBlock.retext, htext b.code (by simp), htext b.note (by simp)]
  have hreference : ∀ r ∈ d.links ++ d.images, r.retext f = r.retext g := by
    intro r hr
    have htext : ∀ u ∈ r.texts, f u = g u := fun u hu =>
      h u (List.mem_append_right _ (List.mem_cons_of_mem _
        (List.mem_append_right _ (List.mem_flatMap.2 ⟨r, hr, hu⟩))))
    cases r with
    | link target =>
      rw [Reference.retext, Reference.retext, htext target (by simp [Reference.texts])]
    | image target alt =>
      rw [Reference.retext, Reference.retext, htext target (by simp [Reference.texts]),
        htext alt (by simp [Reference.texts])]
  have htitle : d.heading.title.map f = d.heading.title.map g :=
    Option.map_congr fun u hu => h u (List.mem_append_left _ (Option.mem_toList.2 hu))
  have hdescription : f d.heading.description = g d.heading.description :=
    h _ (List.mem_append_right _ List.mem_cons_self)
  unfold retext
  rw [htitle, hdescription,
    List.map_congr_left fun b hb => hcode b (List.mem_append_left _ hb),
    List.map_congr_left fun b hb => hcode b (List.mem_append_right _ hb),
    List.map_congr_left fun r hr => hreference r (List.mem_append_left _ hr),
    List.map_congr_left fun r hr => hreference r (List.mem_append_right _ hr)]

/-- Without carriage returns a document says the same, whether or not it had them at its line
ends. -/
theorem retext_ofText_crlf (tags : FenceTags) (t : Text) :
    (ofText tags (Text.crlf t)).retext dropReturns = (ofText tags t).retext dropReturns := by
  have hcode (names : List Text) (d : Dialect) :
      (CodeBlock.extract names d (Text.crlf t)).map (CodeBlock.retext dropReturns)
        = (CodeBlock.extract names d t).map (CodeBlock.retext dropReturns) :=
    CodeBlock.map_retext_of_alike (CodeBlock.forall₂_extract names d t)
  have himages : (Image.extract (Text.crlf t)).map (Reference.retext dropReturns)
      = (Image.extract t).map (Reference.retext dropReturns) := by
    rw [Image.extract_crlf, List.map_map]
    refine List.map_congr_left fun r _ => ?_
    cases r with
    | link target => rfl
    | image target alt =>
      show Reference.image _ (dropReturns (Text.crlf alt)) = _
      rw [Text.dropReturns_crlf]
      rfl
  have htitle (title : Option Text) :
      (title.map Text.crlf).map dropReturns = title.map dropReturns := by
    cases title with
    | none => rfl
    | some u => exact congrArg some (Text.dropReturns_crlf u)
  simp only [retext, ofText, Heading.extract_crlf, htitle, Text.dropReturns_crlf, hcode,
    Link.extract_crlf, himages]

end Document

/-! ## Bundles -/

/-- A bundle and what it is with a carriage return in front of each newline of the document. -/
structure Bundle.Alike (b b' : Bundle) : Prop where
  id : b'.id = b.id
  title : dropReturns b'.title = dropReturns b.title
  description : dropReturns b'.description = dropReturns b.description
  snippets : List.Forall₂ CodeBlock.Alike b.snippets b'.snippets
  commands : List.Forall₂ CodeBlock.Alike b.commands b'.commands
  links : b'.links = b.links

theorem Bundle.alike_ofDocument (id : ExampleId) (tags : FenceTags) (t : Text) :
    Alike (ofDocument id (Document.ofText tags t) (Document.ofText tags t).images)
      (ofDocument id (Document.ofText tags (Text.crlf t))
        (Document.ofText tags (Text.crlf t)).images) where
  id := rfl
  title := by
    show dropReturns ((Heading.extract (Text.crlf t)).title.getD _)
      = dropReturns ((Heading.extract t).title.getD _)
    rw [Heading.extract_crlf]
    cases (Heading.extract t).title with
    | none => rfl
    | some u => exact Text.dropReturns_crlf u
  description := by
    show dropReturns (Heading.extract (Text.crlf t)).description = _
    rw [Heading.extract_crlf]
    exact Text.dropReturns_crlf _
  snippets := CodeBlock.forall₂_extract tags.snippet .snippet t
  commands := CodeBlock.forall₂_extract tags.command .command t
  links := by
    have himages (images : List Reference) :
        ((images.map Reference.crlf).filter Reference.isLink).map Reference.target
          = (images.filter Reference.isLink).map Reference.target := by
      induction images with
      | nil => rfl
      | cons r rest ih =>
        cases r with
        | link target => exact congrArg (target :: ·) ih
        | image target alt => exact ih
    show ((Link.extract (Text.crlf t) ++ Image.extract (Text.crlf t)).filter Reference.isLink).map
        Reference.target = ((Link.extract t ++ Image.extract t).filter Reference.isLink).map
        Reference.target
    rw [Link.extract_crlf, Image.extract_crlf, List.filter_append, List.map_append, himages,
      ← List.map_append, ← List.filter_append]

namespace Artifact

/-! ## Files alike -/

theorem dropReturns_replaceChar {c : Char} (hc : c ≠ '\r') {new : Text} (hnew : '\r' ∉ new)
    (t : Text) :
    dropReturns (Text.replaceChar c new t) = Text.replaceChar c new (dropReturns t) := by
  have hcons (d : Char) (u : Text) : Text.replaceChar c new (d :: u)
      = (if d = c then new else [d]) ++ Text.replaceChar c new u := List.flatMap_cons
  induction t with
  | nil => rfl
  | cons d t ih =>
    rw [hcons, Text.dropReturns_append, ih]
    by_cases hd : d = '\r'
    · subst hd
      rw [if_neg (Ne.symm hc)]
      rfl
    · rw [Text.dropReturns_cons hd, hcons]
      split
      · rw [Text.dropReturns_of_not_mem hnew]
      · rw [Text.dropReturns_of_not_mem (by simpa using Ne.symm hd)]

theorem dropReturns_comment (t : Text) : dropReturns (comment t) = comment (dropReturns t) := by
  rw [comment, Text.dropReturns_append, dropReturns_replaceChar (by decide) (by decide)]
  rfl

theorem dropReturns_note {b b' : CodeBlock} (h : b.Alike b') :
    dropReturns (note b') = dropReturns (note b) := by
  unfold note
  by_cases hnote : b.note = []
  · rw [if_pos hnote, if_pos (h.note_nil.2 hnote)]
  · rw [if_neg hnote, if_neg fun hnil => hnote (h.note_nil.1 hnil), Text.dropReturns_append,
      Text.dropReturns_append, dropReturns_comment, dropReturns_comment, h.note]

/-- Texts that are put together of blocks differ in carriage returns alone when those of the blocks
do. -/
theorem dropReturns_flatMap {R : CodeBlock → CodeBlock → Prop} {f : CodeBlock → Text}
    (hf : ∀ b b', R b b' → dropReturns (f b') = dropReturns (f b)) {bs bs' : List CodeBlock}
    (h : List.Forall₂ R bs bs') : dropReturns (bs'.flatMap f) = dropReturns (bs.flatMap f) := by
  induction h with
  | nil => rfl
  | cons hb _ ih =>
    rw [List.flatMap_cons, List.flatMap_cons, Text.dropReturns_append, Text.dropReturns_append,
      hf _ _ hb, ih]

theorem dropReturns_snippetText {b b' : Bundle} (h : b.Alike b') :
    dropReturns (snippetText b') = dropReturns (snippetText b) := by
  have hblocks := dropReturns_flatMap
    (f := fun s => note s ++ Text.trim s.code ++ Text.ofString "\n\n")
    (fun s s' hs => by
      rw [Text.dropReturns_append, Text.dropReturns_append, Text.dropReturns_append,
        Text.dropReturns_append, dropReturns_note hs, hs.code, Text.trim_crlf,
        Text.dropReturns_crlf]) h.snippets
  simp only [snippetText, Text.dropReturns_append, dropReturns_comment, h.title, h.description,
    hblocks]

/-- Commands lose the carriage returns at their ends anyway. -/
theorem dropReturns_commandText {s s' : CodeBlock} (hs : '\r' ∉ s.code ∧ s.Alike s') :
    dropReturns (commandText s') = dropReturns (commandText s) := by
  have htrim : '\r' ∉ Text.trim s.code := fun hmem => hs.1 ((Text.trim_sublist _).subset hmem)
  unfold commandText
  rw [hs.2.code, Text.trim_crlf, Text.lines_crlf htrim]
  simp only [Text.dropReturns_append, dropReturns_note hs.2]

theorem dropReturns_shellText {b b' : Bundle} (h : b.Alike b')
    (hcode : ∀ s ∈ b.commands, '\r' ∉ s.code) (snippetFile : Text) (emit : EmitSettings) :
    dropReturns (shellText b' snippetFile emit) = dropReturns (shellText b snippetFile emit) := by
  have hblocks := dropReturns_flatMap (f := commandText) (fun _ _ => dropReturns_commandText)
    ((List.forall₂_and_left _ _).2 ⟨hcode, h.commands⟩)
  have hnil : b'.commands = [] ↔ b.commands = [] := by
    rw [← List.length_eq_zero_iff, ← h.commands.length_eq, List.length_eq_zero_iff]
  unfold shellText
  rw [Text.dropReturns_append, Text.dropReturns_append]
  by_cases hc : b.commands = []
  · rw [if_pos hc, if_pos (hnil.2 hc)]
  · rw [if_neg hc, if_neg fun h => hc (hnil.1 h), hblocks]

/-- The files differ in carriage returns alone. -/
theorem dropReturns_ofBundle {b b' : Bundle} (h : b.Alike b')
    (hcode : ∀ s ∈ b.commands, '\r' ∉ s.code) (emit : EmitSettings) :
    (ofBundle b' emit).map (fun a => (a.name, dropReturns a.content))
      = (ofBundle b emit).map fun a => (a.name, dropReturns a.content) := by
  simp only [ofBundle, List.map_cons, List.map_nil, h.id, dropReturns_snippetText h,
    dropReturns_shellText h hcode, linksText, h.links]

/-! ## Files without carriage returns -/

theorem return_not_mem_comment {t : Text} (h : '\r' ∉ t) : '\r' ∉ comment t := by
  intro hmem
  rcases List.mem_append.1 hmem with hmem | hmem
  · exact absurd hmem (by decide)
  · obtain ⟨c, hc, hmem⟩ := List.mem_flatMap.1 hmem
    split at hmem
    · exact absurd hmem (by decide)
    · exact h (List.mem_singleton.1 hmem ▸ hc)

theorem return_not_mem_note {b : CodeBlock} (h : '\r' ∉ b.note) : '\r' ∉ note b := by
  unfold note
  split
  · exact List.not_mem_nil
  · simp [return_not_mem_comment h]

theorem mem_of_mem_lines {t line : Text} (h : line ∈ Text.lines t) {c : Char} (hc : c ∈ line) :
    c ∈ t := by
  obtain ⟨full, hfull, rfl⟩ := List.mem_map.1 h
  have hmem : c ∈ full := by
    unfold Text.dropNewline at hc
    rw [← List.mem_reverse]
    split at hc
    · next r hr => simp [hr, List.mem_reverse.1 hc]
    · next r _ hr => simp [hr, List.mem_reverse.1 hc]
    · exact List.mem_reverse.2 hc
  rw [← Text.flatten_fullLines t]
  exact List.mem_flatten_of_mem hfull hmem

theorem mem_of_mem_replaceFrom {old new t : Text} {skip : Nat} {c : Char}
    (h : c ∈ Text.replaceFrom old new skip t) : c ∈ new ∨ c ∈ t := by
  induction t generalizing skip with
  | nil => cases skip <;> cases h
  | cons d t ih =>
    cases skip with
    | succ skip => exact (ih h).imp_right (List.mem_cons_of_mem d)
    | zero =>
      rw [Text.replaceFrom] at h
      split at h
      · rcases List.mem_append.1 h with h | h
        · exact .inl h
        · exact (ih h).imp_right (List.mem_cons_of_mem d)
      · rcases List.mem_cons.1 h with rfl | h
        · exact .inr List.mem_cons_self
        · exact (ih h).imp_right (List.mem_cons_of_mem d)

/-- Settings that put no carriage returns into the generated files. -/
def Clean (emit : EmitSettings) : Prop :=
  '\r' ∉ emit.snippetExtension ∧ '\r' ∉ emit.installCommand ∧ '\r' ∉ emit.runCommand ∧
    '\r' ∉ emit.defaultLink

theorem return_not_mem_snippetText {b : Bundle} (htitle : '\r' ∉ b.title)
    (hdescription : '\r' ∉ b.description)
    (hsnippets : ∀ s ∈ b.snippets, '\r' ∉ s.code ∧ '\r' ∉ s.note) : '\r' ∉ snippetText b := by
  have hblocks : '\r' ∉ b.snippets.flatMap fun s =>
      note s ++ Text.trim s.code ++ Text.ofString "\n\n" := by
    intro hmem
    obtain ⟨s, hs, hmem⟩ := List.mem_flatMap.1 hmem
    obtain ⟨hcode, hnote⟩ := hsnippets s hs
    rcases List.mem_append.1 hmem with hmem | hmem
    · rcases List.mem_append.1 hmem with hmem | hmem
      · exact return_not_mem_note hnote hmem
      · exact hcode ((Text.trim_sublist _).subset hmem)
    · exact absurd hmem (by decide)
  have hmark : '\r' ∉ Text.ofString "# " := by decide
  have hblank : '\r' ∉ Text.ofString "\n\n" := by decide
  simp only [snippetText, List.mem_append, not_or]
  exact ⟨⟨⟨⟨⟨hmark, htitle⟩, hblank⟩, return_not_mem_comment hdescription⟩, hblank⟩, hblocks⟩

theorem return_not_mem_commandText {s : CodeBlock} (hcode : '\r' ∉ s.code) (hnote : '\r' ∉ s.note) :
    '\r' ∉ commandText s := by
  have hlines : '\r' ∉ (Text.lines (Text.trim s.code)).flatMap
      fun line => prompted line ++ ['\n'] := by
    intro hmem
    obtain ⟨line, hline, hmem⟩ := List.mem_flatMap.1 hmem
    have hclean : '\r' ∉ line := fun hr =>
      hcode ((Text.trim_sublist _).subset (mem_of_mem_lines hline hr))
    rcases List.mem_append.1 hmem with hmem | hmem
    · unfold prompted at hmem
      split at hmem
      · exact hclean hmem
      · rcases List.mem_append.1 hmem with hmem | hmem
        · exact absurd hmem (by decide)
        · exact hclean hmem
    · exact absurd hmem (by decide)
  simp only [commandText, List.mem_append, not_or]
  exact ⟨⟨return_not_mem_note hnote, hlines⟩, by decide⟩

theorem return_not_mem_defaultCommands {snippetFile : Text} {emit : EmitSettings}
    (hfile : '\r' ∉ snippetFile) (hemit : Clean emit) :
    '\r' ∉ defaultCommands snippetFile emit := by
  obtain ⟨-, hinstall, hrun, -⟩ := hemit
  have hfirst : '\r' ∉ Text.ofString "# First, install dependencies\n$ " := by decide +kernel
  have hnext : '\r' ∉ Text.ofString "\n\n# Run the snippet\n$ " := by decide +kernel
  have hreplaced : '\r' ∉ Text.replace placeholder snippetFile emit.runCommand := fun h =>
    (mem_of_mem_replaceFrom h).elim hfile hrun
  unfold defaultCommands
  simp only [List.mem_append, not_or]
  exact ⟨⟨⟨⟨hfirst, hinstall⟩, hnext⟩, hreplaced⟩, by decide⟩

theorem return_not_mem_shellText {b : Bundle} {snippetFile : Text} {emit : EmitSettings}
    (hcommands : ∀ s ∈ b.commands, '\r' ∉ s.code ∧ '\r' ∉ s.note) (hfile : '\r' ∉ snippetFile)
    (hemit : Clean emit) : '\r' ∉ shellText b snippetFile emit := by
  have hheader : '\r' ∉ Text.ofString "# Run the example\n" := by decide +kernel
  unfold shellText
  rw [List.mem_append, not_or]
  refine ⟨hheader, ?_⟩
  split
  · exact return_not_mem_defaultCommands hfile hemit
  · intro hmem
    obtain ⟨s, hs, hmem⟩ := List.mem_flatMap.1 hmem
    exact return_not_mem_commandText (hcommands s hs).1 (hcommands s hs).2 hmem

theorem return_not_mem_linksText {b : Bundle} {emit : EmitSettings}
    (hlinks : ∀ link ∈ b.links, '\r' ∉ link) (hemit : Clean emit) : '\r' ∉ linksText b emit := by
  unfold linksText
  split
  · exact hemit.2.2.2
  · intro hmem
    obtain ⟨link, hlink, hmem⟩ := (Text.mem_join_iff (by decide)).1 hmem
    exact hlinks link hlink hmem

/-- When document, identifier and settings have no carriage returns, the files have none. -/
theorem return_not_mem_ofBundle {t : Text} (ht : '\r' ∉ t) (tags : FenceTags) {id : ExampleId}
    (hid : '\r' ∉ id.text) {emit : EmitSettings} (hemit : Clean emit) {a : Artifact}
    (ha : a ∈ ofBundle (Bundle.ofDocument id (Document.ofText tags t)
      (Document.ofText tags t).images) emit) : '\r' ∉ a.content := by
  have htexts : ∀ u ∈ (Document.ofText tags t).texts, '\r' ∉ u := fun u hu hr =>
    ht (Document.subset_of_mem_texts hu hr)
  have hcode : ∀ s ∈ (Document.ofText tags t).snippets ++ (Document.ofText tags t).commands,
      '\r' ∉ s.code ∧ '\r' ∉ s.note := by
    intro s hs
    have hmem : ∀ u ∈ [s.code, s.note], '\r' ∉ u := fun u hu =>
      htexts u (List.mem_append_right _ (List.mem_cons_of_mem _
        (List.mem_append_left _ (List.mem_flatMap.2 ⟨s, hs, hu⟩))))
    exact ⟨hmem _ (by simp), hmem _ (by simp)⟩
  have htitle : '\r' ∉ (Document.ofText tags t).heading.title.getD id.fallbackTitle := by
    cases hread : (Document.ofText tags t).heading.title with
    | none => exact fun hr => hid ((ExampleId.mem_fallbackTitle_iff rfl (by decide)).1 hr)
    | some u =>
      exact htexts u (List.mem_append_left _ (Option.mem_toList.2 hread))
  have hlinks : ∀ link ∈ (Bundle.ofDocument id (Document.ofText tags t)
      (Document.ofText tags t).images).links, '\r' ∉ link := by
    intro link hlink
    obtain ⟨r, hr, rfl⟩ := List.mem_map.1 hlink
    have htarget : r.target ∈ r.texts := by cases r <;> simp [Reference.texts, Reference.target]
    exact htexts _ (List.mem_append_right _ (List.mem_cons_of_mem _ (List.mem_append_right _
      (List.mem_flatMap.2 ⟨r, (List.mem_filter.1 hr).1, htarget⟩))))
  have hfile : '\r' ∉ id.exampleName ++ '.' :: emit.snippetExtension := by
    have hname : '\r' ∉ id.exampleName := fun hr => hid (id.exampleName_subset hr)
    simp [hname, hemit.1]
  simp only [ofBundle, List.mem_cons, List.not_mem_nil, or_false] at ha
  rcases ha with rfl | rfl | rfl
  · exact return_not_mem_snippetText htitle
      (htexts _ (List.mem_append_right _ List.mem_cons_self))
      fun s hs => hcode s (List.mem_append_left _ hs)
  · exact return_not_mem_shellText (fun s hs => hcode s (List.mem_append_right _ hs)) hfile hemit
  · exact return_not_mem_linksText hlinks hemit

/-- Line ends make no difference.  Put a carriage return in front of each newline of a document that
has none: what is read, without carriage returns and without places, is what is read from the
document itself.  The three files have the same names, and without carriage returns the same
contents; and when identifier and settings have no carriage returns, these are the contents of the
files of the document itself. -/
theorem crlf_read_and_published {t : Text} (ht : '\r' ∉ t) (tags : FenceTags) (id : ExampleId)
    (emit : EmitSettings) :
    let d := Document.ofText tags t
    let d' := Document.ofText tags (Text.crlf t)
    let files := ofBundle (Bundle.ofDocument id d d.images) emit
    let files' := ofBundle (Bundle.ofDocument id d' d'.images) emit
    d'.retext dropReturns = d.retext (fun u => u) ∧
      d'.images.map (fun r => r.alt?.map dropReturns) = d.images.map Reference.alt? ∧
      files'.map (fun a => (a.name, dropReturns a.content))
        = files.map (fun a => (a.name, dropReturns a.content)) ∧
      ('\r' ∉ id.text → Clean emit →
        files'.map (fun a => (a.name, dropReturns a.content))
          = files.map fun a => (a.name, a.content)) := by
  intro d d' files files'
  have htexts : ∀ u ∈ d.texts, dropReturns u = u := fun u hu =>
    Text.dropReturns_of_not_mem fun hr => ht (Document.subset_of_mem_texts hu hr)
  have hcode : ∀ s ∈ d.commands, '\r' ∉ s.code := fun s hs hr =>
    ht ((CodeBlock.subset_of_mem_extract hs).1 hr)
  have hfiles := dropReturns_ofBundle (Bundle.alike_ofDocument id tags t) hcode emit
  refine ⟨?_, ?_, hfiles, ?_⟩
  · exact (Document.retext_ofText_crlf tags t).trans (Document.retext_congr htexts)
  · show (Image.extract (Text.crlf t)).map _ = (Image.extract t).map _
    rw [Image.extract_crlf, List.map_map]
    refine List.map_congr_left fun r hr => ?_
    obtain ⟨target, alt, rfl, -, halt, -⟩ := Image.subset_of_mem_listFrom hr
    have hclean : '\r' ∉ alt := fun hmem => ht (halt hmem)
    by_cases hnil : alt = []
    · rw [hnil]
      rfl
    · have hnil' : Text.crlf alt ≠ [] := fun h => hnil (Text.crlf_eq_nil_iff.1 h)
      simp only [Function.comp_apply, Reference.crlf, Reference.alt?, if_neg hnil, if_neg hnil',
        Option.map_some, Text.dropReturns_crlf, Text.dropReturns_of_not_mem hclean]
  · intro hid hemit
    refine hfiles.trans (List.map_congr_left fun a ha => ?_)
    rw [Text.dropReturns_of_not_mem (return_not_mem_ofBundle ht tags hid hemit ha)]

/-- A document with a note that has a heading in it, and settings without carriage returns. -/
theorem crlf_read_and_published_note :
    let t := Text.ofString "# T\nd\n## H\n```python\nx\n```\n"
    let files (t : Text) := ofBundle (Bundle.ofDocument ⟨['i'], rfl⟩ (Document.ofText {} t)
      (Document.ofText {} t).images) {}
    '\r' ∉ t ∧ (Document.ofText {} (Text.crlf t)).retext dropReturns
        = (Document.ofText {} t).retext (fun u => u) ∧
      (files (Text.crlf t)).map (fun a => (a.name, dropReturns a.content))
        = (files t).map fun a => (a.name, a.content) := by
  intro t files
  have ht : '\r' ∉ t := by decide +kernel
  obtain ⟨hread, -, -, hfiles⟩ := crlf_read_and_published ht {} ⟨['i'], rfl⟩ {}
  have hclean : Clean {} := by
    unfold Clean
    decide +kernel
  exact ⟨ht, hread, hfiles (by decide) hclean⟩

/-- A carriage return in the settings is in the links file of a document without links, whose own
text has none. -/
theorem return_in_links_of_settings :
    let t := Text.ofString "T"
    let emit : EmitSettings := { defaultLink := Text.ofString "x\ry" }
    let files (t : Text) := ofBundle (Bundle.ofDocument ⟨['a'], rfl⟩ (Document.ofText {} t)
      (Document.ofText {} t).images) emit
    '\r' ∉ t ∧ (files (Text.crlf t)).map (fun a => dropReturns a.content)
      ≠ (files t).map Artifact.content := by
  decide +kernel

end Artifact
end GuideBundles
