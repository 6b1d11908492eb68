/-
# `Proofs.SectionMap.Decoded` — a file is read as the sections that it describes

A file describes sections whatever the order of the members of its objects, whatever else they
contain, and in whichever way all this is written.  An empty list may be left out.
-/
import GuideBundles.Proofs.Json.Record
import GuideBundles.Proofs.Json.Values
import GuideBundles.Proofs.SectionMap.Owner
import GuideBundles.SectionMap.File

namespace GuideBundles.SectionMap

open Json

variable {v : Value} {id t : Text} {examples : List Text} {members : List (Phrase × Value)}
  {sections : List (Text × List Text)}

/-! ## Descriptions -/

/-- A member of an object that has a text for its key. -/
def keyed (key : String) (v : Value) : Phrase × Value := (some (Text.ofString key), v)

/-- The array of some texts. -/
def ofTexts (ts : List Text) : Value := .array (ts.map fun t => .string (some t))

/-- Whether a value is a section with its examples. -/
inductive DescribesSection : Value → Text × List Text → Prop
  | listed {id : Text} {examples : List Text} {members : List (Phrase × Value)} :
      HasFields [Text.ofString "id", Text.ofString "examples"]
        [keyed "id" (.string (some id)), keyed "examples" (ofTexts examples)] members →
      DescribesSection (.object members) (id, examples)
  | bare {id : Text} {members : List (Phrase × Value)} :
      HasFields [Text.ofString "id", Text.ofString "examples"]
        [keyed "id" (.string (some id))] members →
      DescribesSection (.object members) (id, [])

/-- Whether a value is a file of sections. -/
inductive Describes : Value → List (Text × List Text) → Prop
  | listed {vs : List Value} {sections : List (Text × List Text)}
      {members : List (Phrase × Value)} :
      HasFields [Text.ofString "sections"] [keyed "sections" (.array vs)] members →
      List.Forall₂ DescribesSection vs sections → Describes (.object members) sections
  | bare {members : List (Phrase × Value)} : HasFields [Text.ofString "sections"] [] members →
      Describes (.object members) []

/-- A section as an object of two members. -/
def ofSection (s : Text × List Text) : Value :=
  .object [keyed "id" (.string (some s.1)), keyed "examples" (ofTexts s.2)]

/-- Every list of sections has a file. -/
theorem exists_describes (sections : List (Text × List Text)) :
    ∃ v t, Describes v sections ∧ WrittenAlone v t := by
  have htexts (ts : List Text) : ∃ t, Written (ofTexts ts) t := by
    refine exists_written_array fun v hv => ?_
    obtain ⟨t, -, rfl⟩ := List.mem_map.1 hv
    obtain ⟨u, hu⟩ := exists_quoted t
    exact ⟨u, .string hu⟩
  have hsection (s : Text × List Text) : ∃ t, Written (ofSection s) t := by
    refine exists_written_object (List.forall_mem_cons.2 ⟨?_, List.forall_mem_singleton.2 ?_⟩)
    · obtain ⟨u, hu⟩ := exists_quoted s.1
      exact ⟨_, u, rfl, .string hu⟩
    · obtain ⟨u, hu⟩ := htexts s.2
      exact ⟨_, u, rfl, hu⟩
  have hdescribes : Describes (.object [keyed "sections" (.array (sections.map ofSection))])
      sections := by
    refine .listed ⟨[], .refl _, by simp⟩ (List.forall₂_map_left_iff.2 ?_)
    exact List.forall₂_same.2 fun s _ => .listed ⟨[], .refl _, by simp⟩
  obtain ⟨t, ht⟩ : ∃ t, Written (.array (sections.map ofSection)) t := by
    refine exists_written_array fun v hv => ?_
    obtain ⟨s, -, rfl⟩ := List.mem_map.1 hv
    exact hsection s
  obtain ⟨u, hu⟩ : ∃ t, Written (.object [keyed "sections" (.array (sections.map ofSection))]) t :=
    exists_written_object (List.forall_mem_singleton.2 ⟨_, t, rfl, ht⟩)
  exact ⟨_, _, hdescribes, [], u, [], areBlanks_nil, hu, areBlanks_nil, rfl⟩

/-! ## Reading descriptions -/

theorem texts?_ofTexts (ts : List Text) : texts? (ofTexts ts) = some ts := by
  show (ts.map fun t => Value.string (some t)).mapM Value.text? = some ts
  induction ts with
  | nil => rfl
  | cons t ts ih =>
    rw [List.map_cons, List.mapM_cons, ih]
    rfl

theorem section?_of_describes {s : Text × List Text}
    (h : DescribesSection v s) : section? v = some s := by
  cases h with
  | @listed id examples members h =>
    have hfields : (Value.object members).fields? [Text.ofString "id", Text.ofString "examples"] =
        some [some (.string (some id)), some (ofTexts examples)] := by
      rw [h.fields? (by simp [keyed])]
      rfl
    simp [section?, hfields, Value.text?, texts?_ofTexts]
  | @bare id members h =>
    have hfields : (Value.object members).fields? [Text.ofString "id", Text.ofString "examples"] =
        some [some (.string (some id)), none] := by
      rw [h.fields? (by simp [keyed])]
      rfl
    simp [section?, hfields, Value.text?]

theorem sections?_of_describes (h : Describes v sections) : sections? v = some sections := by
  cases h with
  | @listed vs sections members h hsections =>
    have hfields : (Value.object members).fields? [Text.ofString "sections"] =
        some [some (.array vs)] := by
      rw [h.fields? (by simp [keyed])]
      rfl
    have hread : vs.mapM section? = some sections := by
      clear h hfields
      induction hsections with
      | nil => rfl
      | cons hs _ ih =>
        rw [List.mapM_cons, section?_of_describes hs, ih]
        rfl
    simp [sections?, hfields, Value.elements?, hread]
  | @bare members h =>
    have hfields : (Value.object members).fields? [Text.ofString "sections"] = some [none] := by
      rw [h.fields? (by simp)]
      rfl
    simp [sections?, hfields]

/-- Whichever way the sections of a file are written, their map is read: an example belongs to the
last section that lists it, and to none if no section does, and there are as many entries as there
are different examples. -/
theorem ofText_of_describes (hv : Describes v sections) (ht : WrittenAlone v t) :
    ∃ m, ofText t = .ok m ∧
      (∀ (e : ExampleId) (owner : Text),
        m.sectionFor e = some owner ↔ IsLastOwner sections e.text owner) ∧
      (∀ e : ExampleId, m.sectionFor e = none ↔ ∀ s ∈ sections, e.text ∉ s.2) ∧
      m.size = (sections.flatMap Prod.snd).dedup.length ∧
      (m.isEmpty = true ↔ (sections.flatMap Prod.snd).dedup.length = 0) := by
  have hread : ofText t = .ok (ofSections sections) := by
    rw [ofText, Value.ofText?_of_writtenAlone ht, Option.bind_some, sections?_of_describes hv]
  have hempty : (ofSections sections).isEmpty = true ↔ (ofSections sections).size = 0 := by
    rw [isEmpty, size, List.isEmpty_iff, List.length_eq_zero_iff]
  refine ⟨ofSections sections, hread, fun e owner => get?_ofSections,
    fun e => get?_ofSections_eq_none, size_ofSections sections, ?_⟩
  rw [hempty, size_ofSections]

/-- Two sections list the same example, another member stands between the fields, a letter is
escaped, and an empty list is left out. -/
theorem ofText_of_describes_shared :
    ∃ m, ofText (Text.ofString "\x7b\"sections\":["
        ++ Text.ofString "\x7b\"id\":\"a\",\"examples\":[\"x\",\"\\u0079\"]\x7d,\n"
        ++ Text.ofString "\x7b\"examples\":[\"x\"],\"note\":1,\"id\":\"b\"\x7d,\n"
        ++ Text.ofString "\x7b\"id\":\"c\"\x7d]\x7d\n") = .ok m ∧
      m.sectionFor ⟨['x'], rfl⟩ = some ['b'] ∧ m.sectionFor ⟨['z'], rfl⟩ = none ∧
      m.size = 2 ∧ m.isEmpty = false := by
  have newline : AreBlanks ['\n'] := by simp [AreBlanks]
  have field {k : String} {v : Value} {t : Text}
      (hk : k.toList.all (fun c => decide (IsBare c)) = true) (hv : Written v t) :
      Member (keyed k v) _ :=
    .mk areBlanks_nil (.text (spells_self hk)) areBlanks_nil areBlanks_nil hv areBlanks_nil
  have letter {c : Char} (hc : IsBare c) : Written (.string (some [c])) _ :=
    .string (.text (.cons (.bare hc) .nil))
  have unit : IsUnit 'y'.toNat ['0', '0', '7', '9'] :=
    .mk (i := 0) (j := 0) (k := 7) (l := 9) (.inl rfl) (.inl rfl) (.inl rfl) (.inl rfl)
  have one : IsNumber ['1'] :=
    ⟨[], ['1'], [], [], .inl rfl, .inr ⟨⟨by decide, List.forall_mem_singleton.2 rfl⟩, by decide⟩,
      .inl rfl, .inl rfl, rfl⟩
  have first : Written (.object [keyed "id" _, keyed "examples" (ofTexts [['x'], ['y']])]) _ :=
    .object (.cons (field (by decide) (letter (c := 'a') (by decide))) (.last (field (by decide)
      (.array (.cons areBlanks_nil (letter (by decide)) areBlanks_nil
        (.last areBlanks_nil (.string (.text (.cons (.unit unit) .nil))) areBlanks_nil))))))
  have second : Written
      (.object [keyed "examples" (ofTexts [['x']]), keyed "note" _, keyed "id" _]) _ :=
    .object (.cons (field (by decide)
        (.array (.last areBlanks_nil (letter (by decide)) areBlanks_nil)))
      (.cons (field (by decide) (.number one))
        (.last (field (by decide) (letter (c := 'b') (by decide))))))
  have third : Written (.object [keyed "id" _]) _ :=
    .object (.last (field (by decide) (letter (c := 'c') (by decide))))
  have file : Written (.object [keyed "sections" (.array [_, _, _])]) _ :=
    .object (.last (field (by decide) (.array (.cons areBlanks_nil first areBlanks_nil
      (.cons newline second areBlanks_nil (.last newline third areBlanks_nil))))))
  have shuffled : DescribesSection (.object [keyed "examples" (ofTexts [['x']]),
      keyed "note" (.number ['1']), keyed "id" (.string (some ['b']))]) (['b'], [['x']]) := by
    refine .listed ⟨[keyed "note" (.number ['1'])], ?_, ?_⟩
    · exact List.perm_append_singleton _ [_, _]
    · intro m hm
      obtain rfl := List.mem_singleton.1 hm
      exact ⟨_, rfl, by decide⟩
  have describes : Describes (.object [keyed "sections" (.array [_, _, _])])
      [(['a'], [['x'], ['y']]), (['b'], [['x']]), (['c'], [])] :=
    .listed ⟨[], .refl _, by simp⟩ (.cons (.listed ⟨[], .refl _, by simp⟩)
      (.cons shuffled (.cons (.bare ⟨[], .refl _, by simp⟩) .nil)))
  obtain ⟨m, hm, hsome, hnone, hsize, hempty⟩ :=
    ofText_of_describes describes ⟨[], _, _, areBlanks_nil, file, newline, rfl⟩
  refine ⟨m, hm, (hsome _ _).2 ?_, (hnone _).2 (by decide), hsize, ?_⟩
  · exact ⟨[(['a'], _)], [['x']], [(['c'], [])], rfl, by decide, by decide⟩
  · rw [← Bool.not_eq_true, hempty]
    decide

end GuideBundles.SectionMap
