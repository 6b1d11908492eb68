/-
# `Proofs.Json.Record` — the fields of a record may stand in any order

An object is read as a record by looking up each field.  Neither the order of its members matters
nor what other members there are, as long as their keys are texts and not the keys of fields.
-/
import GuideBundles.Json.Value

namespace GuideBundles.Json

variable {key : Text} {keys : List Text} {fields members members' : List (Phrase × Value)}

/-- Whether the members of an object are the given fields, in any order and among any others. -/
def HasFields (keys : List Text) (fields members : List (Phrase × Value)) : Prop :=
  ∃ others, members.Perm (fields ++ others) ∧ ∀ m ∈ others, ∃ key, m.1 = some key ∧ key ∉ keys

theorem Value.member?_of_perm (h : members.Perm members') :
    Value.member? members key = Value.member? members' key := by
  have hfound := h.filter fun m => m.1 = some key
  unfold Value.member?
  revert hfound
  generalize members.filter _ = found
  generalize members'.filter _ = found'
  intro hfound
  rcases found with _ | ⟨m, _ | ⟨m', rest⟩⟩
  · rw [List.nil_perm.1 hfound]
  · rw [List.singleton_perm.1 hfound]
  · have hlength := hfound.length_eq
    rcases found' with _ | ⟨k, _ | ⟨k', rest'⟩⟩
    · simp at hlength
    · simp at hlength
    · rfl

/-- A field is looked up among the fields alone. -/
theorem HasFields.member? (h : HasFields keys fields members) (hkey : key ∈ keys) :
    Value.member? members key = Value.member? fields key := by
  obtain ⟨others, hperm, hothers⟩ := h
  have hnone : others.filter (fun m => m.1 = some key) = [] := by
    refine List.filter_eq_nil_iff.2 fun m hm heq => ?_
    obtain ⟨other, hother, hnot⟩ := hothers m hm
    obtain rfl := Option.some.inj (hother.symm.trans (of_decide_eq_true heq))
    exact hnot hkey
  rw [Value.member?_of_perm hperm, Value.member?, List.filter_append, hnone, List.append_nil]
  rfl

/-- An object is read as the record of the fields that it has. -/
theorem HasFields.fields? (h : HasFields keys fields members)
    (hfields : ∀ m ∈ fields, m.1.isNone = false) :
    (Value.object members).fields? keys = keys.mapM (Value.member? fields) := by
  have hkeys : (members.any fun m => m.1.isNone) = false := by
    obtain ⟨others, hperm, hothers⟩ := h
    rw [List.any_eq_false]
    intro m hm
    rcases List.mem_append.1 (hperm.mem_iff.1 hm) with hm | hm
    · simp [hfields m hm]
    · obtain ⟨other, hother, -⟩ := hothers m hm
      simp [hother]
  have hcongr {ks : List Text} (hks : ∀ k ∈ ks, k ∈ keys) :
      ks.mapM (Value.member? members) = ks.mapM (Value.member? fields) := by
    induction ks with
    | nil => rfl
    | cons k ks ih =>
      obtain ⟨hk, hrest⟩ := List.forall_mem_cons.1 hks
      rw [List.mapM_cons, List.mapM_cons, h.member? hk, ih hrest]
  rw [Value.fields?, hkeys]
  exact hcongr fun _ hk => hk

end GuideBundles.Json
