import Groundwork.Proofs.Refusal

/-!
# What reading guarantees

A field that was read from a token is not just any field: its type is the one that its text names,
and it only increments as an integer key. The fields of a resource that was read have this, and so
the layouts, which see a type as its text alone, see what it is.

* `Field.Sound`: what reading guarantees.
* **`Field.sound_of_parse`**, **`Resource.sound_of_ofDefinitions`**: it holds of what is read.
* `Field.Sound.text_eq_iff`: a sound field has a known type exactly when the text says so.
-/

namespace Groundwork

/-! ## Types and marks -/

theorem FieldType.ofText_text_ofText (t : String) : ofText (ofText t).text = ofText t := by
  cases hknown : (ofText t).isKnown with
  | true => exact ofText_text hknown
  | false =>
    cases hk : ofText t with
    | other u =>
      have hu : t = u := by
        unfold ofText at hk
        simp only at hk
        repeat' split at hk
        all_goals first | exact FieldType.other.inj hk | cases hk
      rw [text, ← hu, hk, hu]
    | _ =>
      rw [hk] at hknown
      cases hknown

theorem Marks.key_of_increments_add {m : Marks} (h : m.increments = true → m.key = true)
    (x : Modifier) : (m.add x).increments = true → (m.add x).key = true := by
  cases x with
  | primary => exact fun _ => rfl
  | increments => exact fun _ => rfl
  | nullable => exact h
  | empty => exact h
  | unknown word => exact h

theorem Marks.key_of_increments (ms : List Modifier) :
    (ofModifiers ms).increments = true → (ofModifiers ms).key = true := by
  suffices ∀ m : Marks, (m.increments = true → m.key = true) →
      (ms.foldl add m).increments = true → (ms.foldl add m).key = true from this .none nofun
  induction ms with
  | nil => exact fun m h => h
  | cons x rest ih => exact fun m h => ih (m.add x) (key_of_increments_add h x)

/-! ## Fields -/

namespace Field

variable {f : Field}

/-- **What reading guarantees** of a field: its text names its type, and it only increments as an
integer key. -/
structure Sound (f : Field) : Prop where
  type_text : FieldType.ofText f.type.text = f.type
  key : f.isIncrementing = true → f.isKey = true
  integer : f.isIncrementing = true → f.type = .integer

/-- **A sound field has a known type exactly when its text says so.** -/
theorem Sound.text_eq_iff (h : f.Sound) {k : FieldType} (hk : k.isKnown) :
    f.type.text = k.text ↔ f.type = k := by
  constructor
  · intro htext
    rw [← h.type_text, htext, FieldType.ofText_text hk]
  · rintro rfl
    rfl

theorem typeOfSegment_text (field segment : String) :
    FieldType.ofText (typeOfSegment field segment).1.text = (typeOfSegment field segment).1 := by
  unfold typeOfSegment
  split
  · exact FieldType.ofText_text (k := .string) rfl
  · dsimp only
    exact FieldType.ofText_text_ofText (Text.trim segment)

theorem sound_of_ofSegments {name type : String} {ms : List Modifier}
    (h : (ofSegments name type ms).result = .ok f) : f.Sound := by
  simp only [ofSegments, Except.ok.injEq] at h
  subst h
  refine ⟨typeOfSegment_text name type, fun hinc => ?_, fun hinc => ?_⟩
  · exact Marks.key_of_increments ms (Bool.and_eq_true_iff.1 hinc).1
  · exact of_decide_eq_true (Bool.and_eq_true_iff.1 hinc).2

/-- **What is read is sound.** -/
theorem sound_of_parse {token : String} (h : (parse token).result = .ok f) : f.Sound := by
  unfold parse at h
  split at h
  · split at h
    · cases h
    · exact sound_of_ofSegments h
  · cases h

end Field

theorem Noted.exists_mem_of_result_each {ε α β : Type} {g : α → Noted ε β} {l : List α}
    {bs : List β} {b : β} (h : (each g l).result = .ok bs) (hb : b ∈ bs) :
    ∃ a ∈ l, (g a).result = .ok b := by
  induction result_each_eq_ok_iff.1 h with
  | nil => cases hb
  | @cons a c l' cs hac hrest ih =>
    rcases List.mem_cons.1 hb with rfl | hb
    · exact ⟨a, List.mem_cons_self, hac⟩
    · obtain ⟨a', ha', hb'⟩ := ih (result_each_eq_ok_iff.2 hrest) hb
      exact ⟨a', List.mem_cons_of_mem _ ha', hb'⟩

/-- **The fields of a resource that was read are sound.** -/
theorem Resource.sound_of_ofDefinitions {name plural : String} {definitions : List String}
    {softDeletes : Bool} {r : Resource}
    (h : (ofDefinitions name plural definitions softDeletes).result = .ok r) :
    ∀ f ∈ r.fields, f.Sound := by
  simp only [ofDefinitions, Field.parseAll, Noted.result_andThen_eq_ok_iff] at h
  obtain ⟨fields, hread, hbuild⟩ := h
  obtain ⟨-, -, -, hfields, -⟩ := Resource.build_eq_ok_iff.1 hbuild
  intro f hf
  rw [hfields] at hf
  obtain ⟨token, -, hparse⟩ := Noted.exists_mem_of_result_each hread hf
  exact Field.sound_of_parse hparse

end Groundwork
