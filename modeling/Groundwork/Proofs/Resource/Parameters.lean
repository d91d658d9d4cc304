import Groundwork.Proofs.Layout.Sections
import Groundwork.Proofs.Resource.Derivation

/-!
# What the parameters tell

A template sees the type of a field as its text alone, and what the text is compared with are the
names of the known types. For a resource that was read this loses nothing: no text that looks like a
known type stands for another one, so that each comparison agrees with the type itself. The
conditions that were decided on the types agree with the texts too, and the resource is read back
from its parameters.

* `FieldType.Tells`: a text tells a type.
* `Field.ShownBy`, `Field.TestedBy`: a value shows a field, and the tests of a template tell its
  type.
* **`Resource.params_tell`**: what the parameters of a resource that was read tell.
-/

namespace Groundwork

/-! ## Texts of types -/

/-- **The text tells the type**: the type is read back from it, and it is the name of a known type
exactly when it stands for that type. -/
structure FieldType.Tells (text : String) (type : FieldType) : Prop where
  read_back : ofText text = type
  names_iff : ∀ k : FieldType, k.isKnown = true → (text = k.text ↔ type = k)

namespace Field

variable {f : Field}

theorem Sound.tells (h : f.Sound) : FieldType.Tells f.type.text f.type :=
  ⟨h.type_text, fun _ => h.text_eq_iff⟩

/-- A type that was not read may look like another one. -/
example : FieldType.ofText (FieldType.other "uuid").text = .uuid := by decide

/-- **A value shows the field** when its entry for the type is a text that tells the type. -/
def ShownBy (f : Field) (v : Value) : Prop :=
  ∃ text, v.named? "type" = some (.text text) ∧ FieldType.Tells text f.type

/-- **The tests of a template tell the type** where a list has come to the value. -/
def TestedBy (f : Field) (v : Value) (ps : Params) : Prop :=
  ∀ k : FieldType, k.isKnown = true → ∀ last, ∃ b,
    (Page.hasType k.text).value? (Markup.bound "field" v last ps) = some (some (.boolean b)) ∧
      (b = true ↔ f.type = k)

theorem named?_type_record (f : Field) : f.record.named? "type" = some (.text f.type.text) := rfl

theorem Sound.shownBy_record (h : f.Sound) : f.ShownBy f.record :=
  ⟨f.type.text, f.named?_type_record, h.tells⟩

theorem Sound.testedBy_record (h : f.Sound) (ps : Params) : f.TestedBy f.record ps :=
  fun k hk last => ⟨f.type.text = k.text, value?_hasType f last ps k.text,
    decide_eq_true_iff.trans (h.text_eq_iff hk)⟩

theorem Sound.eq_of_record {g : Field} (h : f.Sound) (hg : g.Sound) (heq : g.record = f.record) :
    g = f := by
  simp only [record, Value.record.injEq, List.cons.injEq, Prod.mk.injEq, Value.text.injEq,
    Value.boolean.injEq, true_and, and_true] at heq
  obtain ⟨hname, htext, hkey, hincrementing, hnullable⟩ := heq
  have htype : g.type = f.type := by rw [← hg.type_text, htext, h.type_text]
  cases f
  cases g
  simp_all

theorem eq_of_map_record {fields fields' : List Field} (h : ∀ f ∈ fields, f.Sound)
    (h' : ∀ f ∈ fields', f.Sound) (heq : fields'.map record = fields.map record) :
    fields' = fields := by
  induction fields generalizing fields' with
  | nil => exact List.map_eq_nil_iff.1 heq
  | cons f rest ih =>
    obtain ⟨g, more, rfl, hrecord, hrest⟩ := List.map_eq_cons_iff.1 heq
    rw [List.forall_mem_cons] at h h'
    rw [h.1.eq_of_record h'.1 hrecord, ih h.2 h'.2 hrest]

end Field

/-! ## Parameters -/

namespace Resource

variable {r r' : Resource}

theorem eq_of_params_eq (hsound : ∀ f ∈ r.fields, f.Sound) (hsound' : ∀ f ∈ r'.fields, f.Sound)
    (h : r'.params = r.params) : r' = r := by
  have hrecords : r'.fields.map Field.record = r.fields.map Field.record := by
    have hlists : some (Value.list (r'.fields.map Field.record)) = some (.list _) :=
      congrArg (Keyed.get? · "fields") h
    exact Value.list.inj (Option.some.inj hlists)
  have hfields : r'.fields = r.fields := Field.eq_of_map_record hsound hsound' hrecords
  have hget (key : String) : r'.params.get? key = r.params.get? key := by rw [h]
  have hname : some (Value.text r'.name) = some (.text r.name) := hget "camelName"
  have hplural : some (Value.text r'.plural) = some (.text r.plural) := hget "pluralName"
  have hsoft : some (Value.boolean r'.softDeletes) = some (.boolean r.softDeletes) :=
    hget "softDeletesEnabled"
  simp only [Option.some.injEq, Value.text.injEq, Value.boolean.injEq] at hname hplural hsoft
  exact eq_of_parts hname hplural hfields hsoft

theorem usesGeneratedKey_iff_text (hsound : ∀ f ∈ r.fields, f.Sound) :
    r.usesGeneratedKey = true ↔
      ∃ v ∈ r.keyFields.map Field.record, v.named? "type" = some (.text "uuid") := by
  have htext : ∀ f ∈ r.keyFields, f.type = .uuid ↔
      f.record.named? "type" = some (.text "uuid") := by
    intro f hf
    have hsound := hsound f (mem_keyFields.1 hf).1
    rw [Field.named?_type_record, Option.some.injEq, Value.text.injEq]
    exact (hsound.text_eq_iff (k := .uuid) rfl).symm
  rw [usesGeneratedKey_iff]
  simp only [List.mem_map, exists_exists_and_eq_and]
  exact exists_congr fun f => and_congr_right (htext f)

/-- **What the parameters of a resource that was read tell.** Each field, and each key field, is
listed with a text that tells its type; so it is for every template, and there each test of a type
agrees with the type of the field. The condition of generated keys agrees with the texts of the key
fields, and there is one such resource for the parameters. -/
theorem params_tell {name plural : String} {definitions : List String} {softDeletes : Bool}
    (h : (ofDefinitions name plural definitions softDeletes).result = .ok r) :
    (∃ items, r.params.get? "fields" = some (.list items) ∧
      List.Forall₂ Field.ShownBy r.fields items) ∧
    (∃ keys b, r.params.get? "primaryKeyFields" = some (.list keys) ∧
      List.Forall₂ Field.ShownBy r.keyFields keys ∧
      r.params.get? "useGeneratedKey" = some (.boolean b) ∧
      (b = true ↔ ∃ v ∈ keys, v.named? "type" = some (.text "uuid"))) ∧
    (∀ o t, ∃ items keys,
      Keyed.get? (templateParams r o t) "fields" = some (.list items) ∧
      List.Forall₂ (fun f v => f.ShownBy v ∧ f.TestedBy v (templateParams r o t)) r.fields items ∧
      Keyed.get? (templateParams r o t) "primaryKeyFields" = some (.list keys) ∧
      List.Forall₂ (fun f v => f.ShownBy v ∧ f.TestedBy v (templateParams r o t)) r.keyFields
        keys) ∧
    ∀ name' plural' definitions' softDeletes' r',
      (ofDefinitions name' plural' definitions' softDeletes').result = .ok r' →
        r'.params = r.params → r' = r := by
  have hsound := sound_of_ofDefinitions h
  have hkeys : ∀ f ∈ r.keyFields, f.Sound := fun f hf => hsound f (mem_keyFields.1 hf).1
  have hshown {fields : List Field} (h : ∀ f ∈ fields, f.Sound) :
      List.Forall₂ Field.ShownBy fields (fields.map Field.record) :=
    List.forall₂_map_right_iff.2 (List.forall₂_same.2 fun f hf => (h f hf).shownBy_record)
  have htested {fields : List Field} (h : ∀ f ∈ fields, f.Sound) (ps : Params) :
      List.Forall₂ (fun f v => f.ShownBy v ∧ f.TestedBy v ps) fields (fields.map Field.record) :=
    List.forall₂_map_right_iff.2 (List.forall₂_same.2 fun f hf =>
      ⟨(h f hf).shownBy_record, (h f hf).testedBy_record ps⟩)
  refine ⟨⟨_, rfl, hshown hsound⟩,
    ⟨_, _, rfl, hshown hkeys, rfl, usesGeneratedKey_iff_text hsound⟩,
    fun o t => ⟨_, _, r.get?_fields o t, htested hsound _, r.get?_keyFields o t, htested hkeys _⟩,
    ?_⟩
  intro name' plural' definitions' softDeletes' r' h'
  exact eq_of_params_eq hsound (sound_of_ofDefinitions h')

/-- Types in any letter case, with blanks around them, beside one that is not known. -/
theorem params_tell_of_padded_types :
    let r : Resource := ⟨"cat", "cats", [⟨"id", .uuid, true, false, false⟩,
      ⟨"n", .integer, true, true, false⟩, ⟨"body", .other "longText", false, false, false⟩], true,
      by decide, by decide⟩
    let definitions := ["id: UuId :primary", "n:INTEGER:increments", "body:longText"]
    (ofDefinitions "cat" "cats" definitions true).result = .ok r ∧
      (∃ keys b, r.params.get? "primaryKeyFields" = some (.list keys) ∧
        List.Forall₂ Field.ShownBy r.keyFields keys ∧
        r.params.get? "useGeneratedKey" = some (.boolean b) ∧
        (b = true ↔ ∃ v ∈ keys, v.named? "type" = some (.text "uuid"))) ∧
      ∀ name' plural' definitions' softDeletes' r',
        (ofDefinitions name' plural' definitions' softDeletes').result = .ok r' →
          r'.params = r.params → r' = r := by
  intro r definitions
  have h : (ofDefinitions "cat" "cats" definitions true).result = .ok r := by decide +kernel
  obtain ⟨-, hkeys, -, hunique⟩ := params_tell h
  exact ⟨h, hkeys, hunique⟩

end Resource

end Groundwork
