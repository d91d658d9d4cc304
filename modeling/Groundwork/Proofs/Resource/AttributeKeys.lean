import Groundwork.Proofs.Identifier.Pieces
import Groundwork.Proofs.Layout.Columns
import Groundwork.Proofs.Refusal

/-!
# The keys of attributes

An answer shows each attribute of a resource under a key, and each value that a request supplies is
validated under one. The names of the fields differ, but the keys are their camel case, and beside
them stand the keys of a conventional key and of the time stamps. A key that stands twice in an
array hides an attribute.

* `Resource.attributes`, `Resource.supplied`: what is shown, and what is validated.
* **`Resource.keys_nodup_iff`**: the keys differ exactly when the pieces of the names do.
-/

namespace Groundwork

namespace Layout

/-! ## Reading keys -/

/-- **The keys of the array** that a resource returns. -/
def arrayKeys (lines : List String) : List String :=
  (arrayBlock lines).filterMap (nameAfter? "            '")

/-- **The keys of the rules** of a controller. -/
def ruleKeys (lines : List String) : List String :=
  (ruleBlock lines).filterMap (nameAfter? "        '")

theorem nameAfter?_arrayLine {f : Field} (h : '\'' ∉ (Identifier.camel f.name).toList) :
    nameAfter? "            '" f.arrayLine = some (Identifier.camel f.name) := by
  have harrow : "' => " = "'" ++ " => " := rfl
  unfold Field.arrayLine
  simp only [harrow, String.append_assoc]
  exact nameAfter?_append h

theorem nameAfter?_ruleLine {f : Field} (h : '\'' ∉ (Identifier.camel f.name).toList) :
    nameAfter? "        '" f.ruleLine = some (Identifier.camel f.name) := by
  have harrow : "' => '" = "'" ++ " => '" := rfl
  unfold Field.ruleLine
  simp only [harrow, String.append_assoc]
  exact nameAfter?_append h

end Layout

open Identifier (IsPlain camel pieces)

namespace Resource

open Layout

variable {r : Resource} {o : PlanOptions}

/-- **The attributes that an answer shows**, each by the name of its column. -/
def attributes (r : Resource) : List String :=
  (if r.usesConventionalKey then ["id"] else []) ++ r.fields.map (·.name)
    ++ ["created_at", "updated_at"] ++ if r.softDeletes then ["deleted_at"] else []

/-- **The fields that a request supplies**, as the controller sees them. -/
def supplied (r : Resource) : List Field :=
  r.fields.filter fun f =>
    !f.isIncrementing && !(r.usesGeneratedKey && f.isKey && f.type.text = "uuid")

section Keys

variable (hplain : ∀ f ∈ r.fields, IsPlain f.name.toList)

include hplain

theorem quote_not_mem_camel : ∀ f ∈ r.fields, '\'' ∉ (camel f.name).toList := by
  intro f hf hquote
  rw [camel, String.toList_ofList] at hquote
  have halnum := (hplain f hf).isAlphanum_of_mem_camelChars hquote
  revert halnum
  decide

theorem arrayKeys_eq : arrayKeys (r.lines o .resource) = r.attributes.map camel := by
  have hid : nameAfter? "            '" "            'id' => $this->id," = some (camel "id") := by
    decide
  have hcreated : nameAfter? "            '"
      "            'createdAt' => optional($this->created_at)->toIso8601String(),"
        = some (camel "created_at") := by decide
  have hupdated : nameAfter? "            '"
      "            'updatedAt' => optional($this->updated_at)->toIso8601String(),"
        = some (camel "updated_at") := by decide
  have hdeleted : nameAfter? "            '"
      "            'deletedAt' => optional($this->deleted_at)->toIso8601String(),"
        = some (camel "deleted_at") := by decide
  have hfield : ∀ f ∈ r.fields,
      (nameAfter? "            '" ∘ Field.arrayLine) f = some (camel f.name) := by
    intro f hf
    rw [Function.comp_apply, nameAfter?_arrayLine (quote_not_mem_camel hplain f hf)]
  rw [arrayKeys, arrayBlock_eq, arrayLines, List.filterMap_append, List.filterMap_append,
    List.filterMap_append, List.filterMap_map, List.filterMap_congr hfield,
    List.filterMap_eq_map', attributes]
  split_ifs <;> simp [hid, hcreated, hupdated, hdeleted]

theorem ruleKeys_eq :
    ruleKeys (r.lines o .controller) = r.supplied.map fun f => camel f.name := by
  have hrule : ∀ f ∈ r.supplied,
      (nameAfter? "        '" ∘ Field.ruleLine) f = some (camel f.name) := by
    intro f hf
    rw [Function.comp_apply,
      nameAfter?_ruleLine (quote_not_mem_camel hplain f (List.mem_of_mem_filter hf))]
  have hrules : r.ruleLines = r.supplied.map Field.ruleLine := rfl
  rw [ruleKeys, ruleBlock_eq, hrules, List.filterMap_map, List.filterMap_congr hrule,
    List.filterMap_eq_map']

theorem isPlain_of_mem_attributes : ∀ a ∈ r.attributes, IsPlain a.toList := by
  unfold attributes
  simp only [List.forall_mem_append, List.forall_mem_map, List.forall_mem_cons, List.not_mem_nil,
    false_imp_iff, implies_true, and_true]
  refine ⟨⟨⟨?_, hplain⟩, by decide, by decide⟩, ?_⟩ <;> split_ifs <;> decide

end Keys

theorem nodup_map_iff_nodup_map {α β γ : Type} {l : List α} {f : α → β} {g : α → γ}
    (h : ∀ a ∈ l, ∀ b ∈ l, f a = f b ↔ g a = g b) : (l.map f).Nodup ↔ (l.map g).Nodup := by
  rw [List.Nodup, List.Nodup, List.pairwise_map, List.pairwise_map]
  exact List.Pairwise.iff_of_mem fun ha hb => not_congr (h _ ha _ hb)

/-- **No key stands twice** in the array of an answer exactly when no two attributes have the same
pieces, and none in the rules exactly when no two supplied fields do. -/
theorem keys_nodup_iff {name plural : String} {fields : List Field} {softDeletes : Bool}
    (h : build name plural fields softDeletes = .ok r)
    (hplain : ∀ f ∈ fields, IsPlain f.name.toList) (o : PlanOptions) :
    (∀ t, Renderer.standard t (templateParams r o t) = .ok ("\n".intercalate (r.lines o t))) ∧
      arrayKeys (r.lines o .resource) = r.attributes.map camel ∧
      ((arrayKeys (r.lines o .resource)).Nodup ↔
        (r.attributes.map fun a => pieces a.toList).Nodup) ∧
      ruleKeys (r.lines o .controller) = (r.supplied.map fun f => camel f.name) ∧
      ((ruleKeys (r.lines o .controller)).Nodup ↔
        (r.supplied.map fun f => pieces f.name.toList).Nodup) := by
  obtain ⟨-, -, -, rfl, -⟩ := build_eq_ok_iff.1 h
  refine ⟨Renderer.standard_templateParams r o, arrayKeys_eq hplain, ?_, ruleKeys_eq hplain, ?_⟩
  · have hattributes := isPlain_of_mem_attributes hplain
    rw [arrayKeys_eq hplain]
    exact nodup_map_iff_nodup_map fun a ha b hb =>
      Identifier.camel_eq_camel_iff (hattributes a ha) (hattributes b hb)
  · have hsupplied : ∀ f ∈ r.supplied, IsPlain f.name.toList :=
      fun f hf => hplain f (List.mem_of_mem_filter hf)
    rw [ruleKeys_eq hplain]
    exact nodup_map_iff_nodup_map fun f hf g hg =>
      Identifier.camel_eq_camel_iff (hsupplied f hf) (hsupplied g hg)

/-- Attributes whose keys differ. -/
theorem keys_nodup_of_title :
    let fields : List Field := [⟨"title", .string, false, false, false⟩,
      ⟨"line_2", .string, false, false, true⟩, ⟨"posted_on", .date, false, false, false⟩]
    let r : Resource := ⟨"cat", "cats", fields, true, by decide, by decide⟩
    let o : PlanOptions := ⟨false, false, ⟨2024, 1, 2, 3, 4, 5⟩⟩
    build "cat" "cats" fields true = .ok r ∧ (∀ f ∈ fields, IsPlain f.name.toList) ∧
      (arrayKeys (r.lines o .resource)).Nodup ∧ (ruleKeys (r.lines o .controller)).Nodup := by
  intro fields r o
  have h : build "cat" "cats" fields true = .ok r := rfl
  have hplain : ∀ f ∈ fields, IsPlain f.name.toList := by decide
  obtain ⟨-, -, harray, -, hrules⟩ := keys_nodup_iff h hplain o
  exact ⟨h, hplain, harray.2 (by decide), hrules.2 (by decide)⟩

/-- **Fields of different names share a key** when their names have one camel case; so does a field
whose key is that of the conventional key, which only the name `id` takes the place of. -/
theorem keys_not_nodup :
    let fields : List Field := [⟨"foo_bar", .string, false, false, false⟩,
      ⟨"fooBar", .string, false, false, false⟩]
    let r : Resource := ⟨"cat", "cats", fields, false, by decide, by decide⟩
    let fields' : List Field := [⟨"Id", .string, false, false, false⟩]
    let r' : Resource := ⟨"cat", "cats", fields', false, by decide, by decide⟩
    let o : PlanOptions := ⟨false, false, ⟨2024, 1, 2, 3, 4, 5⟩⟩
    (build "cat" "cats" fields false = .ok r ∧ ¬ (arrayKeys (r.lines o .resource)).Nodup ∧
      ¬ (ruleKeys (r.lines o .controller)).Nodup) ∧
    build "cat" "cats" fields' false = .ok r' ∧ ¬ (arrayKeys (r'.lines o .resource)).Nodup := by
  intro fields r fields' r' o
  have hplain : ∀ f ∈ fields, IsPlain f.name.toList := by decide
  have hplain' : ∀ f ∈ fields', IsPlain f.name.toList := by decide
  refine ⟨⟨rfl, ?_, ?_⟩, rfl, ?_⟩
  · rw [arrayKeys_eq hplain]
    decide
  · rw [ruleKeys_eq hplain]
    decide
  · rw [arrayKeys_eq hplain']
    decide

end Resource

end Groundwork
