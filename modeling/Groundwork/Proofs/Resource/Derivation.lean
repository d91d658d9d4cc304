import Groundwork.Commands
import Groundwork.Proofs.Field.Reading
import Groundwork.Proofs.Identifier.Words

/-!
# What is derived of a resource

A resource is refused for its name, then for its first repeated field; everything else about it
follows from what it is built from, whether the fields were read from tokens or not.

* `OnlySeparators`, **`nameless_iff`**: when nothing is left of a name.
* `Resource.Refuses`: why a name and fields make no resource.
* `Resource.usesGeneratedKey_iff`, `Resource.usesAutoIncrementKey_iff`,
  `Resource.usesConventionalKey_iff`: the conditions that the templates read, in terms of the
  fields. Each is one strategy, so at most one of them holds.
* `Resource.Derived`: what is derived of a name, a plural, fields and the wish for soft deletes.
* **`Resource.build_derived`**: what is refused is refused for these reasons, and what is built is
  what is derived.
-/

namespace Groundwork

open Text (clusters trim upperChar)

/-! ## Refusals -/

/-- **Each cluster of the name is a separator.** -/
def OnlySeparators (name : String) : Prop :=
  ∀ g ∈ clusters name.toList, g = ['_'] ∨ g = ['-'] ∨ g = [' ']

/-- **Nothing is left of a name** when it is blank or has only separators. -/
theorem nameless_iff {name : String} : Nameless name ↔ trim name = "" ∨ OnlySeparators name := by
  simp only [Nameless, OnlySeparators, Identifier.camel_eq_empty_iff, Identifier.isSeparator,
    Bool.or_eq_true, decide_eq_true_iff, or_assoc]

theorem firstRepeat?_map_eq_some_iff {α : Type} {nameOf : α → String} {items : List α}
    {n : String} :
    firstRepeat? (items.map nameOf) = some n ↔ ∃ before a after,
      items = before ++ a :: after ∧ (before.map nameOf).Nodup ∧
        nameOf a ∈ before.map nameOf ∧ n = nameOf a := by
  rw [firstRepeat?_eq_some_iff]
  constructor
  · rintro ⟨before, after, hitems, hnodup, hn⟩
    obtain ⟨bs, rest, rfl, rfl, hrest⟩ := List.map_eq_append_iff.1 hitems
    obtain ⟨a, as, rfl, rfl, -⟩ := List.map_eq_cons_iff.1 hrest
    exact ⟨bs, a, as, rfl, hnodup, hn, rfl⟩
  · rintro ⟨before, a, after, rfl, hnodup, hn, rfl⟩
    exact ⟨before.map nameOf, after.map nameOf, by simp, hnodup, hn⟩

namespace Resource

/-- **Why a name and fields make no resource.** The name comes first; of the fields it is the
earliest that repeats the name of one before it. -/
inductive Refuses (name : String) (fields : List Field) : Rejection → Prop
  | name (unnamed : trim name = "" ∨ OnlySeparators name) : Refuses name fields .emptyName
  | field {before after : List Field} {f : Field}
      (named : ¬ (trim name = "" ∨ OnlySeparators name)) (split : fields = before ++ f :: after)
      (distinct : (before.map (·.name)).Nodup) (again : f.name ∈ before.map (·.name)) :
      Refuses name fields (.duplicateField f.name)

variable {name plural : String} {fields : List Field} {softDeletes : Bool} {r : Resource}

theorem build_eq_error_iff_refuses {e : Rejection} :
    build name plural fields softDeletes = .error e ↔ Refuses name fields e := by
  rw [build_eq_error_iff, nameless_iff]
  constructor
  · rintro (⟨hname, rfl⟩ | ⟨hname, n, hn, rfl⟩)
    · exact .name hname
    · obtain ⟨before, f, after, hsplit, hdistinct, hagain, rfl⟩ :=
        firstRepeat?_map_eq_some_iff.1 hn
      exact .field hname hsplit hdistinct hagain
  · intro h
    cases h with
    | name hname => exact .inl ⟨hname, rfl⟩
    | field hname hsplit hdistinct hagain =>
      exact .inr ⟨hname, _, firstRepeat?_map_eq_some_iff.2
        ⟨_, _, _, hsplit, hdistinct, hagain, rfl⟩, rfl⟩

theorem exists_build_eq_ok_iff : (∃ r, build name plural fields softDeletes = .ok r) ↔
    ¬ (trim name = "" ∨ OnlySeparators name) ∧ (fields.map (·.name)).Nodup := by
  rw [← nameless_iff]
  constructor
  · rintro ⟨r, h⟩
    obtain ⟨hname, -, -, rfl, -⟩ := build_eq_ok_iff.1 h
    exact ⟨hname, r.distinct⟩
  · rintro ⟨hname, hdistinct⟩
    have hcamel : Identifier.camel name ≠ "" := fun h => hname (.inr h)
    exact ⟨⟨Identifier.camel name, plural, fields, softDeletes, hcamel, hdistinct⟩,
      build_eq_ok_iff.2 ⟨hname, rfl, rfl, rfl, rfl⟩⟩

/-! ## Key strategies -/

theorem mem_keyFields {f : Field} : f ∈ r.keyFields ↔ f ∈ r.fields ∧ f.isKey = true :=
  List.mem_filter

/-- **The keys are generated** exactly when a key is a uuid. -/
theorem usesGeneratedKey_iff :
    r.usesGeneratedKey = true ↔ ∃ f ∈ r.keyFields, f.type = .uuid := by
  have hany : r.keyFields.any (·.type = .uuid) = true ↔ ∃ f ∈ r.keyFields, f.type = .uuid := by simp
  rw [← hany, usesGeneratedKey, keyStrategy, decide_eq_true_iff]
  split_ifs with huuid <;> simp [huuid]

/-- **The keys are counted up** exactly when a key increments and none is a uuid. -/
theorem usesAutoIncrementKey_iff : r.usesAutoIncrementKey = true ↔
    (¬ ∃ f ∈ r.keyFields, f.type = .uuid) ∧ ∃ f ∈ r.keyFields, f.isIncrementing = true := by
  have hany : r.keyFields.any (·.type = .uuid) = true ↔ ∃ f ∈ r.keyFields, f.type = .uuid := by simp
  have hinc : r.keyFields.any (·.isIncrementing) = true ↔
      ∃ f ∈ r.keyFields, f.isIncrementing = true := by simp
  rw [← hany, ← hinc, usesAutoIncrementKey, keyStrategy, decide_eq_true_iff]
  split_ifs with huuid hcount <;> simp [*]

/-- **A column is added** exactly when no field is a key or has its name. -/
theorem usesConventionalKey_iff : r.usesConventionalKey = true ↔
    r.keyFields = [] ∧ ∀ f ∈ r.fields, f.name ≠ "id" := by
  have hid : r.fields.any (·.name = "id") = true ↔ ¬ ∀ f ∈ r.fields, f.name ≠ "id" := by simp
  rw [usesConventionalKey, keyStrategy, decide_eq_true_iff]
  cases hkeys : r.keyFields with
  | nil =>
    simp only [List.any_nil, Bool.false_eq_true, if_false, ne_eq, not_true_eq_false, true_and]
    split_ifs with hname
    · simpa using hid.1 hname
    · simpa using hname
  | cons f rest => split_ifs <;> simp_all

theorem keyFields_eq_nil_iff : r.keyFields = [] ↔ ∀ f ∈ r.fields, f.isKey = false := by
  simp [keyFields, List.filter_eq_nil_iff]

theorem count_conditions_le_one (r : Resource) :
    [r.usesGeneratedKey, r.usesAutoIncrementKey, r.usesConventionalKey].count true ≤ 1 := by
  unfold usesGeneratedKey usesAutoIncrementKey usesConventionalKey
  cases r.keyStrategy <;> decide

/-- **The strategy is told by the conditions**, and where none holds by whether there is a key. -/
theorem description_keyStrategy (r : Resource) : r.keyStrategy.description
    = if r.usesGeneratedKey then "generated by the application (uuid)"
      else if r.usesAutoIncrementKey then "auto-increment"
      else if r.usesConventionalKey then "default `id` column"
      else if r.keyFields = [] then "declared `id` column"
      else "explicit" := by
  have hexplicit : r.keyStrategy = .explicit → r.keyFields ≠ [] := by
    unfold keyStrategy
    split_ifs with _ _ hkeys <;> simp [*]
  have hdeclared : r.keyStrategy = .declared → r.keyFields = [] := by
    unfold keyStrategy
    split_ifs with _ _ hkeys <;> simp_all
  unfold usesGeneratedKey usesAutoIncrementKey usesConventionalKey
  cases h : r.keyStrategy with
  | generated => rfl
  | autoIncrement => rfl
  | explicit => simp [hexplicit h, KeyStrategy.description]
  | declared => simp [hdeclared h, KeyStrategy.description]
  | conventional => rfl

/-! ## Derivation -/

/-- **What is derived** of a name, a plural, fields and the wish for soft deletes. -/
structure Derived (name plural : String) (fields : List Field) (softDeletes : Bool)
    (r : Resource) : Prop where
  camelName : r.name = Identifier.camel name
  pascalName : ∃ c rest, r.name.toList = c :: rest ∧ r.pascalName.toList = upperChar c ++ rest
  plural_eq : r.plural = plural
  softDeletes_eq : r.softDeletes = softDeletes
  fields_eq : r.fields = fields
  keyFields : r.keyFields = fields.filter (·.isKey)
  generated : r.usesGeneratedKey = true ↔ ∃ f ∈ fields, f.isKey = true ∧ f.type = .uuid
  counted : r.usesAutoIncrementKey = true ↔ (∀ f ∈ fields, f.isKey = true → f.type ≠ .uuid) ∧
    ∃ f ∈ fields, f.isKey = true ∧ f.isIncrementing = true
  conventional : r.usesConventionalKey = true ↔
    (∀ f ∈ fields, f.isKey = false) ∧ ∀ f ∈ fields, f.name ≠ "id"
  exclusive : [r.usesGeneratedKey, r.usesAutoIncrementKey, r.usesConventionalKey].count true ≤ 1
  shown : r.outline[2]? = some ("Primary key: [" ++ ", ".intercalate (r.keyFields.map (·.name))
    ++ "] " ++
      if r.usesGeneratedKey then "generated by the application (uuid)"
      else if r.usesAutoIncrementKey then "auto-increment"
      else if r.usesConventionalKey then "default `id` column"
      else if ∀ f ∈ fields, f.isKey = false then "declared `id` column"
      else "explicit")

theorem derived_of_build (h : build name plural fields softDeletes = .ok r) :
    Derived name plural fields softDeletes r := by
  obtain ⟨-, hname, hplural, rfl, hsoft⟩ := build_eq_ok_iff.1 h
  have hpascal : ∃ c rest, r.name.toList = c :: rest ∧
      r.pascalName.toList = upperChar c ++ rest := by
    obtain ⟨c, rest, hchars⟩ := List.exists_cons_of_ne_nil (mt String.toList_eq_nil_iff.1 r.named)
    refine ⟨c, rest, hchars, ?_⟩
    rw [Resource.pascalName, Identifier.upperFirst, String.toList_ofList, hchars]
    rfl
  refine ⟨hname, hpascal, hplural, hsoft, rfl, rfl, ?_, ?_, ?_, count_conditions_le_one r, ?_⟩
  · simp only [usesGeneratedKey_iff, mem_keyFields, and_assoc]
  · simp only [usesAutoIncrementKey_iff, mem_keyFields, and_assoc, not_exists, not_and, ne_eq]
  · rw [usesConventionalKey_iff, keyFields_eq_nil_iff]
  · simp only [← keyFields_eq_nil_iff, ← description_keyStrategy]
    rfl

/-- **A resource is built of what is derived**, unless nothing is left of its name or a field
repeats the name of another. -/
theorem build_derived (name plural : String) (fields : List Field) (softDeletes : Bool) :
    (∀ e, build name plural fields softDeletes = .error e ↔ Refuses name fields e) ∧
    ((∃ r, build name plural fields softDeletes = .ok r) ↔
      ¬ (trim name = "" ∨ OnlySeparators name) ∧ (fields.map (·.name)).Nodup) ∧
    ∀ r, build name plural fields softDeletes = .ok r →
      Derived name plural fields softDeletes r :=
  ⟨fun _ => build_eq_error_iff_refuses, exists_build_eq_ok_iff, fun _ => derived_of_build⟩

end Resource

end Groundwork
