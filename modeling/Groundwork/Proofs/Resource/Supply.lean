import Groundwork.Proofs.Layout.Blocks
import Groundwork.Proofs.Layout.KeyDeclaration

/-!
# Where values come from

The value of a field comes from one of three places: a request supplies it, the database counts it
up, or the application makes it up. Three files divide the fields among these; that they agree
rests on what reading guarantees of a field.

* `Field.source`, `Resource.sourced`: where the value of a field comes from, and the fields of one
  source.
* **`Resource.suppliedOnce`**: the three files divide the fields by their sources.
* **`Resource.storable_iff`**: what a request supplies may be filled exactly when no key is
  supplied by it.
-/

namespace Groundwork

open Layout

/-! ## Sources -/

/-- **Where the value of a field comes from.** -/
inductive Source where
  /-- A request supplies it. -/
  | request
  /-- The database counts it up. -/
  | database
  /-- The application makes it up. -/
  | application
  deriving DecidableEq, Repr

namespace Field

variable {f : Field}

/-- The value of a field that increments is counted up, that of a uuid key is made up. -/
def source (f : Field) : Source :=
  if f.isIncrementing then .database
  else if f.isKey && f.type = .uuid then .application
  else .request

theorem source_eq_database_iff : f.source = .database ↔ f.isIncrementing = true := by
  unfold source
  split_ifs <;> simp_all

theorem source_eq_request_iff : f.source = .request ↔
    f.isIncrementing = false ∧ ¬ (f.isKey = true ∧ f.type = .uuid) := by
  unfold source
  split_ifs <;> simp_all

theorem Sound.source_eq_application_iff (h : f.Sound) :
    f.source = .application ↔ f.isKey = true ∧ f.type = .uuid := by
  have hinc : f.isIncrementing = true → f.type ≠ .uuid := fun hinc huuid =>
    FieldType.noConfusion ((h.integer hinc).symm.trans huuid)
  unfold source
  split_ifs <;> simp_all

end Field

namespace Resource

variable {r : Resource} {o : PlanOptions}

/-- **The fields of one source**, in order. -/
def sourced (r : Resource) (s : Source) : List Field := r.fields.filter (·.source = s)

/-- The fields that may be filled: all but the key. -/
def fillable (r : Resource) : List Field := r.fields.filter (!·.isKey)

theorem mem_sourced {f : Field} {s : Source} : f ∈ r.sourced s ↔ f ∈ r.fields ∧ f.source = s := by
  simp [sourced]

theorem sourced_database (r : Resource) : r.sourced .database = r.counted := by
  refine List.filter_congr fun f _ => ?_
  rw [Bool.eq_iff_iff, decide_eq_true_iff, Field.source_eq_database_iff]

theorem perm_sourced (r : Resource) :
    (r.sourced .request ++ r.sourced .database ++ r.sourced .application).Perm r.fields := by
  have hcount (f : Field) (s : Source) :
      (r.sourced s).count f = if f.source = s then r.fields.count f else 0 := by
    split_ifs with hs
    · exact List.count_filter (by simpa using hs)
    · exact List.count_eq_zero_of_not_mem fun hf => hs (mem_sourced.1 hf).2
  rw [List.perm_iff_count]
  intro f
  rw [List.count_append, List.count_append, hcount, hcount, hcount]
  cases f.source <;> simp

/-! ## The three files -/

section Lines

variable (hsound : ∀ f ∈ r.fields, f.Sound)

include hsound

theorem generated_iff {f : Field} (hf : f ∈ r.fields) :
    (r.usesGeneratedKey = true ∧ f.isKey = true ∧ f.type.text = "uuid") ↔
      f.isKey = true ∧ f.type = .uuid := by
  have htext : f.type.text = "uuid" ↔ f.type = .uuid := (hsound f hf).text_eq_iff (k := .uuid) rfl
  rw [htext]
  exact and_iff_right_of_imp fun ⟨hkey, huuid⟩ =>
    usesGeneratedKey_iff.2 ⟨f, mem_keyFields.2 ⟨hf, hkey⟩, huuid⟩

theorem ruleLines_eq : ruleBlock (r.lines o .controller)
    = (r.sourced .request).map fun f =>
      "        '" ++ Identifier.camel f.name ++ "' => '"
        ++ (if f.isNullable then "nullable" else "required") ++ "|"
        ++ (if f.type.text = "integer" then "integer" else if f.type.text = "boolean" then "boolean"
          else if f.type.text = "date" then "date" else "string")
        ++ "'," := by
  have hsupplies : ∀ f ∈ r.fields, (!f.isIncrementing &&
      !(r.usesGeneratedKey && f.isKey && f.type.text = "uuid")) = decide (f.source = .request) := by
    intro f hf
    have hnot := not_congr (generated_iff hsound hf)
    rw [Bool.eq_iff_iff, decide_eq_true_iff, Field.source_eq_request_iff, ← hnot]
    cases hgen : r.usesGeneratedKey <;> cases hkey : f.isKey <;> simp
  rw [ruleBlock_eq, ruleLines, List.filter_congr hsupplies]
  rfl

theorem hookLines_eq : hookBlock (r.lines o .model)
    = (r.sourced .application).flatMap fun f => [
      "            if (empty($model->" ++ f.name ++ ")) \x7b",
      "                $model->" ++ f.name ++ " = Uuid::uuid4()->toString();",
      "            \x7d"] := by
  have hsource : ∀ f ∈ r.fields, f.source = .application ↔
      r.usesGeneratedKey = true ∧ f.isKey = true ∧ f.type.text = "uuid" := fun f hf =>
    (hsound f hf).source_eq_application_iff.trans (generated_iff hsound hf).symm
  rw [hookBlock_eq]
  split_ifs with hgen
  · have hkeys : r.keyFields.filter (fun f => decide (f.type.text = "uuid"))
        = r.sourced .application := by
      unfold keyFields sourced
      rw [List.filter_filter]
      refine List.filter_congr fun f hf => ?_
      rw [Bool.eq_iff_iff, decide_eq_true_iff, hsource f hf, Bool.and_eq_true, decide_eq_true_iff,
        and_iff_right hgen, and_comm]
    rw [hkeys]
    rfl
  · have hnone : r.sourced .application = [] := List.eq_nil_iff_forall_not_mem.2 fun f hf => by
      obtain ⟨hf, happ⟩ := mem_sourced.1 hf
      exact hgen ((hsource f hf).1 happ).1
    rw [hnone, List.flatMap_nil]

end Lines

/-! ## One source for each field -/

/-- **Every value comes from one place.** The fields are divided among the sources, and each of the
three files holds the lines of one source, in the order of the fields, and no others; the migration
may add a key of its own. -/
structure SuppliedOnce (r : Resource) (o : PlanOptions) : Prop where
  fields :
    (r.sourced .request ++ r.sourced .database ++ r.sourced .application).Perm r.fields
  rules : ruleBlock (r.lines o .controller)
    = (r.sourced .request).map fun f =>
      "        '" ++ Identifier.camel f.name ++ "' => '"
        ++ (if f.isNullable then "nullable" else "required") ++ "|"
        ++ (if f.type.text = "integer" then "integer" else if f.type.text = "boolean" then "boolean"
          else if f.type.text = "date" then "date" else "string")
        ++ "',"
  columns : (r.lines o .migration).filter countsUp
    = (if r.usesConventionalKey then ["            $table->increments('id');"] else [])
      ++ (r.sourced .database).map fun f => "            $table->increments('" ++ f.name ++ "');"
  column : ∀ f ∈ r.fields, f.columnLine ∈ r.lines o .migration ∧
    (countsUp f.columnLine = true ↔ f.source = .database)
  hook : hookBlock (r.lines o .model)
    = (r.sourced .application).flatMap fun f => [
      "            if (empty($model->" ++ f.name ++ ")) \x7b",
      "                $model->" ++ f.name ++ " = Uuid::uuid4()->toString();",
      "            \x7d"]

variable {name plural : String} {definitions : List String} {softDeletes : Bool}

/-- **The value of every field that was read comes from one place.** -/
theorem suppliedOnce (h : (ofDefinitions name plural definitions softDeletes).result = .ok r)
    (hnames : ∀ f ∈ r.fields, NamesColumn f.type.text) (o : PlanOptions) :
    (∀ t, Renderer.standard t (templateParams r o t) = .ok ("\n".intercalate (r.lines o t))) ∧
      r.SuppliedOnce o := by
  have hsound := sound_of_ofDefinitions h
  have hcounted : ∀ f ∈ r.counted,
      f.columnLine = "            $table->increments('" ++ f.name ++ "');" :=
    fun f hf => Field.columnLine_of_isIncrementing (List.mem_filter.1 hf).2
  refine ⟨Renderer.standard_templateParams r o, perm_sourced r, ruleLines_eq hsound, ?_,
    fun f hf => ⟨columnLine_mem_migration hf, ?_⟩, hookLines_eq hsound⟩
  · rw [sourced_database, countingLines_eq hnames, List.map_congr_left hcounted]
  · rw [Field.countsUp_columnLine (hnames f hf), Field.source_eq_database_iff]

/-- A resource with a field of each source. -/
theorem suppliedOnce_of_each_source :
    let r : Resource := ⟨"cat", "cats", [⟨"id", .uuid, true, false, false⟩,
      ⟨"seq", .integer, true, true, false⟩, ⟨"body", .other "longText", false, false, false⟩],
      false, by decide, by decide⟩
    let o : PlanOptions := ⟨false, false, ⟨2024, 1, 2, 3, 4, 5⟩⟩
    let definitions := ["id:uuid:primary", "seq:integer:increments", "body:longText"]
    (ofDefinitions "cat" "cats" definitions false).result = .ok r ∧ r.SuppliedOnce o := by
  intro r o definitions
  have h : (ofDefinitions "cat" "cats" definitions false).result = .ok r := by decide +kernel
  exact ⟨h, (suppliedOnce h (by decide) o).2⟩

/-- **What a request supplies may be filled** exactly when it supplies no key: each key is counted
up or made up. -/
theorem storable_iff (h : (ofDefinitions name plural definitions softDeletes).result = .ok r)
    (o : PlanOptions) :
    (∀ t, Renderer.standard t (templateParams r o t) = .ok ("\n".intercalate (r.lines o t))) ∧
      ruleBlock (r.lines o .controller) = ((r.sourced .request).map fun f =>
        "        '" ++ Identifier.camel f.name ++ "' => '"
          ++ (if f.isNullable then "nullable" else "required") ++ "|"
          ++ (if f.type.text = "integer" then "integer"
            else if f.type.text = "boolean" then "boolean"
            else if f.type.text = "date" then "date" else "string")
          ++ "',") ∧
      fillableBlock (r.lines o .model) = (r.fillable.map fun f => "        '" ++ f.name ++ "',") ∧
      ((∀ f ∈ r.sourced .request, f ∈ r.fillable) ↔
        ∀ f ∈ r.keyFields, f.isIncrementing = true ∨ f.type = .uuid) := by
  refine ⟨Renderer.standard_templateParams r o, ruleLines_eq (sound_of_ofDefinitions h),
    r.fillableBlock_eq o, fun hfill f hf => ?_, fun hkeys f hf => ?_⟩
  · obtain ⟨hf, hkey⟩ := mem_keyFields.1 hf
    by_contra hneither
    rw [not_or, Bool.not_eq_true] at hneither
    have hrequest : f.source = .request :=
      Field.source_eq_request_iff.2 ⟨hneither.1, fun huuid => hneither.2 huuid.2⟩
    have hfillable := (List.mem_filter.1 (hfill f (mem_sourced.2 ⟨hf, hrequest⟩))).2
    rw [hkey] at hfillable
    cases hfillable
  · obtain ⟨hf, hrequest⟩ := mem_sourced.1 hf
    obtain ⟨hinc, hgenerated⟩ := Field.source_eq_request_iff.1 hrequest
    refine List.mem_filter.2 ⟨hf, ?_⟩
    rw [Bool.not_eq_true', Bool.eq_false_iff]
    intro hkey
    rcases hkeys f (mem_keyFields.2 ⟨hf, hkey⟩) with hinc' | huuid
    · exact Bool.false_ne_true (hinc.symm.trans hinc')
    · exact hgenerated ⟨hkey, huuid⟩

/-- A key that the application makes up is not filled, and not supplied either. -/
theorem storable_beside_uuid :
    let r : Resource := ⟨"cat", "cats", [⟨"id", .uuid, true, false, false⟩,
      ⟨"title", .string, false, false, false⟩], false, by decide, by decide⟩
    let definitions := ["id:uuid:primary", "title:string"]
    (ofDefinitions "cat" "cats" definitions false).result = .ok r ∧
      ∀ f ∈ r.sourced .request, f ∈ r.fillable := by
  intro r definitions
  have h : (ofDefinitions "cat" "cats" definitions false).result = .ok r := by decide +kernel
  exact ⟨h, (storable_iff h ⟨false, false, ⟨2024, 1, 2, 3, 4, 5⟩⟩).2.2.2.2 (by decide)⟩

/-- **A key of another type is supplied and cannot be filled.** -/
theorem not_storable_of_string_key :
    let r : Resource := ⟨"cat", "cats", [⟨"code", .string, true, false, false⟩], false, by decide,
      by decide⟩
    let o : PlanOptions := ⟨false, false, ⟨2024, 1, 2, 3, 4, 5⟩⟩
    (ofDefinitions "cat" "cats" ["code:string:primary"] false).result = .ok r ∧
      ruleBlock (r.lines o .controller) = ["        'code' => 'required|string',"] ∧
      fillableBlock (r.lines o .model) = [] := by
  intro r o
  have h : (ofDefinitions "cat" "cats" ["code:string:primary"] false).result = .ok r := by
    decide +kernel
  refine ⟨h, (ruleLines_eq (sound_of_ofDefinitions h)).trans ?_, (r.fillableBlock_eq o).trans rfl⟩
  decide +kernel

end Resource

end Groundwork
