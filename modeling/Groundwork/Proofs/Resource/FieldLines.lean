import Groundwork.Proofs.Layout.Blocks

/-!
# One line for each field

Seven blocks of the rendered files go through the fields of a resource. Each holds one line for each
field that it is about, in the order of the fields, and some have a line of their own before or
after these. There is nothing else in them, not even a blank line.

* `Resource.ListsFields`: what the seven blocks hold.
* **`Resource.lists_fields`**: this is what is read off the rendered texts.
-/

namespace Groundwork

open Layout

namespace Resource

variable {r : Resource} {o : PlanOptions}

/-- **One line for each field** in each of the seven blocks, and no blank one: what is counted up
has no entry and no rule, a key is not filled, and types are told by their text. -/
structure ListsFields (r : Resource) (file : Template → List String) : Prop where
  columns : columnBlock r.plural (file .migration)
    = (if r.usesConventionalKey then ["            $table->increments('id');"] else [])
      ++ r.fields.map (fun f => "            $table->"
        ++ (if f.isIncrementing then "increments" else if f.type.text = "date" then "timestampTz"
          else f.type.text)
        ++ "('" ++ f.name ++ "')"
        ++ if f.isNullable && !f.isIncrementing then "->nullable();" else ";")
      ++ if r.keyFields ≠ [] ∧ r.usesAutoIncrementKey = false then
        ["            $table->primary(["
          ++ ", ".intercalate (r.keyFields.map fun f => "'" ++ f.name ++ "'") ++ "]);"]
        else []
  entries : entryBlock (file .factory)
    = (r.fields.filter (!·.isIncrementing)).map fun f =>
      "        '" ++ f.name ++ "' => $faker->"
        ++ (if f.type.text = "uuid" then "uuid"
          else if f.type.text = "integer" then "randomNumber()"
          else if f.type.text = "boolean" then "boolean"
          else if f.type.text = "date" then "dateTime" else "word")
        ++ ","
  fillable : fillableBlock (file .model)
    = (r.fields.filter (!·.isKey)).map fun f => "        '" ++ f.name ++ "',"
  casts : castBlock (file .model)
    = (r.fields.filter fun f => f.type.text = "boolean" ∨ f.type.text = "integer").map
      fun f => "        '" ++ f.name ++ "' => '" ++ f.type.text ++ "',"
  dates : dateBlock (file .model)
    = (r.fields.filter fun f => f.type.text = "date").map fun f => "        '" ++ f.name ++ "',"
  array : arrayBlock (file .resource)
    = (if r.usesConventionalKey then ["            'id' => $this->id,"] else [])
      ++ r.fields.map (fun f => "            '" ++ Identifier.camel f.name ++ "' => "
        ++ if f.type.text = "date" then "optional($this->" ++ f.name ++ ")->toIso8601String(),"
          else if f.type.text = "boolean" then "(bool) $this->" ++ f.name ++ ","
          else "$this->" ++ f.name ++ ",")
      ++ ["            'createdAt' => optional($this->created_at)->toIso8601String(),",
        "            'updatedAt' => optional($this->updated_at)->toIso8601String(),"]
      ++ if r.softDeletes then
        ["            'deletedAt' => optional($this->deleted_at)->toIso8601String(),"] else []
  rules : ruleBlock (file .controller)
    = (r.fields.filter fun f => !f.isIncrementing &&
        !(r.usesGeneratedKey && f.isKey && f.type.text = "uuid")).map fun f =>
      "        '" ++ Identifier.camel f.name ++ "' => '"
        ++ (if f.isNullable then "nullable" else "required") ++ "|"
        ++ (if f.type.text = "integer" then "integer" else if f.type.text = "boolean" then "boolean"
          else if f.type.text = "date" then "date" else "string")
        ++ "',"
  filled : ∀ l ∈ columnBlock r.plural (file .migration) ++ entryBlock (file .factory)
      ++ fillableBlock (file .model) ++ castBlock (file .model) ++ dateBlock (file .model)
      ++ arrayBlock (file .resource) ++ ruleBlock (file .controller), ∃ c ∈ l.toList, c ≠ ' '

theorem listsFields (r : Resource) (o : PlanOptions) : r.ListsFields (r.lines o) where
  columns := r.columnBlock_eq o
  entries := r.entryBlock_eq o
  fillable := r.fillableBlock_eq o
  casts := r.castBlock_eq o
  dates := r.dateBlock_eq o
  array := r.arrayBlock_eq o
  rules := r.ruleBlock_eq o
  filled := by
    have hcolumns : filled Page.columns.flatten = true := by decide +kernel
    have hentries : filled Page.entries = true := by decide +kernel
    have hfillable : filled Page.fillable = true := by decide +kernel
    have hcasts : filled Page.casts = true := by decide +kernel
    have hdates : filled Page.dates = true := by decide +kernel
    have harray : filled Page.array.flatten = true := by decide +kernel
    have hrules : filled Page.rules = true := by decide +kernel
    rw [r.columnBlock_eq, r.entryBlock_eq, r.fillableBlock_eq, r.castBlock_eq, r.dateBlock_eq,
      r.arrayBlock_eq, r.ruleBlock_eq]
    simp only [List.forall_mem_append]
    exact ⟨⟨⟨⟨⟨⟨exists_ne_blank_of_filled hcolumns (r.linesOf?_columns o .migration),
      exists_ne_blank_of_filled hentries (r.linesOf?_entries o .factory)⟩,
      exists_ne_blank_of_filled hfillable (r.linesOf?_fillable o .model)⟩,
      exists_ne_blank_of_filled hcasts (r.linesOf?_casts o .model)⟩,
      exists_ne_blank_of_filled hdates (r.linesOf?_dates o .model)⟩,
      exists_ne_blank_of_filled harray (r.linesOf?_array o .resource)⟩,
      exists_ne_blank_of_filled hrules (r.linesOf?_rules o .controller)⟩

/-- **The rendered texts list the fields**, one line for each, in the order of the fields. -/
theorem lists_fields (h : r.OneLine) (o : PlanOptions) :
    ∃ file : Template → List String,
      (∀ t, ∃ text, Renderer.standard t (templateParams r o t) = .ok text ∧
        Text.textLines text = file t) ∧
      r.ListsFields file :=
  ⟨r.lines o, textLines_standard h o, listsFields r o⟩

/-- A table with a uuid key, a nullable date and an incrementing column, whose nullable mark is not
shown. -/
theorem lists_fields_of_posts :
    let r : Resource := ⟨"post", "posts", [⟨"id", .uuid, true, false, false⟩,
      ⟨"sent_on", .date, false, false, true⟩, ⟨"seq", .integer, true, true, true⟩], false,
      by decide, by decide⟩
    let o : PlanOptions := ⟨false, false, ⟨2024, 1, 2, 3, 4, 5⟩⟩
    r.OneLine ∧ ∃ file : Template → List String,
      (∀ t, ∃ text, Renderer.standard t (templateParams r o t) = .ok text ∧
        Text.textLines text = file t) ∧
      columnBlock "posts" (file .migration) = [
        "            $table->uuid('id');",
        "            $table->timestampTz('sent_on')->nullable();",
        "            $table->increments('seq');",
        "            $table->primary(['id', 'seq']);"] ∧
      entryBlock (file .factory) = [
        "        'id' => $faker->uuid,",
        "        'sent_on' => $faker->dateTime,"] ∧
      fillableBlock (file .model) = ["        'sent_on',"] ∧
      castBlock (file .model) = ["        'seq' => 'integer',"] ∧
      dateBlock (file .model) = ["        'sent_on',"] ∧
      arrayBlock (file .resource) = [
        "            'id' => $this->id,",
        "            'sentOn' => optional($this->sent_on)->toIso8601String(),",
        "            'seq' => $this->seq,",
        "            'createdAt' => optional($this->created_at)->toIso8601String(),",
        "            'updatedAt' => optional($this->updated_at)->toIso8601String(),"] ∧
      ruleBlock (file .controller) = ["        'sentOn' => 'nullable|date',"] := by
  intro r o
  have h : r.OneLine := ⟨by decide, by decide, by decide⟩
  obtain ⟨file, htexts, hlists⟩ := lists_fields h o
  refine ⟨h, file, htexts, hlists.columns.trans ?_, hlists.entries.trans ?_,
    hlists.fillable.trans ?_, hlists.casts.trans ?_, hlists.dates.trans ?_, hlists.array.trans ?_,
    hlists.rules.trans ?_⟩ <;> decide +kernel

end Resource

end Groundwork
