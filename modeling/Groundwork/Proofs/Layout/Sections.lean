import Groundwork.Proofs.Layout.Lines

/-!
# What the sections come to

Some sections of the templates go through the fields of a resource, or stand under a condition. What
such a section comes to can be told from the resource alone: lines under a condition come to their
lines or to nothing, lines for each field to what they come to for each of them.

* `Field.columnLine`, `Resource.columnLines` and their companions: the lines of a field, and those
  of a section.
* **`linesOf?_onlyWhen`**, **`linesOf?_eachField`**: what the two ways to repeat or leave out lines
  come to.
* **`Resource.linesOf?_columns`** and its companions: each section comes to its lines.
-/

namespace Groundwork

open Markup

/-! ## The lines of a field -/

namespace Field

/-- The line that adds the column. What is counted up is never marked as nullable. -/
def columnLine (f : Field) : String :=
  "            $table->"
    ++ (if f.isIncrementing then "increments" else if f.type.text = "date" then "timestampTz"
      else f.type.text)
    ++ "('" ++ f.name ++ "')" ++ if f.isNullable && !f.isIncrementing then "->nullable();" else ";"

/-- The line of a made-up value. -/
def entryLine (f : Field) : String :=
  "        '" ++ f.name ++ "' => $faker->"
    ++ (if f.type.text = "uuid" then "uuid"
      else if f.type.text = "integer" then "randomNumber()"
      else if f.type.text = "boolean" then "boolean"
      else if f.type.text = "date" then "dateTime" else "word")
    ++ ","

/-- The line in a list of names. -/
def listLine (f : Field) : String := "        '" ++ f.name ++ "',"

/-- The line of a cast to the type. -/
def castLine (f : Field) : String := "        '" ++ f.name ++ "' => '" ++ f.type.text ++ "',"

/-- The line in an answer, under the camel-case name. -/
def arrayLine (f : Field) : String :=
  "            '" ++ Identifier.camel f.name ++ "' => "
    ++ if f.type.text = "date" then "optional($this->" ++ f.name ++ ")->toIso8601String(),"
      else if f.type.text = "boolean" then "(bool) $this->" ++ f.name ++ ","
      else "$this->" ++ f.name ++ ","

/-- The line of a rule, under the camel-case name. -/
def ruleLine (f : Field) : String :=
  "        '" ++ Identifier.camel f.name ++ "' => '"
    ++ (if f.isNullable then "nullable" else "required") ++ "|"
    ++ (if f.type.text = "integer" then "integer" else if f.type.text = "boolean" then "boolean"
      else if f.type.text = "date" then "date" else "string")
    ++ "',"

/-- The lines that make up a key. -/
def hookLines (f : Field) : List String := [
  "            if (empty($model->" ++ f.name ++ ")) \x7b",
  "                $model->" ++ f.name ++ " = Uuid::uuid4()->toString();",
  "            \x7d"]

end Field

/-! ## The lines of a section -/

namespace Resource

variable (r : Resource)

/-- The line that declares the key. -/
def keyLine : String :=
  "            $table->primary(["
    ++ ", ".intercalate (r.keyFields.map fun f => "'" ++ f.name ++ "'") ++ "]);"

/-- The lines of the columns, with those of the key. -/
def columnLines : List String :=
  (if r.usesConventionalKey then ["            $table->increments('id');"] else [])
    ++ r.fields.map Field.columnLine
    ++ if r.keyFields ≠ [] ∧ r.usesAutoIncrementKey = false then [r.keyLine] else []

/-- What is counted up has no made-up value. -/
def entryLines : List String := (r.fields.filter (!·.isIncrementing)).map Field.entryLine

/-- A key is not filled. -/
def fillableLines : List String := (r.fields.filter (!·.isKey)).map Field.listLine

/-- Truth values and numbers are cast. -/
def castLines : List String :=
  (r.fields.filter fun f => f.type.text = "boolean" ∨ f.type.text = "integer").map Field.castLine

/-- The lines of the dates. -/
def dateLines : List String := (r.fields.filter fun f => f.type.text = "date").map Field.listLine

/-- The lines that make up the keys. -/
def bootLines : List String :=
  if r.usesGeneratedKey then
    ["", "    protected static function boot()", "    \x7b", "        parent::boot();", "",
      "        static::creating(function (self $model) \x7b"]
    ++ ((r.keyFields.filter fun f => f.type.text = "uuid").flatMap Field.hookLines
    ++ ["        \x7d);", "    \x7d"])
  else []

/-- The lines of an answer, with those of the time stamps. -/
def arrayLines : List String :=
  (if r.usesConventionalKey then ["            'id' => $this->id,"] else [])
    ++ r.fields.map Field.arrayLine
    ++ ["            'createdAt' => optional($this->created_at)->toIso8601String(),",
      "            'updatedAt' => optional($this->updated_at)->toIso8601String(),"]
    ++ if r.softDeletes then
      ["            'deletedAt' => optional($this->deleted_at)->toIso8601String(),"] else []

/-- What is counted up or made up has no rule. -/
def ruleLines : List String :=
  (r.fields.filter fun f => !f.isIncrementing &&
    !(r.usesGeneratedKey && f.isKey && f.type.text = "uuid")).map Field.ruleLine

end Resource

/-! ## Going through lists -/

section Loops

variable {β γ : Type}

theorem each?_map {g : Value → Bool → Option (List β)} {v : γ → Value} {k : γ → List β}
    {items : List γ} (h : ∀ a ∈ items, ∀ last, g (v a) last = some (k a)) :
    each? g (items.map v) = some (items.flatMap k) := by
  induction items with
  | nil => rfl
  | cons a rest ih =>
    rw [List.forall_mem_cons] at h
    rw [List.map_cons, each?, h.1, ih h.2, List.flatMap_cons]
    rfl

theorem flatMap_filter (p : γ → Bool) (k : γ → List β) (items : List γ) :
    (items.filter p).flatMap k = items.flatMap fun a => if p a then k a else [] := by
  induction items with
  | nil => rfl
  | cons a rest ih =>
    rw [List.flatMap_cons, ← ih, List.filter_cons]
    split_ifs <;> rfl

theorem map_filter_eq_flatMap (p : γ → Bool) (k : γ → β) (items : List γ) :
    (items.filter p).map k = items.flatMap fun a => if p a then [k a] else [] := by
  rw [List.map_eq_flatMap, flatMap_filter]

theorem join_each?_eq_intercalate {g : Value → Bool → Option (List String)} {v : γ → Value}
    {word : γ → String} {separator : String}
    (h : ∀ a last, (g (v a) last).map String.join
      = some (word a ++ if last then "" else separator)) (items : List γ) :
    (each? g (items.map v)).map String.join = some (separator.intercalate (items.map word)) := by
  induction items with
  | nil => rfl
  | cons a rest ih =>
    obtain ⟨texts, htexts, hwords⟩ := Option.map_eq_some_iff.1 ih
    obtain ⟨first, hfirst, hword⟩ := Option.map_eq_some_iff.1 (h a (rest.map v).isEmpty)
    have hboth : joined? (some first) (some texts) = some (first ++ texts) := rfl
    rw [List.map_cons, each?, hfirst, htexts, hboth, Option.map_some, String.join_append, hword,
      hwords]
    cases rest with
    | nil => simp
    | cons b rest => simp [String.append_assoc]

end Loops

/-- The values where a list has come to a field. -/
def fieldParams (f : Field) (last : Bool) (ps : Params) : Params := bound "field" f.record last ps

section Combinators

variable {body : List Line} {ps : Params}

theorem ofLines?_between {first last : Line} {start finish : Tag} {sheet t : Sheet}
    (hfirst : first.item? = some (.tag start)) (hlast : last.item? = some (.tag finish))
    (hbody : Sheet.ofLines? body = some sheet) {m : Nest Form}
    (hfinish : (Nest.top .done).add? (.tag finish) = some m)
    (hstart : (m.extend sheet.graft).add? (.tag start) = some (.top t)) :
    Sheet.ofLines? (first :: (body ++ [last])) = some t := by
  obtain ⟨items, hitems, hnest⟩ := Option.bind_eq_some_iff.1 hbody
  have hall : (first :: (body ++ [last])).mapM Line.item?
      = some (.tag start :: (items ++ [.tag finish])) := by
    simp [List.mapM_cons, List.mapM_append, hfirst, hlast, hitems]
  rw [Sheet.ofLines?, hall, Option.bind_some, Tree.ofItems?_eq_some_iff, Nest.addAll?,
    Nest.addAll?_append, Nest.addAll?, Nest.addAll?, Option.bind_some, hfinish, Option.bind_some,
    Nest.addAll?_of_ofItems? hnest, Option.bind_some, hstart]

theorem ofLines?_onlyWhen {c : Expr} {sheet : Sheet} (h : Sheet.ofLines? body = some sheet) :
    Sheet.ofLines? (Page.onlyWhen c body) = some (.choice c (sheet.graft .done) .done .done) :=
  ofLines?_between rfl rfl h rfl rfl

theorem ofLines?_eachField {list : String} {sheet : Sheet} (h : Sheet.ofLines? body = some sheet) :
    Sheet.ofLines? (Page.eachField list body)
      = some (.each "field" (.name list) (sheet.graft .done) .done) :=
  ofLines?_between rfl rfl h rfl rfl

theorem joined?_nil_right {β : Type} (a : Option (List β)) : joined? a (some []) = a := by
  cases a <;> simp [joined?]

/-- **Lines under a condition** come to what they come to, or to nothing. -/
theorem linesOf?_onlyWhen {c : Expr} {b : Bool} {ls : List String}
    (hc : (c.value? ps).map isTruthy = some b) (hbody : linesOf? body ps = some ls) :
    linesOf? (Page.onlyWhen c body) ps = some (if b then ls else []) := by
  obtain ⟨sheet, hsheet, hlines⟩ := Option.bind_eq_some_iff.1 hbody
  obtain ⟨v, hv, rfl⟩ := Option.map_eq_some_iff.1 hc
  have hgraft : Sheet.lines? (sheet.graft .done) ps = some ls :=
    ((Tree.eval?_graft _ _ ps).trans (joined?_nil_right _)).trans hlines
  rw [linesOf?, ofLines?_onlyWhen hsheet, Option.bind_some]
  refine (joined?_nil_right _).trans ?_
  rw [hv, Option.bind_some, apply_ite some]
  exact if_congr Iff.rfl hgraft rfl

theorem linesOf?_onlyWhen_name {x : String} {b : Bool} {ls : List String}
    (hx : ps.get? x = some (.boolean b)) (hbody : linesOf? body ps = some ls) :
    linesOf? (Page.onlyWhen (.name x) body) ps = some (if b then ls else []) :=
  linesOf?_onlyWhen (by rw [Expr.value?, hx]; rfl) hbody

/-- **Lines for each field** come to what they come to for each of them. -/
theorem linesOf?_eachField (h : (Sheet.ofLines? body).isSome) {list : String} {fields : List Field}
    (hlist : ps.get? list = some (.list (fields.map Field.record))) {k : Field → List String}
    (hbody : ∀ f last, linesOf? body (fieldParams f last ps) = some (k f)) :
    linesOf? (Page.eachField list body) ps = some (fields.flatMap k) := by
  obtain ⟨sheet, hsheet⟩ := Option.isSome_iff_exists.1 h
  have hgraft (qs : Params) : Sheet.lines? (sheet.graft .done) qs = linesOf? body qs := by
    rw [linesOf?, hsheet]
    exact (Tree.eval?_graft _ _ qs).trans (joined?_nil_right _)
  have heach : each? (fun v last => Sheet.lines? (sheet.graft .done) (bound "field" v last ps))
      (fields.map Field.record) = some (fields.flatMap k) :=
    each?_map fun f _ last => (hgraft _).trans (hbody f last)
  rw [linesOf?, ofLines?_eachField hsheet, Option.bind_some, Sheet.lines?, Tree.eval?, Expr.value?,
    hlist]
  exact (joined?_nil_right _).trans heach

end Combinators

/-! ## Single lines -/

section Sheets

variable {ps : Params}

@[simp] theorem joined?_some {β : Type} (l m : List β) :
    joined? (some l) (some m) = some (l ++ m) := rfl

@[simp] theorem isTruthy_boolean (b : Bool) : isTruthy (some (.boolean b)) = b := rfl

@[simp] theorem item?_tag (t : Tag) : Line.item? [.tag t] = some (.tag t) := rfl

@[simp] theorem item?_nil : Line.item? [] = some (.content .done) := rfl

@[simp] theorem item?_text (t : String) :
    Line.item? [.content (.text t)] = some (.content (.content (.text t) .done)) := rfl

@[simp] theorem item?_text_output (t : String) (e : Expr) (rest : Line) :
    Line.item? (.content (.text t) :: .content (.output e) :: rest)
      = match rest.getLast?.getD (.content (.output e)) with
        | .tag _ => none
        | _ =>
          (Tree.ofItems? (.content (.text t) :: .content (.output e) :: rest)).map .content := by
  have htrim : Line.trimStart (.content (.text t) :: .content (.output e) :: rest)
      = .content (.text t) :: .content (.output e) :: rest := rfl
  unfold Line.item?
  rw [htrim, List.getLast?_cons_cons, List.getLast?_cons]
  cases rest.getLast?.getD (.content (.output e)) <;> rfl

@[simp] theorem text?_eq (p : Form) :
    p.text? ps = (Tree.eval? Part.texts? p ps).map String.join := rfl

@[simp] theorem lines?_done : Sheet.lines? .done ps = some [] := rfl

@[simp] theorem lines?_content (p : Form) (next : Sheet) :
    Sheet.lines? (.content p next) ps
      = joined? ((p.text? ps).map ([·])) (Sheet.lines? next ps) := rfl

@[simp] theorem lines?_choice (e : Expr) (yes no next : Sheet) :
    Sheet.lines? (.choice e yes no next) ps
      = joined? ((e.value? ps).bind fun v => if isTruthy v then Sheet.lines? yes ps
        else Sheet.lines? no ps) (Sheet.lines? next ps) := rfl

end Sheets

/-! ## Lines one after another -/

section Joining

variable {lines more : List Line} {ps : Params} {ls ms : List String}

theorem linesOf?_append_eq (h : linesOf? lines ps = some ls) (h' : linesOf? more ps = some ms) :
    linesOf? (lines ++ more) ps = some (ls ++ ms) := by
  obtain ⟨sheet, hsheet, -⟩ := Option.bind_eq_some_iff.1 h
  obtain ⟨sheet', hsheet', -⟩ := Option.bind_eq_some_iff.1 h'
  rw [linesOf?_append (Option.isSome_iff_exists.2 ⟨_, hsheet⟩)
    (Option.isSome_iff_exists.2 ⟨_, hsheet'⟩), h, h', joined?_some]

theorem linesOf?_nil (ps : Params) : linesOf? [] ps = some [] := rfl

theorem linesOf?_written (s : String) (ps : Params) :
    linesOf? (Page.written s) ps = some [s] := by
  simp [linesOf?, Sheet.ofLines?, Page.written, Tree.ofItems?]

theorem linesOf?_text_cons (s : String) (h : linesOf? more ps = some ms) :
    linesOf? ([.content (.text s)] :: more) ps = some (s :: ms) :=
  linesOf?_append_eq (linesOf?_written s ps) h

end Joining

/-! ## What is read of a field -/

section Fields

variable (f : Field) (last : Bool) (ps : Params)

@[simp] theorem value?_field_name :
    (Page.field "name").value? (fieldParams f last ps) = some (some (.text f.name)) := rfl

@[simp] theorem value?_field_type :
    (Page.field "type").value? (fieldParams f last ps) = some (some (.text f.type.text)) := rfl

@[simp] theorem value?_field_isPrimaryKey :
    (Page.field "isPrimaryKey").value? (fieldParams f last ps) = some (some (.boolean f.isKey)) :=
  rfl

@[simp] theorem value?_field_isIncrementing :
    (Page.field "isIncrementing").value? (fieldParams f last ps)
      = some (some (.boolean f.isIncrementing)) := rfl

@[simp] theorem value?_field_isNullable :
    (Page.field "isNullable").value? (fieldParams f last ps)
      = some (some (.boolean f.isNullable)) := rfl

@[simp] theorem value?_hasType (type : String) :
    (Page.hasType type).value? (fieldParams f last ps)
      = some (some (.boolean (f.type.text = type))) := rfl

theorem linesOf?_column :
    linesOf? Page.column (fieldParams f last ps) = some [f.columnLine] := by
  unfold Field.columnLine
  cases hinc : f.isIncrementing <;> cases hnull : f.isNullable <;> split_ifs <;>
    simp_all [linesOf?, Sheet.ofLines?, Page.column, Tree.ofItems?, Value.output,
      String.append_assoc]

theorem linesOf?_entry : linesOf? Page.entry (fieldParams f last ps)
    = some [f.entryLine] := by
  unfold Field.entryLine
  split_ifs <;>
    simp [linesOf?, Sheet.ofLines?, Page.entry, Tree.ofItems?, Value.output, String.append_assoc, *]

theorem linesOf?_listLine : linesOf? [Page.listLine] (fieldParams f last ps)
    = some [f.listLine] := by
  simp [linesOf?, Sheet.ofLines?, Page.listLine, Tree.ofItems?, Value.output, Field.listLine,
    String.append_assoc]

theorem linesOf?_cast : linesOf? Page.cast (fieldParams f last ps)
    = some (if f.type.text = "boolean" ∨ f.type.text = "integer" then [f.castLine] else []) := by
  unfold Field.castLine
  split_ifs with h
  · rcases h with h | h <;>
      simp [linesOf?, Sheet.ofLines?, Page.cast, Tree.ofItems?, Value.output, String.append_assoc,
        h]
  · rw [not_or] at h
    simp [linesOf?, Sheet.ofLines?, Page.cast, Tree.ofItems?, h]

theorem linesOf?_hook : linesOf? Page.hook (fieldParams f last ps)
    = some (if f.type.text = "uuid" then f.hookLines else []) := by
  unfold Field.hookLines
  split_ifs <;>
    simp [linesOf?, Sheet.ofLines?, Page.hook, Page.onlyWhen, Tree.ofItems?, Value.output,
      String.append_assoc, *]

theorem linesOf?_arrayEntry : linesOf? Page.arrayEntry (fieldParams f last ps)
    = some [f.arrayLine] := by
  have hdate (s : String) : "' => " ++ ("optional($this->" ++ s) = "' => optional($this->" ++ s :=
    (String.append_assoc ..).symm
  have hboolean (s : String) : "' => " ++ ("(bool) $this->" ++ s) = "' => (bool) $this->" ++ s :=
    (String.append_assoc ..).symm
  have hother (s : String) : "' => " ++ ("$this->" ++ s) = "' => $this->" ++ s :=
    (String.append_assoc ..).symm
  unfold Field.arrayLine
  split_ifs with hd hb
  · simp [linesOf?, Sheet.ofLines?, Page.arrayEntry, Tree.ofItems?, Value.output,
      String.append_assoc, hdate, hd]
  · simp [linesOf?, Sheet.ofLines?, Page.arrayEntry, Tree.ofItems?, Value.output,
      String.append_assoc, hboolean, hb]
  · simp [linesOf?, Sheet.ofLines?, Page.arrayEntry, Tree.ofItems?, Value.output,
      String.append_assoc, hother, hd, hb]

theorem linesOf?_rule : linesOf? [Page.rule] (fieldParams f last ps) = some [f.ruleLine] := by
  unfold Field.ruleLine
  split_ifs <;>
    simp [linesOf?, Sheet.ofLines?, Page.rule, Tree.ofItems?, Value.output, String.append_assoc, *]

end Fields

/-! ## The sections -/

namespace Resource

variable (r : Resource) (o : PlanOptions) (t : Template)

theorem get?_templateParams {x : String} (h : x ≠ "inlineValidate") (h' : x ≠ "inlineSnakeCase") :
    Keyed.get? (templateParams r o t) x = r.params.get? x := by
  unfold templateParams
  split_ifs
  · rw [Keyed.get?_set, if_neg h', Keyed.get?_set, if_neg h]
  · rfl

theorem get?_pascalName : Keyed.get? (templateParams r o t) "pascalName"
    = some (.text r.pascalName) := r.get?_templateParams o t (by decide) (by decide)

theorem get?_pluralName : Keyed.get? (templateParams r o t) "pluralName"
    = some (.text r.plural) := r.get?_templateParams o t (by decide) (by decide)

theorem get?_fields : Keyed.get? (templateParams r o t) "fields"
    = some (.list (r.fields.map Field.record)) := r.get?_templateParams o t (by decide) (by decide)

theorem get?_keyFields : Keyed.get? (templateParams r o t) "primaryKeyFields"
    = some (.list (r.keyFields.map Field.record)) :=
  r.get?_templateParams o t (by decide) (by decide)

theorem get?_usesGeneratedKey : Keyed.get? (templateParams r o t) "useGeneratedKey"
    = some (.boolean r.usesGeneratedKey) := r.get?_templateParams o t (by decide) (by decide)

theorem get?_usesAutoIncrementKey :
    Keyed.get? (templateParams r o t) "hasAutoIncrementPrimaryKey"
      = some (.boolean r.usesAutoIncrementKey) := r.get?_templateParams o t (by decide) (by decide)

theorem get?_usesConventionalKey : Keyed.get? (templateParams r o t) "usesDefaultKey"
    = some (.boolean r.usesConventionalKey) := r.get?_templateParams o t (by decide) (by decide)

theorem get?_softDeletes : Keyed.get? (templateParams r o t) "softDeletesEnabled"
    = some (.boolean r.softDeletes) := r.get?_templateParams o t (by decide) (by decide)

/-! ### The key and the columns -/

/-- The form of a column in the line that declares the key. -/
def quotedKey : Form :=
  .content (.text "'") (.content (.output (Page.field "name")) (.content (.text "'")
    (.choice ((Expr.name "loop").entry "last").negation (.content (.text ", ") .done) .done .done)))

theorem ofLines?_keyLine : Sheet.ofLines? [Page.keyLine] = some (.content
    (.content (.text "            $table->primary([")
      (.each "field" (.name "primaryKeyFields") quotedKey
        (.content (.text "]);") .done))) .done) := by
  decide +kernel

theorem join_quotedKey (f : Field) (last : Bool) (ps : Params) :
    (quotedKey.eval? Part.texts? (fieldParams f last ps)).map String.join
      = some ("'" ++ f.name ++ "'" ++ if last then "" else ", ") := by
  have hlast : Keyed.get? (fieldParams f last ps) "loop"
      = some (.record [("last", .boolean last)]) := rfl
  cases last <;>
    simp [quotedKey, Value.output, hlast, Value.named?, Keyed.get?, String.append_assoc]

theorem linesOf?_keyLine : linesOf? [Page.keyLine] (templateParams r o t) = some [r.keyLine] := by
  obtain ⟨texts, htexts, hjoin⟩ :=
    Option.map_eq_some_iff.1 (join_each?_eq_intercalate (v := Field.record)
      (g := fun v last => quotedKey.eval? Part.texts? (bound "field" v last (templateParams r o t)))
      (fun f last => join_quotedKey f last _) r.keyFields)
  have hform : Tree.eval? Part.texts? (.content (.text "            $table->primary([")
      (.each "field" (.name "primaryKeyFields") quotedKey (.content (.text "]);") .done)))
        (templateParams r o t)
      = some ("            $table->primary([" :: (texts ++ ["]);"])) := by
    simp only [Tree.eval?, Expr.value?, r.get?_keyFields, Part.texts?, Option.bind_some,
      Option.elim_some, Value.items?, htexts, joined?_some, List.append_nil, List.singleton_append]
  have hline : r.keyLine = "            $table->primary([" ++ (String.join texts ++ "]);") := by
    rw [hjoin, ← String.append_assoc]
    rfl
  rw [linesOf?, ofLines?_keyLine, Option.bind_some, lines?_content, text?_eq, hform]
  simp [hline]

theorem linesOf?_declaredKey : linesOf? Page.declaredKey (templateParams r o t)
    = some (if r.keyFields ≠ [] ∧ r.usesAutoIncrementKey = false then [r.keyLine] else []) := by
  have hcondition : ((Expr.both (.name "primaryKeyFields")
      (Expr.name "hasAutoIncrementPrimaryKey").negation).value? (templateParams r o t)).map isTruthy
        = some (decide (r.keyFields ≠ [] ∧ r.usesAutoIncrementKey = false)) := by
    simp only [Expr.value?, r.get?_keyFields, r.get?_usesAutoIncrementKey]
    cases r.keyFields <;> cases r.usesAutoIncrementKey <;> rfl
  have hlines := linesOf?_onlyWhen hcondition (r.linesOf?_keyLine o t)
  simp only [decide_eq_true_eq] at hlines
  exact hlines

/-- **The columns** and the line that declares the key. -/
theorem linesOf?_columns :
    linesOf? Page.columns.flatten (templateParams r o t) = some r.columnLines := by
  have hconventional : linesOf? Page.conventionalKey (templateParams r o t)
      = some (if r.usesConventionalKey then ["            $table->increments('id');"] else []) :=
    linesOf?_onlyWhen_name (r.get?_usesConventionalKey o t) (linesOf?_written _ _)
  have hfields : linesOf? (Page.eachField "fields" Page.column) (templateParams r o t)
      = some (r.fields.map Field.columnLine) := by
    rw [List.map_eq_flatMap]
    exact linesOf?_eachField rfl (r.get?_fields o t) fun f last => linesOf?_column f last _
  have hall : linesOf? Page.columns.flatten (templateParams r o t) = some _ :=
    linesOf?_append_eq hconventional (linesOf?_append_eq hfields
      (linesOf?_append_eq (r.linesOf?_declaredKey o t) (linesOf?_nil _)))
  rw [hall, List.append_nil, ← List.append_assoc]
  rfl

theorem linesOf?_tableLine : linesOf? [Page.tableLine] (templateParams r o t)
    = some ["        Schema::create('" ++ (r.plural ++ "', function (Blueprint $table) \x7b")] := by
  simp [linesOf?, Sheet.ofLines?, Page.tableLine, Tree.ofItems?, r.get?_pluralName, Value.output]

theorem linesOf?_migrationClass : linesOf? [Page.migrationClass] (templateParams r o t)
    = some ["class Create" ++ (Identifier.pascal r.plural ++ " extends Migration")] := by
  simp [linesOf?, Sheet.ofLines?, Page.migrationClass, Tree.ofItems?, r.get?_pluralName,
    Value.output]

theorem linesOf?_hooks :
    linesOf? (Page.eachField "primaryKeyFields" Page.hook) (templateParams r o t)
      = some ((r.keyFields.filter fun f => f.type.text = "uuid").flatMap Field.hookLines) := by
  rw [flatMap_filter]
  simp only [decide_eq_true_eq]
  exact linesOf?_eachField rfl (r.get?_keyFields o t) fun f last => linesOf?_hook f last _

theorem linesOf?_boot : linesOf? Page.boot (templateParams r o t) = some r.bootLines := by
  have hhead : linesOf? Page.bootHead (templateParams r o t) = some _ := rfl
  have htail : linesOf? Page.bootTail (templateParams r o t) = some _ := rfl
  exact linesOf?_onlyWhen_name (r.get?_usesGeneratedKey o t)
    (linesOf?_append_eq hhead (linesOf?_append_eq (r.linesOf?_hooks o t) htail))

/-! ### The lists -/

theorem linesOf?_entries : linesOf? Page.entries (templateParams r o t) = some r.entryLines := by
  rw [entryLines, map_filter_eq_flatMap]
  exact linesOf?_eachField rfl (r.get?_fields o t) fun f last =>
    linesOf?_onlyWhen rfl (linesOf?_entry f last _)

theorem linesOf?_fillable :
    linesOf? Page.fillable (templateParams r o t) = some r.fillableLines := by
  rw [fillableLines, map_filter_eq_flatMap]
  exact linesOf?_eachField rfl (r.get?_fields o t) fun f last =>
    linesOf?_onlyWhen rfl (linesOf?_listLine f last _)

theorem linesOf?_casts : linesOf? Page.casts (templateParams r o t) = some r.castLines := by
  rw [castLines, map_filter_eq_flatMap]
  simp only [decide_eq_true_eq]
  exact linesOf?_eachField rfl (r.get?_fields o t) fun f last => linesOf?_cast f last _

theorem linesOf?_dates : linesOf? Page.dates (templateParams r o t) = some r.dateLines := by
  rw [dateLines, map_filter_eq_flatMap]
  exact linesOf?_eachField rfl (r.get?_fields o t) fun f last =>
    linesOf?_onlyWhen rfl (linesOf?_listLine f last _)

theorem linesOf?_array :
    linesOf? Page.array.flatten (templateParams r o t) = some r.arrayLines := by
  have hconventional : linesOf? Page.conventionalEntry (templateParams r o t)
      = some (if r.usesConventionalKey then ["            'id' => $this->id,"] else []) :=
    linesOf?_onlyWhen_name (r.get?_usesConventionalKey o t) (linesOf?_written _ _)
  have hfields : linesOf? (Page.eachField "fields" Page.arrayEntry) (templateParams r o t)
      = some (r.fields.map Field.arrayLine) := by
    rw [List.map_eq_flatMap]
    exact linesOf?_eachField rfl (r.get?_fields o t) fun f last => linesOf?_arrayEntry f last _
  have hstamps : linesOf? Page.stampEntries (templateParams r o t)
      = some (["            'createdAt' => optional($this->created_at)->toIso8601String(),",
        "            'updatedAt' => optional($this->updated_at)->toIso8601String(),"]
        ++ if r.softDeletes then
          ["            'deletedAt' => optional($this->deleted_at)->toIso8601String(),"] else []) :=
    linesOf?_text_cons _ (linesOf?_text_cons _
      (linesOf?_onlyWhen_name (r.get?_softDeletes o t) (linesOf?_written _ _)))
  have hall : linesOf? Page.array.flatten (templateParams r o t) = some _ :=
    linesOf?_append_eq hconventional (linesOf?_append_eq hfields
      (linesOf?_append_eq hstamps (linesOf?_nil _)))
  rw [hall, arrayLines, List.append_nil]
  simp only [List.append_assoc]

theorem linesOf?_rules : linesOf? Page.rules (templateParams r o t) = some r.ruleLines := by
  rw [ruleLines, map_filter_eq_flatMap]
  refine linesOf?_eachField rfl (r.get?_fields o t) fun f last =>
    linesOf?_onlyWhen ?_ (linesOf?_rule f last _)
  have hgenerated : (fieldParams f last (templateParams r o t)).get? "useGeneratedKey"
      = some (.boolean r.usesGeneratedKey) := r.get?_usesGeneratedKey o t
  cases hinc : f.isIncrementing <;> cases hkey : f.isKey <;> cases hgen : r.usesGeneratedKey <;>
    simp [hgenerated, hinc, hkey, hgen]

end Resource

end Groundwork
