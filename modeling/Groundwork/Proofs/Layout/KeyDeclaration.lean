import Groundwork.Proofs.Layout.Blocks
import Groundwork.Proofs.Resource.Derivation

/-!
# Where the migration declares the key

A migration declares the key of its table in one of two ways: with a column that the database
counts up, or with a line that names the columns of the key. Which columns are counted up is
decided field by field, whether there is a key line by the strategy of the resource; for a
resource with a uuid key the two need not agree.

* `countsUp`, `declaresKey`, `DeclaresKeyOnce`: the two kinds of lines, and what to expect of them.
* **`Resource.countingLines_eq`**, **`Resource.keyLines_eq`**: the lines of either kind.
* **`Resource.declaresKeyOnce_iff`**: the key is declared only once exactly when at most one field
  increments, and none does beside a uuid key.
-/

namespace Groundwork

namespace Layout

/-! ## Calls on the table -/

theorem append_cons_prefix_iff {α : Type} {a b x y : List α} {c : α} (ha : c ∉ a) (hb : c ∉ b) :
    a ++ c :: x <+: b ++ c :: y ↔ a = b ∧ x <+: y := by
  constructor
  · rintro ⟨t, ht⟩
    rw [List.append_assoc] at ht
    rcases List.append_eq_append_iff.1 ht with ⟨m, rfl, hm⟩ | ⟨m, rfl, hm⟩ <;> cases m with
    | nil => exact ⟨by simp, t, by simpa [eq_comm] using hm⟩
    | cons d m =>
      obtain ⟨rfl, -⟩ := List.cons.inj hm
      simp at ha hb
  · rintro ⟨rfl, h⟩
    exact (List.prefix_append_right_inj _).2 (List.cons_prefix_cons.2 ⟨rfl, h⟩)

/-- A call of a method on the table. -/
def call (method arguments : String) : String :=
  "            $table->" ++ method ++ "(" ++ arguments

theorem toList_call (m x : String) :
    (call m x).toList = "            $table->".toList ++ (m.toList ++ '(' :: x.toList) := by
  have hparen : "(".toList = ['('] := rfl
  unfold call
  simp only [String.toList_append, hparen, List.append_assoc, List.singleton_append]

theorem startsWith_call_iff {m m' x x' : String} (hm : '(' ∉ m.toList) (hm' : '(' ∉ m'.toList) :
    startsWith (call m x) (call m' x') = true ↔ m = m' ∧ x.toList <+: x'.toList := by
  rw [startsWith_iff, toList_call, toList_call, List.prefix_append_right_inj,
    append_cons_prefix_iff hm hm', String.toList_inj]

theorem call_increments : "            $table->increments(" = call "increments" "" := rfl

theorem call_primary : "            $table->primary([" = call "primary" "[" := rfl

/-- **The type can name a column**: an identifier does, unless it is `increments`. -/
def NamesColumn (type : String) : Prop := '(' ∉ type.toList ∧ type ≠ "increments"

instance (type : String) : Decidable (NamesColumn type) := inferInstanceAs (Decidable (_ ∧ _))

theorem namesColumn_of_isKnown {k : FieldType} (h : k.isKnown = true) : NamesColumn k.text := by
  cases k with
  | other t => cases h
  | _ => exact ⟨by decide, by decide⟩

/-- **The line adds a column that is counted up**, which makes it the key. -/
def countsUp (line : String) : Bool := startsWith "            $table->increments(" line

/-- **The line names the columns of the key.** -/
def declaresKey (line : String) : Bool := startsWith "            $table->primary([" line

/-- **The key is declared only once**: at most one column is counted up, and none is when a line
names the columns of the key. -/
def DeclaresKeyOnce (lines : List String) : Prop :=
  (lines.filter countsUp).length ≤ 1 ∧
    (lines.filter countsUp = [] ∨ lines.filter declaresKey = [])

end Layout

open Layout

namespace Field

variable {f : Field}

/-- The method that adds the column. -/
def method (f : Field) : String :=
  if f.isIncrementing then "increments" else if f.type.text = "date" then "timestampTz"
  else f.type.text

theorem columnLine_eq_call (f : Field) :
    ∃ rest, f.columnLine = call f.method ("'" ++ (f.name ++ ("'" ++ rest))) := by
  have hopen : "('" = "(" ++ "'" := rfl
  have hclose : "')" = "'" ++ ")" := rfl
  unfold columnLine method call
  exact ⟨")" ++ if f.isNullable && !f.isIncrementing then "->nullable();" else ";", by
    simp only [hopen, hclose, String.append_assoc]⟩

theorem paren_not_mem_method (h : '(' ∉ f.type.text.toList) : '(' ∉ f.method.toList := by
  unfold method
  split_ifs
  · decide
  · decide
  · exact h

theorem method_eq_increments_iff (h : NamesColumn f.type.text) :
    f.method = "increments" ↔ f.isIncrementing = true := by
  unfold method
  split_ifs with hinc hdate <;> simp [hinc, h.2]

theorem countsUp_columnLine (h : NamesColumn f.type.text) :
    countsUp f.columnLine = f.isIncrementing := by
  obtain ⟨rest, hline⟩ := columnLine_eq_call f
  rw [Bool.eq_iff_iff, countsUp, call_increments, hline,
    startsWith_call_iff (by decide) (paren_not_mem_method h.1), eq_comm,
    method_eq_increments_iff h]
  exact and_iff_left (List.nil_prefix)

theorem declaresKey_columnLine (h : NamesColumn f.type.text) :
    declaresKey f.columnLine = false := by
  obtain ⟨rest, hline⟩ := columnLine_eq_call f
  rw [Bool.eq_false_iff, declaresKey, call_primary, hline, Ne,
    startsWith_call_iff (by decide) (paren_not_mem_method h.1), String.toList_append]
  rintro ⟨-, hquote⟩
  simp at hquote

theorem columnLine_of_isIncrementing (h : f.isIncrementing = true) :
    f.columnLine = "            $table->increments('" ++ f.name ++ "');" := by
  unfold columnLine
  simp [h, String.append_assoc]

end Field

theorem sections_migration : Template.migration.sections
    = [Page.migrationHead, [Page.migrationClass], Page.migrationUp, [Page.tableLine]]
      ++ (Page.columns ++ [Page.written "", Page.stamps, Page.migrationTail]) := rfl

namespace Template.Stretch

/-- The columns of a migration that are counted up. -/
def counted : Stretch .migration "            $table->increments(" where
  before := _
  body := _
  after := _
  sections_eq := sections_migration
  apart_before := by decide +kernel
  apart_after := by decide +kernel

/-- The line of a migration that names the columns of the key. -/
def declared : Stretch .migration "            $table->primary([" where
  before := _
  body := _
  after := _
  sections_eq := sections_migration
  apart_before := by decide +kernel
  apart_after := by decide +kernel

end Template.Stretch

namespace Resource

variable {r : Resource} {o : PlanOptions}

theorem filter_countsUp_migration :
    (r.lines o .migration).filter countsUp = r.columnLines.filter countsUp :=
  Template.Stretch.counted.filter_lines (r.linesOf?_columns o _)

theorem filter_declaresKey_migration :
    (r.lines o .migration).filter declaresKey = r.columnLines.filter declaresKey :=
  Template.Stretch.declared.filter_lines (r.linesOf?_columns o _)

theorem columnLine_mem_migration {f : Field} (h : f ∈ r.fields) :
    f.columnLine ∈ r.lines o .migration := by
  obtain ⟨b, a, -, -, hlines⟩ := exists_frame (o := o) sections_migration (r.linesOf?_columns o _)
  have hmem : f.columnLine ∈ r.columnLines :=
    List.mem_append_left _ (List.mem_append_right _ (List.mem_map_of_mem h))
  rw [hlines]
  exact List.mem_append_right _ (List.mem_append_left _ hmem)

theorem keyLine_eq_call (r : Resource) : ∃ rest, r.keyLine = call "primary" ("[" ++ rest) := by
  have hopen : "            $table->primary([" = "            $table->primary(" ++ "[" := rfl
  have hcall (s : String) : call "primary" s = "            $table->primary(" ++ s := rfl
  refine ⟨", ".intercalate (r.keyFields.map fun f => "'" ++ f.name ++ "'") ++ "]);", ?_⟩
  unfold keyLine
  rw [hopen, hcall, String.append_assoc, String.append_assoc]

theorem countsUp_keyLine (r : Resource) : countsUp r.keyLine = false := by
  obtain ⟨rest, hline⟩ := r.keyLine_eq_call
  rw [Bool.eq_false_iff, countsUp, call_increments, hline, Ne,
    startsWith_call_iff (by decide) (by decide)]
  exact fun h => absurd h.1 (by decide)

theorem declaresKey_keyLine (r : Resource) : declaresKey r.keyLine = true := by
  obtain ⟨rest, hline⟩ := r.keyLine_eq_call
  rw [declaresKey, call_primary, hline, startsWith_call_iff (by decide) (by decide),
    String.toList_append]
  exact ⟨rfl, List.prefix_append _ _⟩

/-- The incrementing fields, in order. -/
def counted (r : Resource) : List Field := r.fields.filter (·.isIncrementing)

/-- **The columns that are counted up** are the conventional key and those of the incrementing
fields. -/
theorem countingLines_eq (h : ∀ f ∈ r.fields, NamesColumn f.type.text) :
    (r.lines o .migration).filter countsUp
      = (if r.usesConventionalKey then ["            $table->increments('id');"] else [])
        ++ r.counted.map Field.columnLine := by
  have hid : countsUp "            $table->increments('id');" = true := by decide
  have hcols :
      (r.fields.map Field.columnLine).filter countsUp = r.counted.map Field.columnLine := by
    rw [List.filter_map]
    exact congrArg _ (List.filter_congr fun f hf => Field.countsUp_columnLine (h f hf))
  rw [filter_countsUp_migration, columnLines, List.filter_append, List.filter_append, hcols]
  split_ifs <;> simp [hid, countsUp_keyLine]

/-- **There is a key line** when keys are declared of which none is counted up, as far as the
resource knows. -/
theorem keyLines_eq (h : ∀ f ∈ r.fields, NamesColumn f.type.text) :
    (r.lines o .migration).filter declaresKey
      = if r.keyFields ≠ [] ∧ r.usesAutoIncrementKey = false then [r.keyLine] else [] := by
  have hid : declaresKey "            $table->increments('id');" = false := by decide
  have hcols : (r.fields.map Field.columnLine).filter declaresKey = [] := by
    rw [List.filter_eq_nil_iff, List.forall_mem_map]
    exact fun f hf => by simp [Field.declaresKey_columnLine (h f hf)]
  rw [filter_declaresKey_migration, columnLines, List.filter_append, List.filter_append, hcols]
  split_ifs <;> simp [hid, declaresKey_keyLine]

/-- **The migration declares the key only once** exactly when at most one field increments, and
none does beside a uuid key. -/
theorem declaresKeyOnce_iff {name plural : String} {definitions : List String} {softDeletes : Bool}
    (h : (ofDefinitions name plural definitions softDeletes).result = .ok r)
    (hknown : ∀ f ∈ r.fields, f.type.isKnown = true) (o : PlanOptions) :
    Renderer.standard .migration (templateParams r o .migration)
        = .ok ("\n".intercalate (r.lines o .migration)) ∧
      (DeclaresKeyOnce (r.lines o .migration) ↔ r.counted.length ≤ 1 ∧
        ¬ (r.counted ≠ [] ∧ ∃ f ∈ r.keyFields, f.type = .uuid)) := by
  refine ⟨Renderer.standard_templateParams r o .migration, ?_⟩
  have hrows : ∀ f ∈ r.fields, NamesColumn f.type.text :=
    fun f hf => namesColumn_of_isKnown (hknown f hf)
  have hcounted : ∀ f ∈ r.counted, f ∈ r.keyFields ∧ f.isIncrementing = true := fun f hf => by
    obtain ⟨hf, hinc⟩ := List.mem_filter.1 hf
    exact ⟨mem_keyFields.2 ⟨hf, (sound_of_ofDefinitions h f hf).key hinc⟩, hinc⟩
  rw [DeclaresKeyOnce, countingLines_eq hrows, keyLines_eq hrows]
  cases hconv : r.usesConventionalKey with
  | true =>
    -- the conventional key is the only one: no field is a key, and so none increments
    have hnokey : r.keyFields = [] := (usesConventionalKey_iff.1 hconv).1
    have hnone : r.counted = [] := List.eq_nil_iff_forall_not_mem.2 fun f hf =>
      List.not_mem_nil (hnokey ▸ (hcounted f hf).1)
    simp [hnone, hnokey]
  | false =>
    have hlines : (if r.keyFields ≠ [] ∧ r.usesAutoIncrementKey = false then [r.keyLine] else [])
        = [] ↔ r.keyFields = [] ∨ r.usesAutoIncrementKey = true := by
      split_ifs with hkeys <;> simp_all [or_iff_not_imp_left]
    rw [if_neg Bool.false_ne_true, List.nil_append, List.length_map, List.map_eq_nil_iff, hlines,
      usesAutoIncrementKey_iff, not_and_or, not_ne_iff]
    refine and_congr_right fun _ => or_congr_right' fun hsome => ?_
    obtain ⟨f, hf⟩ := List.exists_mem_of_ne_nil _ hsome
    have hkeys : r.keyFields ≠ [] := List.ne_nil_of_mem (hcounted f hf).1
    have hinc : ∃ f ∈ r.keyFields, f.isIncrementing = true := ⟨f, hcounted f hf⟩
    simp only [hkeys, hinc, false_or, and_true]

/-- A key that is counted up is declared once. -/
theorem declaresKeyOnce_beside_title :
    let r : Resource := ⟨"cat", "cats", [⟨"id", .integer, true, true, false⟩,
      ⟨"title", .string, false, false, false⟩], false, by decide, by decide⟩
    let o : PlanOptions := ⟨false, false, ⟨2024, 1, 2, 3, 4, 5⟩⟩
    (ofDefinitions "cat" "cats" ["id:integer:increments", "title:string"] false).result = .ok r ∧
      DeclaresKeyOnce (r.lines o .migration) := by
  intro r o
  have h : (ofDefinitions "cat" "cats" ["id:integer:increments", "title:string"] false).result
      = .ok r := by decide +kernel
  exact ⟨h, (declaresKeyOnce_iff h (by decide) o).2.2 (by decide)⟩

/-- **A uuid key beside an incrementing one is declared twice.** -/
theorem not_declaresKeyOnce_beside_uuid :
    let r : Resource := ⟨"cat", "cats", [⟨"k", .uuid, true, false, false⟩,
      ⟨"n", .integer, true, true, false⟩], false, by decide, by decide⟩
    let o : PlanOptions := ⟨false, false, ⟨2024, 1, 2, 3, 4, 5⟩⟩
    (ofDefinitions "cat" "cats" ["k:uuid:primary", "n:integer:increments"] false).result = .ok r ∧
      ¬ DeclaresKeyOnce (r.lines o .migration) := by
  intro r o
  refine ⟨by decide +kernel, fun honce => ?_⟩
  have hknown : ∀ f ∈ r.fields, f.type.isKnown = true := by decide
  have hrows : ∀ f ∈ r.fields, NamesColumn f.type.text :=
    fun f hf => namesColumn_of_isKnown (hknown f hf)
  rw [DeclaresKeyOnce, countingLines_eq hrows, keyLines_eq hrows] at honce
  revert honce
  decide +kernel

end Resource

end Groundwork
