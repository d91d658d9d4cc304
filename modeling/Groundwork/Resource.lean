import Groundwork.Field
import Groundwork.Identifier

/-!
# Resources

A resource has a name, a plural, fields and, if asked for, soft deletes. `Resource.build` refuses
a name of which nothing is left and a field name that occurs twice; both are then facts of every
resource. How the rows of a resource get their keys is one of five strategies.

* `Resource.build`, `Resource.ofDefinitions`: a resource from fields, and from their tokens.
* `Resource.keyStrategy`: where the keys come from.
* **`firstRepeat?_eq_none_iff`**: nothing repeats exactly when all names differ.
-/

namespace Groundwork

open Text (trim)

/-! ## Repeated names -/

/-- The first name that occurs in `seen` or earlier in the list. -/
def firstRepeatAfter? (seen : List String) : List String → Option String
  | [] => none
  | n :: rest => if n ∈ seen then some n else firstRepeatAfter? (n :: seen) rest

/-- **The first name that repeats an earlier one.** -/
def firstRepeat? (names : List String) : Option String := firstRepeatAfter? [] names

theorem firstRepeatAfter?_eq_none_iff {seen names : List String} :
    firstRepeatAfter? seen names = none ↔ names.Nodup ∧ ∀ n ∈ names, n ∉ seen := by
  induction names generalizing seen with
  | nil => simp [firstRepeatAfter?]
  | cons n rest ih =>
    rw [firstRepeatAfter?]
    by_cases h : n ∈ seen
    · simp [h]
    · simp only [h, if_false, ih, List.nodup_cons, List.mem_cons, not_or, forall_eq_or_imp,
        not_false_eq_true, true_and]
      constructor
      · rintro ⟨hn, hs⟩
        exact ⟨⟨fun hm => (hs n hm).1 rfl, hn⟩, fun m hm => (hs m hm).2⟩
      · rintro ⟨⟨hm, hn⟩, hs⟩
        exact ⟨hn, fun m hm' => ⟨fun e => hm (e ▸ hm'), hs m hm'⟩⟩

/-- **Nothing repeats exactly when all names differ.** -/
theorem firstRepeat?_eq_none_iff {names : List String} :
    firstRepeat? names = none ↔ names.Nodup := by
  simp [firstRepeat?, firstRepeatAfter?_eq_none_iff]

/-! ## Resources -/

/-- **A resource.** Its name is kept in camel case, its plural as it was given. -/
structure Resource where
  name : String
  plural : String
  fields : List Field
  softDeletes : Bool
  named : name ≠ ""
  distinct : (fields.map (·.name)).Nodup
  deriving DecidableEq, Repr

/-- **Where the keys of a resource come from.** -/
inductive KeyStrategy where
  /-- The application makes up a uuid. -/
  | generated
  /-- The database counts a declared field up. -/
  | autoIncrement
  /-- Declared key fields hold what they are given. -/
  | explicit
  /-- No field is marked as a key, but one is named `id`. -/
  | declared
  /-- A column `id`, counted up, is added to the fields. -/
  | conventional
  deriving DecidableEq, Repr

/-- The strategy in words. -/
def KeyStrategy.description : KeyStrategy → String
  | .generated => "generated by the application (uuid)"
  | .autoIncrement => "auto-increment"
  | .explicit => "explicit"
  | .declared => "declared `id` column"
  | .conventional => "default `id` column"

namespace Resource

/-- **The resource of a name, a plural and fields.** An empty name is refused before a repeated
field. -/
def build (name plural : String) (fields : List Field) (softDeletes : Bool) :
    Except Rejection Resource :=
  if trim name = "" then .error .emptyName
  else if hn : Identifier.camel name = "" then .error .emptyName
  else
    match hf : firstRepeat? (fields.map (·.name)) with
    | some n => .error (.duplicateField n)
    | none => .ok ⟨Identifier.camel name, plural, fields, softDeletes, hn,
        firstRepeat?_eq_none_iff.1 hf⟩

/-- **The resource of a name, a plural and field definitions**, all of which are read first. -/
def ofDefinitions (name plural : String) (definitions : List String) (softDeletes : Bool) :
    Noted Rejection Resource :=
  (Field.parseAll definitions).andThen fun fields => ⟨[], build name plural fields softDeletes⟩

variable (r : Resource)

/-- The name with its first character in upper case. -/
def pascalName : String := Identifier.upperFirst r.name

/-- **The key fields**, in order. -/
def keyFields : List Field := r.fields.filter (·.isKey)

/-- **Where the keys come from.** A uuid key takes precedence over an incrementing one. -/
def keyStrategy : KeyStrategy :=
  if r.keyFields.any (·.type = .uuid) then .generated
  else if r.keyFields.any (·.isIncrementing) then .autoIncrement
  else if r.keyFields ≠ [] then .explicit
  else if r.fields.any (·.name = "id") then .declared
  else .conventional

/-- The application makes the keys up. -/
def usesGeneratedKey : Bool := r.keyStrategy = .generated

/-- The database counts a declared key up. -/
def usesAutoIncrementKey : Bool := r.keyStrategy = .autoIncrement

/-- A column `id` is added to the fields. -/
def usesConventionalKey : Bool := r.keyStrategy = .conventional

end Resource

end Groundwork
