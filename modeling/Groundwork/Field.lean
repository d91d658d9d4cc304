import Groundwork.Notice
import Groundwork.Text.LetterCase
import Groundwork.Text.Ranges
import Groundwork.Text.Segments

/-!
# Fields

A field has a name, a type and three marks: part of the primary key, counted up by the database,
nullable. Five types are known; any other is kept as it was written. A field is defined by one
token, `name:type[:modifier]*`. Blanks around a segment and the letter case of a modifier do not
matter. Reading is lenient: an empty type means a string, a modifier that means nothing is passed
over, and each leniency is noticed.

* `FieldType.ofText`, `FieldType.text`: a type from and to its name.
* **`FieldType.ofText_text`**: a known type is read back from its name.
* `Field.parse`: the field that a token defines.
* `Field.parseAll`: the fields of several tokens, up to the first malformed one.
* `Field.definition`: the canonical token of a field.
-/

namespace Groundwork

open Text (asciiLower segments trim)

/-! ## Types -/

/-- **A type.** -/
inductive FieldType where
  | string
  | integer
  | boolean
  | date
  | uuid
  /-- A type outside the known ones, as it was written. -/
  | other (text : String)
  deriving DecidableEq, Repr

namespace FieldType

/-- The name of a type. -/
def text : FieldType → String
  | .string => "string"
  | .integer => "integer"
  | .boolean => "boolean"
  | .date => "date"
  | .uuid => "uuid"
  | .other t => t

/-- One of the five known types. -/
def isKnown : FieldType → Bool
  | .other _ => false
  | _ => true

/-- **The type of this name.** The letter case of a known name does not matter, and only ASCII
letters have one here. -/
def ofText (t : String) : FieldType :=
  let name := asciiLower t
  if name = "string" then .string
  else if name = "integer" then .integer
  else if name = "boolean" then .boolean
  else if name = "date" then .date
  else if name = "uuid" then .uuid
  else .other t

/-- **A known type is read back from its name.** -/
theorem ofText_text {k : FieldType} (h : k.isKnown) : ofText k.text = k := by
  cases k with
  | other t => simp [isKnown] at h
  | _ => decide

end FieldType

/-! ## Fields -/

/-- **A field.** -/
structure Field where
  name : String
  type : FieldType
  /-- The field is part of the primary key. -/
  isKey : Bool
  /-- The database counts the field up. -/
  isIncrementing : Bool
  isNullable : Bool
  deriving DecidableEq, Repr

/-! ## Modifiers -/

/-- **What a modifier segment asks for.** -/
inductive Modifier where
  | primary
  | increments
  | nullable
  /-- An empty segment. -/
  | empty
  /-- A word that is no modifier. -/
  | unknown (word : String)
  deriving DecidableEq, Repr

/-- The modifier of this word, given without blanks and in lower case. -/
def Modifier.ofWord (word : String) : Modifier :=
  if word = "primary" then .primary
  else if word = "increments" ∨ word = "autoincrement" then .increments
  else if word = "nullable" then .nullable
  else if word = "" then .empty
  else .unknown word

/-- The modifier of a segment, whatever its letter case and the blanks around it. -/
def Modifier.ofSegment (s : String) : Modifier := ofWord (asciiLower (trim s))

/-- **What the modifiers ask for** together. -/
structure Marks where
  key : Bool
  increments : Bool
  nullable : Bool
  deriving DecidableEq, Repr

/-- No marks. -/
def Marks.none : Marks := ⟨false, false, false⟩

/-- One modifier more. An incrementing field is part of the key. -/
def Marks.add (m : Marks) : Modifier → Marks
  | .primary => { m with key := true }
  | .increments => { m with key := true, increments := true }
  | .nullable => { m with nullable := true }
  | .empty | .unknown _ => m

/-- The marks of a list of modifiers. -/
def Marks.ofModifiers (ms : List Modifier) : Marks := ms.foldl Marks.add .none

/-! ## Reading -/

namespace Field

/-- The type of a segment; an empty one means a string. -/
def typeOfSegment (field segment : String) : FieldType × List Notice :=
  if trim segment = "" then (.string, [.emptyType field]) else (.ofText (trim segment), [])

/-- The notices of modifiers that mean nothing. Empty ones are passed over without a word. -/
def modifierNotices (field : String) (ms : List Modifier) : List Notice :=
  ms.filterMap fun
    | .unknown word => some (.unknownModifier field word)
    | _ => none

/-- The notices of a type: it cannot increment, or it is not known. -/
def typeNotices (field : String) (type : FieldType) (increments : Bool) : List Notice :=
  (if increments ∧ type ≠ .integer then [.notIncrementing field type.text] else [])
    ++ if type.isKnown then [] else [.unknownType field type.text]

/-- The field of a name, a type segment and modifiers, with the notices it gives rise to. -/
def ofSegments (name type : String) (ms : List Modifier) : Noted Rejection Field :=
  let (kind, leniency) := typeOfSegment name type
  let marks := Marks.ofModifiers ms
  { notices := leniency ++ modifierNotices name ms ++ typeNotices name kind marks.increments
    result := .ok
      { name := name
        type := kind
        isKey := marks.key
        isIncrementing := marks.increments && kind = .integer
        isNullable := marks.nullable } }

/-- **The field that a token defines**, with the notices it gives rise to. -/
def parse (token : String) : Noted Rejection Field :=
  match (segments ':' token.toList).map String.ofList with
  | name :: type :: modifiers =>
    if trim name = "" then .failure (.malformedField token .emptyName)
    else ofSegments (trim name) type (modifiers.map Modifier.ofSegment)
  | _ => .failure (.malformedField token .missingType)

/-- **The fields of several tokens**, up to the first malformed one. -/
def parseAll (tokens : List String) : Noted Rejection (List Field) := Noted.each parse tokens

/-! ## Writing -/

/-- The modifier that marks a key, if any. -/
def keyModifiers (f : Field) : List String :=
  if f.isIncrementing then ["increments"] else if f.isKey then ["primary"] else []

/-- **The canonical token**: name, type, then at most one key modifier and `nullable`. -/
def definition (f : Field) : String :=
  ":".intercalate
    ([f.name, f.type.text] ++ f.keyModifiers ++ if f.isNullable then ["nullable"] else [])

end Field

end Groundwork
