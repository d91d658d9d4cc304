/-!
# Values under names

Template parameters are values of a small data format: nothing, truth values, decimal numbers,
texts, lists and records whose entries keep their order. Entries under names are also what a
directory holds, and what the keys of a document are.

* `Keyed.get?`, `Keyed.set`: reading and setting one entry.
* **`Keyed.get?_set`**: what is set is read back, and nothing else changes.
* `Value.isTruthy`: the value counts as true in a condition.
* `Value.compact`: the written form without spaces.
-/

namespace Groundwork

/-! ## Entries under names -/

/-- **Entries under names**, in order. -/
abbrev Keyed (α : Type) := List (String × α)

namespace Keyed

variable {α : Type}

/-- The first entry of a name. -/
def get? : Keyed α → String → Option α
  | [], _ => none
  | (key, a) :: rest, name => if name = key then some a else get? rest name

/-- **Setting an entry**: in its place if the name has one, else at the end. -/
def set : Keyed α → String → α → Keyed α
  | [], name, a => [(name, a)]
  | (key, old) :: rest, name, a =>
    if name = key then (key, a) :: rest else (key, old) :: set rest name a

/-- **What is set is read back, and nothing else changes.** -/
theorem get?_set (es : Keyed α) (name key : String) (a : α) :
    (es.set name a).get? key = if key = name then some a else es.get? key := by
  induction es with
  | nil => rfl
  | cons e rest ih =>
    obtain ⟨k, old⟩ := e
    by_cases hk : name = k
    · subst hk
      by_cases h : key = name <;> simp [set, get?, h]
    · by_cases h : key = k
      · subst h; simp [set, get?, hk, Ne.symm hk]
      · simp [set, get?, hk, h, ih]

end Keyed

/-! ## Values -/

/-- **A value.** A number is `mantissa · 10 ^ -decimals`. -/
inductive Value where
  | null
  | boolean (b : Bool)
  | number (mantissa : Int) (decimals : Nat)
  | text (t : String)
  | list (items : List Value)
  | record (entries : List (String × Value))
  deriving Inhabited, Repr

/-- **Named values** in order. -/
abbrev Params := Keyed Value

namespace Value

/-- **True in a condition**: all but nothing, falsehood, zero and what is empty. -/
def isTruthy : Value → Bool
  | .null => false
  | .boolean b => b
  | .number mantissa _ => mantissa ≠ 0
  | .text t => t ≠ ""
  | .list items => !items.isEmpty
  | .record entries => !entries.isEmpty

/-- The entry of a record under a name. -/
def named? : Value → String → Option Value
  | .record entries, name => Keyed.get? entries name
  | _, _ => none

/-! ## Written form -/

/-- The last hexadecimal digit of a number. -/
def escapeDigit (n : Nat) : Char := Nat.digitChar (n % 16)

/-- A character as it is written. -/
def writtenChar (c : Char) : List Char :=
  match c with
  | '"' => ['\\', '"']
  | '\\' => ['\\', '\\']
  | '\x08' => ['\\', 'b']
  | '\t' => ['\\', 't']
  | '\n' => ['\\', 'n']
  | '\x0c' => ['\\', 'f']
  | '\r' => ['\\', 'r']
  | c =>
    if c.toNat < 0x20 then ['\\', 'u', '0', '0', escapeDigit (c.toNat / 16), escapeDigit c.toNat]
    else [c]

/-- A written text: quotes, backslashes and controls are escaped. -/
def writtenText (t : String) : String :=
  "\"" ++ String.ofList (t.toList.flatMap writtenChar) ++ "\""

/-- A written number: the decimals follow a point. -/
def writtenNumber (mantissa : Int) (decimals : Nat) : String :=
  if decimals = 0 then toString mantissa
  else
    let digits := (toString mantissa.natAbs).toList
    let padded := List.replicate (decimals + 1 - digits.length) '0' ++ digits
    let whole := padded.length - decimals
    (if mantissa < 0 then "-" else "")
      ++ String.ofList (padded.take whole ++ ['.'] ++ padded.drop whole)

mutual

/-- **The written form**, without spaces. -/
def compact : Value → String
  | .null => "null"
  | .boolean b => if b then "true" else "false"
  | .number mantissa decimals => writtenNumber mantissa decimals
  | .text t => writtenText t
  | .list items => "[" ++ ",".intercalate (compactItems items) ++ "]"
  | .record entries => "\x7b" ++ ",".intercalate (compactEntries entries) ++ "\x7d"

/-- The written items of a list. -/
def compactItems : List Value → List String
  | [] => []
  | v :: rest => compact v :: compactItems rest

/-- The written entries of a record. -/
def compactEntries : List (String × Value) → List String
  | [] => []
  | (key, v) :: rest => (writtenText key ++ ":" ++ compact v) :: compactEntries rest

end

end Value

end Groundwork
