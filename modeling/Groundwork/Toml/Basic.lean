import Groundwork.Value

/-!
# Documents of settings

A document assigns values to dotted keys under table headers. `Entries` are what the assignments
add up to; each rule about keys that are defined twice is a case of `Entries.edit`.

* `Value`: values; of numbers and dates only their presence is kept.
* `Item`: what a key stands for: a value, a table or an array of tables.
* `Entries.assign`, `Entries.open?`, `Entries.openMember?`: an assignment and the two headers.
-/

namespace Groundwork.Toml

/-! ## Values -/

/-- **A value.** Of numbers, dates and inline tables only their presence is kept. -/
inductive Value where
  | text (s : String)
  | boolean (b : Bool)
  /-- A number or a date. -/
  | scalar
  | array (items : List Value)
  | inline
  deriving Inhabited, Repr

/-! ## Tables -/

/-- **What a key stands for.** A table is implicit as long as no header has opened it, and dotted
when it came from a dotted key. Of an array of tables each member has entries of its own. -/
inductive Item where
  | value (v : Value)
  | table (implicit dotted : Bool) (entries : List (String × Item))
  | members (tables : List (List (String × Item)))
  deriving Inhabited, Repr

/-- **What the assignments add up to.** -/
abbrev Entries := Keyed Item

namespace Entries

/-- **A change to the table at a path.** Tables on the way are made when they are missing. A value
is no table; of an array of tables the last member counts; and a dotted key does not reach into a
table that a header has opened. The change is told whether its table is dotted. -/
def edit (byKey : Bool) (change : Bool → Entries → Option Entries) (dotted : Bool) :
    List String → Entries → Option Entries
  | [], es => change dotted es
  | key :: path, es =>
    match es.get? key with
    | none => (edit byKey change byKey path []).map fun sub => es.set key (.table true byKey sub)
    | some (.value _) => none
    | some (.table implicit subDotted sub) =>
      if byKey && !implicit then none
      else (edit byKey change subDotted path sub).map fun sub =>
        es.set key (.table implicit subDotted sub)
    | some (.members tables) =>
      match tables.getLast? with
      | none => none
      | some last => (edit byKey change false path last).map fun last =>
          es.set key (.members (tables.dropLast ++ [last]))

/-- **An assignment** to a key below a dotted path. A key is assigned once, and a dotted path does
not end in a table that a header has made. -/
def assign (path : List String) (key : String) (x : Item) (es : Entries) : Option Entries :=
  edit true (fun dotted sub =>
    if dotted = path.isEmpty then none
    else if (sub.get? key).isSome then none
    else some (sub.set key x)) false path es

/-- **The header of a table**: it opens a table that is new or was only implied. -/
def open? (path : List String) (key : String) (es : Entries) : Option Entries :=
  edit false (fun _ sub =>
    match sub.get? key with
    | none => some (sub.set key (.table false false []))
    | some (.table true false entries) => some (sub.set key (.table false false entries))
    | _ => none) false path es

/-- **The header of a member**: it adds a table to an array of tables. -/
def openMember? (path : List String) (key : String) (es : Entries) : Option Entries :=
  edit false (fun _ sub =>
    match sub.get? key with
    | none => some (sub.set key (.members [[]]))
    | some (.members tables) => some (sub.set key (.members (tables ++ [[]])))
    | _ => none) false path es

/-- An assignment below the table of a header. -/
def assignUnder (header path : List String) (key : String) (x : Item) (es : Entries) :
    Option Entries :=
  edit false (fun _ sub => assign path key x sub) false header es

end Entries

end Groundwork.Toml
