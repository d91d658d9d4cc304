import Groundwork.Identifier
import Groundwork.Text.Quoted
import Groundwork.Value

/-!
# Markup

A text with holes is kept as lines of pieces: texts, outputs and tags. The tags make choices and go
through lists, and they leave no trace of their own: the blanks before a tag at the start of a line
are dropped, and so is the line end right after a tag. What is left is nested by the tags, and
rendered over named values.

* `pieces`: the pieces of some lines, without what the tags drop.
* `Tree.ofItems?`: pieces nested by their tags, unless a tag stands in a wrong place.
* `Expr.value?`, `Tree.eval?`: what stands in the holes, and what is made of a tree.
* **`Form.text?`**: the text that is rendered, unless the values do not fit.
-/

namespace Groundwork

namespace Value

mutual

/-- A value inside another one, as an output writes it. -/
def shown : Value → String
  | .null => "none"
  | .boolean b => if b then "true" else "false"
  | .number mantissa decimals => writtenNumber mantissa decimals
  | .text t => Text.quoted t
  | .list items => "[" ++ ", ".intercalate (shownItems items) ++ "]"
  | .record entries => "\x7b" ++ ", ".intercalate (shownEntries entries) ++ "\x7d"

/-- The items of a list, as an output writes them. -/
def shownItems : List Value → List String
  | [] => []
  | v :: rest => shown v :: shownItems rest

/-- The entries of a record, as an output writes them. -/
def shownEntries : List (String × Value) → List String
  | [] => []
  | (key, v) :: rest => (Text.quoted key ++ ": " ++ shown v) :: shownEntries rest

end

/-- **What an output writes**: a text as it is. -/
def output : Value → String
  | .text t => t
  | v => v.shown

/-- **What a tag goes through.** Truth values and numbers cannot be gone through. -/
def items? : Value → Option (List Value)
  | .list items => some items
  | .record entries => some (entries.map fun (key, _) => .text key)
  | .text t => some (t.toList.map fun c => .text c.toString)
  | .null => some []
  | .boolean _ | .number .. => none

/-- The value is this text. -/
@[simp] def isText : Value → String → Bool
  | .text u, t => u = t
  | _, _ => false

/-- The value is this number, with decimals or without. -/
@[simp] def isNumber : Value → Nat → Bool
  | .number mantissa decimals, n => mantissa = n * Nat.pow 10 decimals
  | _, _ => false

/-- The number of items, entries or characters. -/
def length? : Value → Option Nat
  | .list items => some items.length
  | .record entries => some entries.length
  | .text t => some t.length
  | .null | .boolean _ | .number .. => none

end Value

namespace Markup

/-! ## Expressions -/

/-- **What is made of a value** before it is used. -/
inductive Filter where
  | camel
  | pascal
  | snake
  | length
  deriving DecidableEq, Repr

/-- The case filters demand a text, and the length something that has one. -/
@[simp] def Filter.result? : Filter → Value → Option Value
  | .camel, .text t => some (.text (Identifier.camel t))
  | .pascal, .text t => some (.text (Identifier.pascal t))
  | .snake, .text t => some (.text (Identifier.snake t))
  | .length, v => v.length?.map fun n : Nat => .number n 0
  | _, _ => none

/-- **An expression** over named values. -/
inductive Expr where
  | name (x : String)
  /-- The entry of a record. -/
  | entry (e : Expr) (x : String)
  /-- The item of a list. -/
  | item (e : Expr) (index : Nat)
  | filtered (e : Expr) (f : Filter)
  | isText (e : Expr) (t : String)
  | isNumber (e : Expr) (n : Nat)
  | negation (e : Expr)
  | both (a b : Expr)
  deriving DecidableEq, Repr

/-- A name without a value counts as false. -/
def isTruthy (v : Option Value) : Bool := v.any Value.isTruthy

/-- **The value of an expression**, if there is one: an unknown name, entry or item has none. There
is neither an entry nor an item of what has no value, and no filter for it: that fails. -/
@[simp] def Expr.value? (ps : Params) : Expr → Option (Option Value)
  | .name x => some (ps.get? x)
  | .entry e x =>
    match e.value? ps with
    | some (some v) => some (v.named? x)
    | _ => none
  | .item e index =>
    match e.value? ps with
    | some (some (.list items)) => some items[index]?
    | some (some _) => some none
    | _ => none
  | .filtered e f =>
    match e.value? ps with
    | some (some v) => (f.result? v).map some
    | _ => none
  | .isText e t => (e.value? ps).map fun v => some (.boolean (v.any (·.isText t)))
  | .isNumber e n => (e.value? ps).map fun v => some (.boolean (v.any (·.isNumber n)))
  | .negation e => (e.value? ps).map fun v => some (.boolean (!isTruthy v))
  | .both a b =>
    match a.value? ps with
    | some v => if isTruthy v then b.value? ps else some v
    | none => none

/-! ## Lines and pieces -/

/-- **A tag.** A choice has any number of further cases, and what is left over in the end. -/
inductive Tag where
  | when (condition : Expr)
  | orWhen (condition : Expr)
  | otherwise
  | endWhen
  | each (x : String) (list : Expr)
  | endEach
  deriving DecidableEq, Repr

/-- What is nested: contents, and the tags that nest them. -/
inductive Item (α : Type) where
  | content (a : α)
  | tag (t : Tag)
  deriving DecidableEq, Repr

/-- What is written: a text, or the value of an expression. -/
inductive Part where
  | text (t : String)
  | output (e : Expr)
  deriving DecidableEq, Repr

/-- **A piece of a line**: a text without line ends, an output or a tag. -/
abbrev Piece := Item Part

/-- **A line** without its line end. -/
abbrev Line := List Piece

instance : Coe String Piece := ⟨fun t => .content (.text t)⟩
instance : Coe Expr Piece := ⟨fun e => .content (.output e)⟩
instance : Coe Tag Piece := ⟨.tag⟩

/-- The piece is a text. -/
@[simp] def Item.isText : Piece → Bool
  | .content (.text _) => true
  | _ => false

/-- A text of blanks. -/
def Item.isBlank : Piece → Bool
  | .content (.text t) => t.toList.all fun c => c = ' ' || c = '\t'
  | _ => false

namespace Line

/-- **The blanks before a tag** are dropped at the start of a line. -/
def trimStart (l : Line) : Line :=
  match l.dropWhile Item.isText with
  | .tag t :: rest => if (l.takeWhile Item.isText).all Item.isBlank then .tag t :: rest else l
  | _ => l

/-- **The line end after a tag** is dropped. -/
def ending (l : Line) : Line :=
  match l.getLast? with
  | some (.tag _) => []
  | _ => ["\n"]

end Line

/-- **The pieces of some lines**, without what the tags drop. The last line has no line end. -/
def pieces : List Line → List Piece
  | [] => []
  | [l] => Line.trimStart l
  | l :: rest => Line.trimStart l ++ (Line.ending l ++ pieces rest)

/-! ## Nesting -/

/-- **Contents nested by tags.** -/
inductive Tree (α : Type) where
  | done
  | content (a : α) (next : Tree α)
  | choice (condition : Expr) (yes no next : Tree α)
  | each (x : String) (list : Expr) (body next : Tree α)
  deriving DecidableEq, Repr

/-- What is nested so far, read from the end: a tree, inside choices and lists that have been ended
but not yet begun. A choice keeps what its later cases come to. -/
inductive Nest (α : Type) where
  | top (t : Tree α)
  | choice (t : Tree α) (no : Option (Tree α)) (outer : Nest α)
  | each (t : Tree α) (outer : Nest α)

namespace Nest

variable {α : Type}

/-- The innermost tree is extended. -/
@[simp] def extend (f : Tree α → Tree α) : Nest α → Nest α
  | top t => top (f t)
  | choice t no outer => choice (f t) no outer
  | each t outer => each (f t) outer

/-- **One item more**, in front of the others. -/
@[simp] def add? : Item α → Nest α → Option (Nest α)
  | .content a, n => some (n.extend (.content a))
  | .tag .endWhen, n => some (choice .done none n)
  | .tag .otherwise, choice t none outer => some (choice .done (some t) outer)
  | .tag (.orWhen c), choice t no outer =>
    some (choice .done (some (.choice c t (no.getD .done) .done)) outer)
  | .tag (.when c), choice t no outer => some (outer.extend (.choice c t (no.getD .done)))
  | .tag .endEach, n => some (each .done n)
  | .tag (.each x list), each t outer => some (outer.extend (.each x list t))
  | _, _ => none

/-- Items in front of what is nested so far. -/
@[simp] def addAll? : List (Item α) → Nest α → Option (Nest α)
  | [], n => some n
  | i :: rest, n => (addAll? rest n).bind (add? i)

end Nest

/-- **Items nested by their tags**, unless a tag stands in a wrong place. -/
def Tree.ofItems? {α : Type} (items : List (Item α)) : Option (Tree α) :=
  match Nest.addAll? items (.top .done) with
  | some (.top t) => some t
  | _ => none

/-! ## Rendering -/

/-- The results of both, one after the other. -/
def joined? {β : Type} (a b : Option (List β)) : Option (List β) :=
  a.bind fun bs => b.map (bs ++ ·)

/-- **The results of a list**, one item after another. Each is told whether it is the last. -/
@[simp] def each? {α β : Type} (f : α → Bool → Option (List β)) : List α → Option (List β)
  | [] => some []
  | a :: rest => joined? (f a rest.isEmpty) (each? f rest)

/-- The named values inside a list: the item, and whether it is the last. -/
def bound (x : String) (v : Value) (last : Bool) (ps : Params) : Params :=
  (x, v) :: ("loop", .record [("last", .boolean last)]) :: ps

/-- **What is made of a tree** over named values, by what is made of its contents. -/
@[simp] def Tree.eval? {α β : Type} (f : α → Params → Option (List β)) :
    Tree α → Params → Option (List β)
  | .done, _ => some []
  | .content a next, ps => joined? (f a ps) (next.eval? f ps)
  | .choice c yes no next, ps =>
    joined? ((c.value? ps).bind fun v => if isTruthy v then yes.eval? f ps else no.eval? f ps)
      (next.eval? f ps)
  | .each x list body next, ps =>
    joined? ((list.value? ps).bind fun v => (v.elim (some []) Value.items?).bind
      (each? fun v last => body.eval? f (bound x v last ps))) (next.eval? f ps)

/-- What a part writes; an expression without a value writes nothing. -/
@[simp] def Part.texts? : Part → Params → Option (List String)
  | .text t, _ => some [t]
  | .output e, ps => (e.value? ps).map fun v => (v.map Value.output).toList

/-- **A form**: parts nested by tags. -/
abbrev Form := Tree Part

/-- **The form of some lines**, unless a tag stands in a wrong place. -/
def form? (lines : List Line) : Option Form := Tree.ofItems? (pieces lines)

/-- **The text that is rendered.** -/
def Form.text? (p : Form) (ps : Params) : Option String :=
  (Tree.eval? Part.texts? p ps).map String.join

end Markup

end Groundwork
