import Groundwork.Value

/-!
# File trees

A file tree holds directories, regular files and devices; a device keeps nothing of what is
written to it. Places are lists of names from the root down.

* `FileTree.look`: what stands at a place.
* `FileTree.put`: the tree with something else at a place.
* **`FileTree.look_put`**: a file or empty directory put into a directory is found there, and
  nothing else changes.
* `FileTree.changes`: the leaves of one tree that another one does not have.
-/

namespace Groundwork

/-- **A file tree.** A device keeps nothing of what is written to it. -/
inductive FileTree where
  | file (contents : List UInt8)
  | device
  | directory (entries : List (String × FileTree))
  deriving Inhabited, Repr

/-- **What stands at a place**, without what is below it. -/
inductive Node where
  | file (contents : List UInt8)
  | device
  | directory
  deriving DecidableEq, Repr

/-- A place in a tree: the names from the root down. -/
abbrev Place := List String

namespace FileTree

/-! ## Looking -/

/-- The tree of a name in a directory. -/
def child? : FileTree → String → Option FileTree
  | .directory es, name => Keyed.get? es name
  | _, _ => none

/-- The tree at a place. -/
def at? (t : FileTree) : Place → Option FileTree
  | [] => some t
  | name :: rest => (t.child? name).bind (at? · rest)

/-- A tree without what is below it. -/
def node : FileTree → Node
  | .file contents => .file contents
  | .device => .device
  | .directory _ => .directory

/-- **What stands at a place.** -/
def look (t : FileTree) (p : Place) : Option Node := (t.at? p).map node

/-! ## Putting -/

/-- A directory with another tree under a name; anything else stays. -/
def setChild : FileTree → String → FileTree → FileTree
  | .directory es, name, x => .directory (Keyed.set es name x)
  | t, _, _ => t

/-- **The tree with `x` at a place.** Directories on the way that are missing are made. -/
def put (t : FileTree) : Place → FileTree → FileTree
  | [], x => x
  | name :: rest, x => t.setChild name (put ((t.child? name).getD (.directory [])) rest x)

/-- The tree has nothing below it. -/
def isLeaf (t : FileTree) : Prop := ∀ name, t.child? name = none

theorem isLeaf_file (contents : List UInt8) : isLeaf (.file contents) := fun _ => rfl

theorem isLeaf_empty : isLeaf (.directory []) := fun _ => rfl

theorem isLeaf_of_node {t : FileTree} (h : t.node ≠ .directory) : t.isLeaf := by
  cases t with
  | directory es => exact absurd rfl h
  | _ => exact fun _ => rfl

theorem at?_of_isLeaf {t : FileTree} (h : t.isLeaf) (name : String) (rest : Place) :
    t.at? (name :: rest) = none := by
  simp [at?, h name]

theorem look_of_isLeaf {t : FileTree} (h : t.isLeaf) (name : String) (rest : Place) :
    t.look (name :: rest) = none := by
  simp [look, at?_of_isLeaf h]

theorem look_nil (t : FileTree) : t.look [] = some t.node := rfl

theorem look_cons (t : FileTree) (name : String) (rest : Place) :
    t.look (name :: rest) = (t.child? name).bind (look · rest) := by
  cases h : t.child? name <;> simp [look, at?, h]

/-- **What is put into a directory is found there, and nothing else changes**, provided that
nothing is below what is put nor below what it replaces. -/
theorem look_put {t x : FileTree} {d : Place} {n : String} (hd : t.look d = some .directory)
    (hx : x.isLeaf) (hn : t.look (d ++ [n]) ≠ some .directory) (q : Place) :
    (t.put (d ++ [n]) x).look q = if q = d ++ [n] then some x.node else t.look q := by
  induction d generalizing t q with
  | nil =>
    cases t with
    | file c => simp [look, at?, node] at hd
    | device => simp [look, at?, node] at hd
    | directory es =>
      cases q with
      | nil => simp [put, setChild, look_nil, node]
      | cons m rest =>
        simp only [List.nil_append, put, setChild, look_cons, child?, Keyed.get?_set]
        by_cases hm : m = n
        · subst hm
          cases rest with
          | nil => simp [look_nil]
          | cons k more =>
            have hold : (Keyed.get? es m).bind (look · (k :: more)) = none := by
              cases he : Keyed.get? es m with
              | none => rfl
              | some old =>
                have : old.node ≠ .directory := by
                  intro h
                  exact hn (by simp [look_cons, child?, he, look_nil, h])
                exact look_of_isLeaf (isLeaf_of_node this) k more
            simp [hold, look_of_isLeaf hx]
        · simp [hm]
  | cons a d ih =>
    cases t with
    | file c => simp [look_cons, child?] at hd
    | device => simp [look_cons, child?] at hd
    | directory es =>
      rw [look_cons] at hd
      simp only [child?] at hd
      cases he : Keyed.get? es a with
      | none => simp [he] at hd
      | some sub =>
        rw [he] at hd
        have hn' : sub.look (d ++ [n]) ≠ some .directory := by
          simpa [look_cons, child?, he] using hn
        cases q with
        | nil => simp [put, setChild, look_nil, node]
        | cons m rest =>
          simp only [List.cons_append, put, setChild, look_cons, child?, Keyed.get?_set, he,
            Option.getD_some]
          by_cases hm : m = a
          · subst hm
            simp [ih hd hn', he]
          · simp [hm]

/-! ## Listing -/

mutual

/-- **The files, devices and empty directories** of a tree, each with its place below `p`. -/
def leaves (p : Place) : FileTree → List (Place × Node)
  | .file contents => [(p, .file contents)]
  | .device => [(p, .device)]
  | .directory es => if es.isEmpty then [(p, .directory)] else leavesOf p es

/-- The leaves of the entries of a directory. -/
def leavesOf (p : Place) : List (String × FileTree) → List (Place × Node)
  | [] => []
  | (name, t) :: rest => leaves (p ++ [name]) t ++ leavesOf p rest

end

/-- **The leaves of a tree that differ from what `before` has in their place.** -/
def changes (before after : FileTree) : List (Place × Node) :=
  (after.leaves []).filter fun (place, node) => before.look place ≠ some node

end FileTree

end Groundwork
