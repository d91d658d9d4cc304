import Groundwork.Proofs.Disk.Resolution

/-!
# Reading what a path names

What reading a path comes to is decided by what the path names: the bytes of a file are read, and a
directory cannot be. Below a file there is nothing, however the path goes on.

* `Node.bytes?`: the bytes that reading a node gives.
* `Disk.exists_look?_of_holds`: a path that ends in a name and exists names something.
* **`Disk.read_of_look?`**: reading by what the path names.
* **`Disk.holds_eq_false_below_file`**: below a file there is nothing.
-/

namespace Groundwork

/-- **The bytes that reading a node gives**; a directory gives none. -/
def Node.bytes? : Node → Option (List UInt8)
  | .file contents => some contents
  | .device => some []
  | .directory => none

namespace Disk

variable {d : Disk} {p q : Path} {n : Node}

theorem look?_eq_some_iff : d.look? p = some n ↔
    p.hasNull = false ∧ ∃ place, d.find p = .ok place ∧ d.root.look place = some n := by
  unfold look?
  cases p.hasNull with
  | true => simp
  | false => cases d.find p <;> simp [Except.toOption]

theorem locate_ne_directory {last : String} (hp : p.EndsIn last) (place : Place) :
    d.locate p ≠ .ok (.directory place) := by
  obtain ⟨hlast, hdot, hup⟩ := hp
  unfold locate
  simp only [hlast, hdot, hup, if_false]
  split_ifs
  · exact nofun
  · exact nofun
  · cases d.root.walk (d.start p) p.pieces.dropLast <;> exact nofun

theorem look_ne_none_of_find {last : String} {place : Place} (hp : p.EndsIn last)
    (h : d.find p = .ok place) : d.root.look place ≠ none := by
  unfold find at h
  split at h
  · cases h
  · rename_i here hl
    exact absurd hl (locate_ne_directory hp here)
  · split at h
    · cases h
    split at h
    · cases h
    · rename_i hdir
      obtain rfl := Except.ok.inj h
      rw [hdir]
      exact Option.some_ne_none _
    · rename_i node _ hnode
      split at h
      · cases h
      · obtain rfl := Except.ok.inj h
        rw [hnode]
        exact Option.some_ne_none node

/-- **A path that ends in a name** and exists names something. -/
theorem exists_look?_of_holds {last : String} (hp : p.EndsIn last) (h : d.holds p = true) :
    ∃ n, d.look? p = some n := by
  obtain ⟨hnull, hsome⟩ := Bool.and_eq_true_iff.1 h
  cases hfind : d.find p with
  | error e =>
    rw [hfind] at hsome
    cases hsome
  | ok place =>
    obtain ⟨n, hn⟩ := Option.ne_none_iff_exists'.1 (look_ne_none_of_find hp hfind)
    exact ⟨n, look?_eq_some_iff.2 ⟨by simpa using hnull, place, hfind, hn⟩⟩

/-- **Reading by what the path names.** -/
theorem read_of_look? (h : d.look? p = some n) :
    d.read p = match n.bytes? with
      | some bytes => .ok bytes
      | none => .error (.system .isDirectory) := by
  obtain ⟨hnull, place, hfind, hlook⟩ := look?_eq_some_iff.1 h
  unfold read
  rw [if_neg (by rw [hnull]; exact Bool.false_ne_true)]
  simp only [hfind, hlook]
  cases n <;> rfl

/-- **Below a file there is nothing.** -/
theorem holds_eq_false_below_file (hd : d.Sound) (hq : q ∈ p.ancestors) (hne : q ≠ p)
    {contents : List UInt8} (hfile : d.look? q = some (.file contents)) : d.holds p = false := by
  rw [← Bool.not_eq_true]
  intro hholds
  obtain ⟨-, hfind⟩ := (holds_iff hd).1 hholds
  have hreach := ((find_eq_ok_iff hd).1 hfind).1.reaches
  have hopen := ((FileTree.passable_filter (look_start hd p)).2 hreach).open_ _
    ((Path.names_of_mem_ancestors_of_ne hq hne).trans p.dropLast_names_prefix)
  have hstart : d.start q = d.start p := by
    unfold start
    rw [Path.isAbsolute_of_mem_ancestors hq]
  obtain ⟨-, place, hplace, hlook⟩ := look?_eq_some_iff.1 hfile
  obtain rfl := ((find_eq_ok_iff hd).1 hplace).2.1
  rw [place_eq_names, hstart, hopen] at hlook
  cases hlook

end Disk

end Groundwork
