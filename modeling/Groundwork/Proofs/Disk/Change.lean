import Groundwork.Proofs.Disk.Growth

/-!
# Changing a file

A file is changed by making the directory that is to hold it, finding the place to write to, and
writing. All three look at the same path, each on a disk that the one before may have added to.

* `Disk.change`: the whole of it, for any change of the contents.
* **`Disk.change_eq_ok_iff`**: when a change succeeds.
* **`Disk.change_error_grown`**: a change that fails adds directories at most.
* **`Disk.change_ok`**: a change that succeeds concerns one place, but for new directories.
-/

namespace Groundwork

/-- What stands at a place after its contents were altered; a device keeps nothing. -/
def Node.altered (f : List UInt8 → List UInt8) : Option Node → Node
  | some .device => .device
  | some (.file old) => .file (f old)
  | _ => .file (f [])

theorem altered_cases (f : List UInt8 → List UInt8) (n : Option Node) :
    n = some .device ∧ Node.altered f n = .device ∨
      (∃ old, n = some (.file old) ∧ Node.altered f n = .file (f old)) ∨
      (n = none ∨ n = some .directory) ∧ Node.altered f n = .file (f []) := by
  cases n with
  | none => exact .inr (.inr ⟨.inl rfl, rfl⟩)
  | some n =>
    cases n with
    | file old => exact .inr (.inl ⟨old, rfl, rfl⟩)
    | device => exact .inl ⟨rfl, rfl⟩
    | directory => exact .inr (.inr ⟨.inr rfl, rfl⟩)

theorem altered_ne_directory (f : List UInt8 → List UInt8) (n : Option Node) :
    Node.altered f n ≠ .directory := by
  rcases altered_cases f n with ⟨-, h⟩ | ⟨old, -, h⟩ | ⟨-, h⟩ <;> rw [h] <;> exact nofun

namespace Disk

variable {d d' : Disk} {p : Path} {q : Place} {f : List UInt8 → List UInt8}

/-! ## Writing -/

theorem look_alterFile (hd : d.Sound) (h : d.target p = .ok q) (f : List UInt8 → List UInt8)
    (r : Place) : (d.alterFile q f).root.look r =
      if r = q then some (Node.altered f (d.root.look q)) else d.root.look r := by
  obtain ⟨-, hres, -, rfl, hno⟩ := (target_eq_ok_iff hd).1 h
  have hput := fun c => look_put hd hres hno (FileTree.isLeaf_file c) r
  unfold alterFile
  cases hq : d.root.look (d.place p) with
  | none => exact hput _
  | some n =>
    cases n with
    | file old => exact hput _
    | device =>
      change d.root.look r = _
      by_cases hr : r = d.place p
      · rw [if_pos hr, hr, hq]
        rfl
      · rw [if_neg hr]
    | directory => exact absurd hq hno

theorem alterFile_keeps (hd : d.Sound) (h : d.target p = .ok q) (f : List UInt8 → List UInt8) :
    d.Keeps (d.alterFile q f) := by
  have hlook := look_alterFile hd h f
  obtain ⟨-, -, -, -, hno⟩ := (target_eq_ok_iff hd).1 h
  refine ⟨?_, fun r n hn => ?_⟩
  · unfold alterFile
    split <;> rfl
  · rw [hlook]
    by_cases hr : r = q
    · subst hr
      rw [if_pos rfl, hn]
      refine ⟨_, rfl, ?_⟩
      cases n with
      | file old => exact .file old (f old)
      | device => exact .device
      | directory => exact absurd hn hno
    · rw [if_neg hr]
      exact ⟨n, hn, .refl n⟩

/-! ## The whole change -/

/-- The directory that is to hold a file. -/
def makeParent (d : Disk) (p : Path) : Disk × Except IoError Unit :=
  match p.parent? with
  | none => (d, .ok ())
  | some parent => d.makeDirectories parent

/-- **Changing a file**: its directory is made, its place found, its contents altered. -/
def change (d : Disk) (p : Path) (f : List UInt8 → List UInt8) : Disk × Except IoError Unit :=
  match d.makeParent p with
  | (d', .error e) => (d', .error e)
  | (d', .ok ()) =>
    match d'.target p with
    | .error e => (d', .error e)
    | .ok place => (d'.alterFile place f, .ok ())

theorem makeParent_grown (hd : d.Sound) (p : Path) :
    d.Grown (fun q => ∃ a ∈ p.ancestors.tail, (d.makeParent p).1.find a = .ok q)
      (d.makeParent p).1 := by
  unfold makeParent
  rw [Path.ancestors_eq]
  cases p.parent? with
  | none => exact .refl _ d
  | some parent => exact makeAncestors_grown hd parent.ancestors

/-- **A change that fails adds directories at most.** -/
theorem change_error_grown (hd : d.Sound) {e : IoError} (h : d.change p f = (d', .error e)) :
    d.Grown (fun q => ∃ a ∈ p.ancestors.tail, d'.find a = .ok q) d' := by
  have hgrown := makeParent_grown hd p
  unfold change at h
  split at h
  · rename_i d₁ e₁ hmake
    obtain ⟨rfl, -⟩ := Prod.mk.inj h
    rwa [hmake] at hgrown
  · rename_i d₁ hmake
    split at h
    · obtain ⟨rfl, -⟩ := Prod.mk.inj h
      rwa [hmake] at hgrown
    · cases h

/-- **A change that succeeds** makes the parent, finds the place and alters the file there. -/
theorem change_eq_ok_iff (hd : d.Sound) : d.change p f = (d', .ok ()) ↔
    ∃ d₁, d.makeParent p = (d₁, .ok ()) ∧ d₁.target p = .ok (d.place p) ∧
      d' = d₁.alterFile (d.place p) f := by
  have hgrown := (makeParent_grown hd p).keeps
  unfold change
  constructor
  · intro h
    split at h
    · cases h
    · rename_i d₁ hmake
      rw [hmake] at hgrown
      split at h
      · cases h
      · rename_i q htarget
        obtain ⟨rfl, -⟩ := Prod.mk.inj h
        obtain ⟨-, -, -, hq, -⟩ := (target_eq_ok_iff (hgrown.sound hd)).1 htarget
        rw [hgrown.place] at hq
        subst hq
        exact ⟨d₁, hmake, htarget, rfl⟩
  · rintro ⟨d₁, hmake, htarget, rfl⟩
    rw [hmake]
    simp only [htarget]

theorem hasNull_of_change (hd : d.Sound) (h : d.change p f = (d', .ok ())) : p.hasNull = false := by
  have hgrown := makeParent_grown hd p
  obtain ⟨d₁, hmake, htarget, -⟩ := (change_eq_ok_iff hd).1 h
  rw [hmake] at hgrown
  exact ((target_eq_ok_iff (hgrown.keeps.sound hd)).1 htarget).1

/-- **A file has been changed**, and nothing else but that directories may be new. -/
structure Changed (d : Disk) (p : Path) (f : List UInt8 → List UInt8) (d' : Disk) : Prop where
  keeps : d.Keeps d'
  found : d'.find p = .ok (d.place p)
  look_place : d'.root.look (d.place p) = some (Node.altered f (d.root.look (d.place p)))
  look_other : ∀ q ≠ d.place p, d'.root.look q = d.root.look q ∨
    d.root.look q = none ∧ d'.root.look q = some .directory ∧
      ∃ a ∈ p.ancestors.tail, d'.find a = .ok q

/-- **A change that succeeds concerns one place**, but for new directories. -/
theorem change_ok (hd : d.Sound) (h : d.change p f = (d', .ok ())) : d.Changed p f d' := by
  have hgrown := makeParent_grown hd p
  obtain ⟨d₁, hmake, htarget, rfl⟩ := (change_eq_ok_iff hd).1 h
  rw [hmake] at hgrown
  have hd₁ := hgrown.keeps.sound hd
  have hlook := look_alterFile hd₁ htarget f
  have hkeeps := alterFile_keeps hd₁ htarget f
  obtain ⟨-, hres, hslash, -, hno⟩ := (target_eq_ok_iff hd₁).1 htarget
  have hsame : d₁.root.look (d.place p) = d.root.look (d.place p) :=
    (hgrown.look _).resolve_right fun hnew => hno hnew.2.1
  refine ⟨hgrown.keeps.trans hkeeps, ?_, ?_, fun q hq => ?_⟩
  · refine (find_eq_ok_iff (hkeeps.sound hd₁)).2 ⟨hkeeps.resolves hres, ?_, .inr ⟨?_, hslash⟩⟩
    · rw [hkeeps.place, hgrown.keeps.place]
    · rw [hlook, if_pos rfl]
      exact Option.some_ne_none _
  · rw [hlook, if_pos rfl, hsame]
  · rw [hlook, if_neg hq]
    refine (hgrown.look q).imp_right fun ⟨hn, hdir, a, ha, hfind⟩ => ?_
    exact ⟨hn, hdir, a, ha, hkeeps.find hd₁ hfind⟩

end Disk

end Groundwork
