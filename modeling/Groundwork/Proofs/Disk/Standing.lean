import Groundwork.Proofs.Disk.Change
import Groundwork.Proofs.Disk.Directories

/-!
# Files that stand

Once a file stands at the end of a path, so do all directories above it. To change it again there is
nothing to make, and nothing but its contents changes.

* `Disk.Stands`: a file, or a device, stands where a path leads.
* `Disk.Alike`, `Disk.Altered`: two disks that look the same, everywhere or but for the contents at
  one place.
* **`Disk.stands_of_change`**: a file that has been changed stands.
* **`Disk.Stands.change`**: a file that stands is changed in its contents alone.
-/

namespace Groundwork

namespace Disk

variable {d d₁ d' : Disk} {p : Path} {q : Place} {f : List UInt8 → List UInt8}

/-! ## Disks that look the same -/

/-- **Two disks look the same**: the same stands at every place. -/
structure Alike (d d' : Disk) : Prop where
  current : d'.current = d.current
  look : ∀ q, d'.root.look q = d.root.look q

theorem Alike.refl (d : Disk) : d.Alike d := ⟨rfl, fun _ => rfl⟩

theorem Alike.trans (h : d.Alike d₁) (h' : d₁.Alike d') : d.Alike d' :=
  ⟨h'.current.trans h.current, fun q => (h'.look q).trans (h.look q)⟩

theorem Alike.keeps (h : d.Alike d') : d.Keeps d' :=
  ⟨h.current, fun q n hn => ⟨n, (h.look q).trans hn, .refl n⟩⟩

/-- **Nothing but the contents at one place** was altered. -/
structure Altered (q : Place) (f : List UInt8 → List UInt8) (d d' : Disk) : Prop where
  current : d'.current = d.current
  look_place : d'.root.look q = some (Node.altered f (d.root.look q))
  look_other : ∀ p ≠ q, d'.root.look p = d.root.look p

theorem Alike.altered (h : d.Alike d₁) (h' : Altered q f d₁ d') : Altered q f d d' where
  current := h'.current.trans h.current
  look_place := by rw [h'.look_place, h.look]
  look_other := fun p hp => (h'.look_other p hp).trans (h.look p)

theorem Altered.alike (h : Altered q f d d')
    (hsame : some (Node.altered f (d.root.look q)) = d.root.look q) : d.Alike d' := by
  refine ⟨h.current, fun p => ?_⟩
  by_cases hp : p = q
  · rw [hp, h.look_place, hsame]
  · exact h.look_other p hp

theorem altered_alterFile (hd : d.Sound) (h : d.target p = .ok q) (f : List UInt8 → List UInt8) :
    Altered q f d (d.alterFile q f) where
  current := (alterFile_keeps hd h f).current
  look_place := by rw [look_alterFile hd h, if_pos rfl]
  look_other := fun r hr => by rw [look_alterFile hd h, if_neg hr]

/-! ## Directories that stand -/

theorem makeDirectories_of_passable (hd : d.Sound) (hp : p.EndsInName) (hnull : p.hasNull = false)
    (hsize : p.text.utf8ByteSize ≤ longestPath) (hpass : d.root.Passable (d.start p) p.names) :
    d.makeDirectories p = (d, .ok ()) := by
  rw [makeDirectories, Path.ancestors_eq, makeAncestors]
  by_cases htrivial : p.text = "" ∨ p.parent? = none
  · rw [if_pos htrivial]
  rw [if_neg htrivial]
  have hreach : d.Reaches p := (reaches_iff hd hp).2
    ⟨fun n hn => hpass.short n (List.dropLast_subset _ hn),
      fun pre hpre => hpass.open_ pre (hpre.trans (List.dropLast_prefix _))⟩
  have hres : d.Resolves p :=
    ⟨⟨(not_or.1 htrivial).1, hsize⟩, hreach, short_pieces hpass.short⟩
  have hdir : d.root.look (d.place p) = some .directory := by
    rw [place_eq_names]
    exact hpass.open_ _ List.prefix_rfl
  obtain ⟨hmake, hstands⟩ := makeDirectory_of_stands hd hnull hres hdir
  rw [hmake]
  simp only [hstands, if_true]

/-! ## Files that stand -/

/-- **A file stands where the path leads**, or a device: what is there is no directory. -/
structure Stands (d : Disk) (p : Path) : Prop where
  noNull : p.hasNull = false
  found : d.find p = .ok (d.place p)
  file : d.root.look (d.place p) ≠ some .directory

/-- **A file that has been changed** stands. -/
theorem stands_of_change (hd : d.Sound) (h : d.change p f = (d', .ok ())) : d'.Stands p := by
  have hchanged := change_ok hd h
  have hplace := hchanged.keeps.place p
  refine ⟨hasNull_of_change hd h, hplace ▸ hchanged.found, ?_⟩
  rw [hplace, hchanged.look_place]
  exact fun hdir => altered_ne_directory _ _ (Option.some.inj hdir)

namespace Stands

theorem holds (h : d.Stands p) (hd : d.Sound) : d.holds p = true :=
  (holds_iff hd).2 ⟨h.noNull, h.found⟩

theorem of_keeps (h : d.Stands p) (hd : d.Sound) (hkeeps : d.Keeps d') : d'.Stands p := by
  have hplace := hkeeps.place p
  refine ⟨h.noNull, hplace ▸ hkeeps.find hd h.found, ?_⟩
  rw [hplace]
  obtain ⟨-, -, hthere⟩ := (find_eq_ok_iff hd).1 h.found
  obtain ⟨n, hn⟩ := Option.ne_none_iff_exists'.1 (hthere.resolve_left h.file).1
  obtain ⟨n', hn', hlike⟩ := hkeeps.kept _ n hn
  rw [hn']
  intro hdir
  exact h.file (hn.trans (congrArg some (hlike.directory_iff.1 (Option.some.inj hdir))))

theorem target (h : d.Stands p) (hd : d.Sound) : d.target p = .ok (d.place p) := by
  obtain ⟨hres, -, hthere⟩ := (find_eq_ok_iff hd).1 h.found
  exact (target_eq_ok_iff hd).2
    ⟨h.noNull, hres, (hthere.resolve_left h.file).2, rfl, h.file⟩

theorem makeParent (h : d.Stands p) (hd : d.Sound) : d.makeParent p = (d, .ok ()) := by
  obtain ⟨hres, -, -⟩ := (find_eq_ok_iff hd).1 h.found
  have hends : p.EndsInName := by
    rcases spot_cases hd hres.reaches with ⟨-, hdir, -⟩ | ⟨here, last, -, -, hlast, -⟩
    · exact absurd hdir h.file
    · exact .inr ⟨last, hlast.2.1, hlast.1⟩
  unfold Disk.makeParent
  cases hparent : p.parent? with
  | none => rfl
  | some parent =>
    have hstart : d.start parent = d.start p := by
      unfold start
      rw [Path.isAbsolute_of_parent? hparent]
    refine makeDirectories_of_passable hd (Path.endsInName_of_parent? hparent)
      (hasNull_of_parent? hparent h.noNull)
      ((size_of_parent? hparent).trans hres.presentable.2) ?_
    rw [hstart, Path.names_of_parent? hparent, ← reaches_iff hd hends]
    exact hres.reaches

/-- **A file that stands is changed** in its contents alone. -/
theorem change (h : d.Stands p) (hd : d.Sound) (f : List UInt8 → List UInt8) :
    ∃ d', d.change p f = (d', .ok ()) ∧ Altered (d.place p) f d d' :=
  ⟨_, (change_eq_ok_iff hd).2 ⟨d, h.makeParent hd, h.target hd, rfl⟩,
    altered_alterFile hd (h.target hd) f⟩

end Stands

end Disk

end Groundwork
