import Groundwork.Proofs.Disk.Resolution

/-!
# Growing disks

Making directories adds to a disk and changes nothing that is there. Writing a file changes what
stands at one place. Either way, what exists stays what it is, and paths that resolve keep doing so.

* `Disk.Keeps`: everything that exists stays, files as files and directories as directories.
* `Disk.Grown`: nothing but new directories.
* **`Disk.makeAncestors_grown`**: making directories, successful or not, adds nothing else, and
  only what the paths name.
-/

namespace Groundwork

/-- **Two nodes of one kind.** -/
inductive Node.Like : Node → Node → Prop
  | file (old new : List UInt8) : Like (.file old) (.file new)
  | device : Like .device .device
  | directory : Like .directory .directory

namespace Node.Like

theorem refl (n : Node) : Like n n := by
  cases n with
  | file c => exact .file c c
  | device => exact .device
  | directory => exact .directory

theorem trans {a b c : Node} (h : Like a b) (h' : Like b c) : Like a c := by
  cases h with
  | file old _ =>
    cases h' with
    | file _ new => exact .file old new
  | device => exact h'
  | directory => exact h'

theorem directory_iff {a b : Node} (h : Like a b) : b = .directory ↔ a = .directory := by
  cases h <;> simp

end Node.Like

namespace Disk

variable {d d' d'' : Disk} {p : Path} {q : Place}

/-! ## What exists stays -/

/-- **What exists stays**: files as files, directories as directories, and the current directory. -/
structure Keeps (d d' : Disk) : Prop where
  current : d'.current = d.current
  kept : ∀ q n, d.root.look q = some n → ∃ n', d'.root.look q = some n' ∧ n.Like n'

namespace Keeps

theorem refl (d : Disk) : Keeps d d := ⟨rfl, fun _ n h => ⟨n, h, .refl n⟩⟩

theorem trans (h : Keeps d d') (h' : Keeps d' d'') : Keeps d d'' := by
  refine ⟨h'.current.trans h.current, fun q n hn => ?_⟩
  obtain ⟨n', hn', hlike⟩ := h.kept q n hn
  obtain ⟨n'', hn'', hlike'⟩ := h'.kept q n' hn'
  exact ⟨n'', hn'', hlike.trans hlike'⟩

theorem start (h : Keeps d d') (p : Path) : d'.start p = d.start p := by
  unfold Disk.start
  rw [h.current]

theorem place (h : Keeps d d') (p : Path) : d'.place p = d.place p := by
  unfold Disk.place
  rw [h.start]

theorem directory (h : Keeps d d') (hq : d.root.look q = some .directory) :
    d'.root.look q = some .directory := by
  obtain ⟨n, hn, hlike⟩ := h.kept q _ hq
  rw [hn, hlike.directory_iff.2 rfl]

theorem ne_none (h : Keeps d d') (hq : d.root.look q ≠ none) : d'.root.look q ≠ none := by
  obtain ⟨n, hn⟩ := Option.ne_none_iff_exists'.1 hq
  obtain ⟨n', hn', -⟩ := h.kept q n hn
  rw [hn']
  exact Option.some_ne_none n'

theorem sound (h : Keeps d d') (hd : d.Sound) : d'.Sound := by
  unfold Sound
  rw [h.current]
  exact h.directory hd

theorem resolves (h : Keeps d d') (hp : d.Resolves p) : d'.Resolves p := by
  refine ⟨hp.presentable, ⟨hp.reaches.short, fun pre hpre => ?_⟩, hp.short⟩
  rw [h.start]
  exact h.directory (hp.reaches.open_ pre hpre)

theorem find (h : Keeps d d') (hd : d.Sound) (hp : d.find p = .ok q) : d'.find p = .ok q := by
  obtain ⟨hres, hq, hthere⟩ := (find_eq_ok_iff hd).1 hp
  refine (find_eq_ok_iff (h.sound hd)).2 ⟨h.resolves hres, hq.trans (h.place p).symm, ?_⟩
  exact hthere.imp h.directory fun ⟨hne, hslash⟩ => ⟨h.ne_none hne, hslash⟩

end Keeps

/-! ## Nothing but new directories -/

/-- **Nothing but new directories**, at places with a property. -/
structure Grown (P : Place → Prop) (d d' : Disk) : Prop where
  current : d'.current = d.current
  look : ∀ q, d'.root.look q = d.root.look q ∨
    d.root.look q = none ∧ d'.root.look q = some .directory ∧ P q

namespace Grown

variable {P P' : Place → Prop}

theorem refl (P : Place → Prop) (d : Disk) : Grown P d d := ⟨rfl, fun _ => .inl rfl⟩

theorem mono (h : Grown P d d') (hP : ∀ q, P q → P' q) : Grown P' d d' :=
  ⟨h.current, fun q => (h.look q).imp_right fun ⟨hn, hd, hq⟩ => ⟨hn, hd, hP q hq⟩⟩

theorem trans (h : Grown P d d') (h' : Grown P d' d'') : Grown P d d'' := by
  refine ⟨h'.current.trans h.current, fun q => ?_⟩
  rcases h'.look q with he' | ⟨hn', hd', hq'⟩
  · rw [he']
    exact h.look q
  · rcases h.look q with he | ⟨-, hd, -⟩
    · exact .inr ⟨he ▸ hn', hd', hq'⟩
    · rw [hn'] at hd
      cases hd

theorem look_of_ne_none (h : Grown P d d') (hq : d.root.look q ≠ none) :
    d'.root.look q = d.root.look q :=
  (h.look q).resolve_right fun hn => hq hn.1

theorem keeps (h : Grown P d d') : Keeps d d' := by
  refine ⟨h.current, fun q n hn => ⟨n, ?_, .refl n⟩⟩
  rw [h.look_of_ne_none (by simp [hn]), hn]

end Grown

/-! ## Single operations -/

theorem exists_directory_above (hd : d.Sound) (hp : d.Resolves p)
    (hno : d.root.look (d.place p) ≠ some .directory) :
    ∃ here last, d.place p = here ++ [last] ∧ d.root.look here = some .directory := by
  rcases locate_cases hd p with ⟨-, -, hnot⟩ | ⟨-, -, hdir⟩ | ⟨here, last, -, hplace, hdir, -⟩
  · exact absurd hp hnot
  · exact absurd hdir hno
  · exact ⟨here, last, hplace, hdir⟩

theorem look_put (hd : d.Sound) (hp : d.Resolves p)
    (hno : d.root.look (d.place p) ≠ some .directory) {x : FileTree} (hx : x.isLeaf) (q : Place) :
    (d.put (d.place p) x).root.look q = if q = d.place p then some x.node else d.root.look q := by
  obtain ⟨here, last, hplace, hdir⟩ := exists_directory_above hd hp hno
  rw [hplace] at hno ⊢
  exact FileTree.look_put hdir hx hno q

theorem makeDirectory_grown (hd : d.Sound) (h : d.makeDirectory p = .ok d') :
    d.Grown (fun q => d'.find p = .ok q) d' ∧ d'.find p = .ok (d.place p) := by
  obtain ⟨-, hres, hnone, rfl⟩ := (makeDirectory_eq_ok_iff hd).1 h
  have hlook := look_put hd hres (by simp [hnone]) FileTree.isLeaf_empty
  have hgrown : d.Grown (fun q => q = d.place p) (d.put (d.place p) (.directory [])) := by
    refine ⟨rfl, fun q => ?_⟩
    rw [hlook q]
    split
    · rename_i hq
      exact .inr ⟨by rw [hq, hnone], rfl, hq⟩
    · exact .inl rfl
  have hfind : (d.put (d.place p) (.directory [])).find p = .ok (d.place p) := by
    refine (find_eq_ok_iff (hgrown.keeps.sound hd)).2 ⟨hgrown.keeps.resolves hres, rfl, .inl ?_⟩
    rw [hlook, if_pos rfl]
    rfl
  exact ⟨hgrown.mono fun q hq => hq ▸ hfind, hfind⟩

/-- **Making ancestors adds nothing but directories that the paths name**, whether it succeeds or
not. -/
theorem makeAncestors_grown (hd : d.Sound) (ps : List Path) :
    d.Grown (fun q => ∃ a ∈ ps, (d.makeAncestors ps).1.find a = .ok q) (d.makeAncestors ps).1 := by
  induction ps generalizing d with
  | nil => exact .refl _ d
  | cons p above ih =>
    rw [makeAncestors]
    split
    · exact .refl _ d
    · split
      · rename_i d₁ hmake
        exact (makeDirectory_grown hd hmake).1.mono fun q hq => ⟨p, List.mem_cons_self, hq⟩
      · have hgrown := ih hd
        split
        · rename_i d₁ e hrec
          rw [hrec] at hgrown
          exact hgrown.mono fun q ⟨a, ha, hq⟩ => ⟨a, List.mem_cons_of_mem _ ha, hq⟩
        · rename_i d₁ hrec
          rw [hrec] at hgrown
          have hd₁ := hgrown.keeps.sound hd
          split
          · rename_i d₂ hmake
            have hlast := (makeDirectory_grown hd₁ hmake).1
            refine .trans (hgrown.mono fun q ⟨a, ha, hq⟩ => ?_) (hlast.mono fun q hq => ?_)
            · exact ⟨a, List.mem_cons_of_mem _ ha, hlast.keeps.find hd₁ hq⟩
            · exact ⟨p, List.mem_cons_self, hq⟩
          · exact hgrown.mono fun q ⟨a, ha, hq⟩ => ⟨a, List.mem_cons_of_mem _ ha, hq⟩
      · exact .refl _ d

end Disk

end Groundwork
