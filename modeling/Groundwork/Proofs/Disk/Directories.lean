import Groundwork.Proofs.Disk.Growth
import Groundwork.Proofs.Disk.Reading

/-!
# Making directories succeeds

On the way that a path names, nothing may stand but directories. Then whatever is missing can be
made, the directories that the path leads through and back out of included.

* `FileTree.Free`: every place on the way holds a directory or nothing.
* **`Disk.makeDirectories_of_free`**: on a free way all directories can be made.
-/

namespace Groundwork

namespace FileTree

variable {t : FileTree} {here : Place} {pieces : List String}

/-- **The way is free**: no name is too long, and every place on it holds a directory or nothing. -/
structure Free (t : FileTree) (here : Place) (pieces : List String) : Prop where
  short : ∀ n ∈ pieces, isTooLong n = false
  clear : ∀ pre, pre <+: pieces → t.look (Place.follow here pre) = none ∨
    t.look (Place.follow here pre) = some .directory

theorem Passable.free (h : t.Passable here pieces) : t.Free here pieces :=
  ⟨h.short, fun pre hpre => .inr (h.open_ pre hpre)⟩

theorem Free.of_prefix {more : List String} (h : t.Free here more) (hp : pieces <+: more) :
    t.Free here pieces :=
  ⟨fun n hn => h.short n (hp.subset hn), fun pre hpre => h.clear pre (hpre.trans hp)⟩

theorem walk_of_free (h : t.Free here pieces) (hhere : t.look here = some .directory)
    (hno : ¬ t.Passable here pieces) : t.walk here pieces = .error .notFound := by
  induction pieces generalizing here with
  | nil => exact absurd (passable_nil hhere) hno
  | cons piece rest ih =>
    rw [passable_cons hhere] at hno
    obtain ⟨hpiece, hshort⟩ := List.forall_mem_cons.1 h.short
    obtain ⟨-, hclear⟩ := forall_prefix_cons.1 h.clear
    have hrest : t.Free (Place.move here piece) rest := ⟨hshort, hclear⟩
    replace hno : ¬ t.Passable (Place.move here piece) rest := fun hp => hno ⟨hpiece, hp⟩
    have hfirst := hclear [] List.nil_prefix
    simp only [Place.follow_cons, Place.follow_nil] at hfirst
    rw [walk]
    unfold Place.move at hrest hno hfirst
    by_cases hdot : piece = "."
    · rw [if_pos hdot] at hrest hno ⊢
      exact ih hrest hhere hno
    by_cases hup : piece = ".."
    · rw [if_neg hdot, if_pos hup] at hrest hno ⊢
      exact ih hrest (look_dropLast hhere) hno
    rw [if_neg hdot, if_neg hup] at hrest hno hfirst ⊢
    rw [hpiece, if_neg Bool.false_ne_true]
    rcases hfirst with hnone | hdir
    · rw [hnone]
    · rw [hdir]
      exact ih hrest hdir hno

end FileTree

namespace Disk

variable {d d' : Disk} {p : Path}

theorem Grown.free {P : Place → Prop} (h : d.Grown P d') {here : Place} {pieces : List String}
    (hfree : d.root.Free here pieces) : d'.root.Free here pieces := by
  refine ⟨hfree.short, fun pre hpre => ?_⟩
  rcases h.look (Place.follow here pre) with he | ⟨-, hdir, -⟩
  · rw [he]
    exact hfree.clear pre hpre
  · exact .inr hdir

theorem reaches_iff (hd : d.Sound) (hp : p.EndsInName) :
    d.Reaches p ↔ d.root.Passable (d.start p) p.names.dropLast := by
  rw [← Path.filter_dropLast_pieces hp, FileTree.passable_filter (look_start hd p)]
  rfl

theorem short_pieces (h : ∀ n ∈ p.names, isTooLong n = false) :
    ∀ n ∈ p.pieces, isTooLong n = false := by
  intro n hn
  by_cases hdot : n = "."
  · rw [hdot]
    decide
  · exact h n (List.mem_filter.2 ⟨hn, by simpa using hdot⟩)

theorem passable_names (hd : d.Sound) (hp : p.EndsInName) (hres : d.Resolves p)
    (hdir : d.root.look (d.place p) = some .directory) :
    d.root.Passable (d.start p) p.names := by
  refine ⟨fun n hn => hres.short n (List.mem_of_mem_filter hn), fun pre hpre => ?_⟩
  rw [place_eq_names] at hdir
  obtain hnil | ⟨init, last, hsplit⟩ := List.eq_nil_or_concat p.names
  · rw [hnil, List.prefix_nil] at hpre
    rw [hpre]
    exact look_start hd p
  · rw [hsplit, List.concat_eq_append] at hpre
    rw [hsplit, List.concat_eq_append] at hdir
    rcases List.prefix_concat_iff.1 hpre with rfl | hpre
    · exact hdir
    · refine ((reaches_iff hd hp).1 hres.reaches).open_ pre ?_
      rwa [hsplit, List.concat_eq_append, List.dropLast_concat]

theorem makeDirectory_of_stands (hd : d.Sound) (hnull : p.hasNull = false) (hres : d.Resolves p)
    (hdir : d.root.look (d.place p) = some .directory) :
    d.makeDirectory p = .error (.system .exists) ∧ d.standsAlready p (.system .exists) = true := by
  have hfind : d.find p = .ok (d.place p) := (find_eq_ok_iff hd).2 ⟨hres, rfl, .inl hdir⟩
  have hlook : d.look? p = some .directory := look?_eq_some_iff.2 ⟨hnull, _, hfind, hdir⟩
  refine ⟨makeDirectory_eq_exists hd hnull hres (by simp [hdir]), ?_⟩
  simp [standsAlready, holdsDirectory, hlook]

/-- **Making one directory on a free way** succeeds once its parent is there, or finds the directory
already made. -/
theorem makeDirectory_of_free (hd : d.Sound) (hp : p.EndsInName) (hnull : p.hasNull = false)
    (hres : d.Resolves p) (hfree : d.root.Free (d.start p) p.names) :
    (∃ d', d.makeDirectory p = .ok d' ∧ d'.root.Passable (d.start p) p.names) ∨
      d.makeDirectory p = .error (.system .exists) ∧ d.standsAlready p (.system .exists) = true ∧
        d.root.Passable (d.start p) p.names := by
  have hclear := hfree.clear _ List.prefix_rfl
  rw [← place_eq_names] at hclear
  rcases hclear with hnone | hdir
  · have hmake := (makeDirectory_eq_ok_iff hd).2 ⟨hnull, hres, hnone, rfl⟩
    obtain ⟨hgrown, hfind⟩ := makeDirectory_grown hd hmake
    have hd' := hgrown.keeps.sound hd
    refine .inl ⟨_, hmake, ?_⟩
    have hpass := passable_names hd' hp (hgrown.keeps.resolves hres) (by
      rw [hgrown.keeps.place, look_put hd hres (by simp [hnone]) FileTree.isLeaf_empty, if_pos rfl]
      rfl)
    rwa [hgrown.keeps.start] at hpass
  · obtain ⟨hmake, hstands⟩ := makeDirectory_of_stands hd hnull hres hdir
    exact .inr ⟨hmake, hstands, passable_names hd hp hres hdir⟩

theorem makeDirectory_eq_notFound (hd : d.Sound) (hp : p.EndsInName) (hnull : p.hasNull = false)
    (hpres : p.IsPresentable) (hfree : d.root.Free (d.start p) p.names) (hno : ¬ d.Reaches p) :
    d.makeDirectory p = .error (.system .notFound) := by
  have hwalk : d.root.walk (d.start p) p.pieces.dropLast = .error .notFound := by
    rw [← FileTree.walk_filter, Path.filter_dropLast_pieces hp]
    refine FileTree.walk_of_free (hfree.of_prefix (List.dropLast_prefix _)) (look_start hd p) ?_
    rwa [← reaches_iff hd hp]
  have hlocate : d.locate p = .error .notFound := by
    unfold locate
    rw [if_neg hpres.1, if_neg (Nat.not_lt.2 hpres.2)]
    cases hlast : p.pieces.getLast? with
    | none =>
      rw [List.getLast?_eq_none_iff.1 hlast] at hwalk
      cases hwalk
    | some last => simp only [hwalk]
  simp [makeDirectory, hnull, hlocate]

theorem hasNull_of_isPrefix {q : Path} (h : q.text.toList <+: p.text.toList)
    (hnull : p.hasNull = false) : q.hasNull = false := by
  unfold Path.hasNull at hnull ⊢
  rw [List.contains_eq_mem, decide_eq_false_iff_not] at hnull ⊢
  exact fun hmem => hnull (h.subset hmem)

theorem hasNull_of_parent? {q : Path} (h : p.parent? = some q) (hnull : p.hasNull = false) :
    q.hasNull = false :=
  hasNull_of_isPrefix (Path.prefix_of_parent? h) hnull

theorem size_of_isPrefix {q : Path} (h : q.text.toList <+: p.text.toList) :
    q.text.utf8ByteSize ≤ p.text.utf8ByteSize := by
  obtain ⟨rest, hrest⟩ := h
  have htext : p.text = q.text ++ String.ofList rest := by
    rw [← String.ofList_toList (s := p.text), ← hrest, String.ofList_append, String.ofList_toList]
  rw [htext, String.utf8ByteSize_append]
  exact Nat.le_add_right _ _

theorem size_of_parent? {q : Path} (h : p.parent? = some q) :
    q.text.utf8ByteSize ≤ p.text.utf8ByteSize :=
  size_of_isPrefix (Path.prefix_of_parent? h)

/-- **On a free way all directories can be made.** -/
theorem makeDirectories_of_free (hd : d.Sound) (hp : p.EndsInName) (hnull : p.hasNull = false)
    (hsize : p.text.utf8ByteSize ≤ longestPath) (hfree : d.root.Free (d.start p) p.names) :
    ∃ d', d.makeDirectories p = (d', .ok ()) ∧ d'.root.Passable (d.start p) p.names := by
  unfold makeDirectories
  induction p using Path.ancestors.induct with
  | case1 p ih =>
    rw [Path.ancestors_eq, makeAncestors]
    by_cases htrivial : p.text = "" ∨ p.parent? = none
    · have hnames : p.names = [] := by
        rcases htrivial with h | h
        · rw [Path.names_eq, h]
          rfl
        · exact Path.names_of_parent?_eq_none h
      rw [if_pos htrivial, hnames]
      exact ⟨d, rfl, FileTree.passable_nil (look_start hd p)⟩
    rw [if_neg htrivial]
    obtain ⟨htext, hparent⟩ := not_or.1 htrivial
    obtain ⟨q, hq⟩ := Option.ne_none_iff_exists'.1 hparent
    have hshort := short_pieces hfree.short
    -- Either the parent is there, or it is missing and made first, by induction.
    by_cases hreach : d.Reaches p
    · rcases makeDirectory_of_free hd hp hnull ⟨⟨htext, hsize⟩, hreach, hshort⟩ hfree with
        ⟨d', hmake, hpass⟩ | ⟨hmake, hstands, hpass⟩
      · exact ⟨d', by rw [hmake], hpass⟩
      · exact ⟨d, by rw [hmake]; simp [hstands], hpass⟩
    · have hstart : d.start q = d.start p := by
        unfold start
        rw [Path.isAbsolute_of_parent? hq]
      have hnames := Path.names_of_parent? hq
      obtain ⟨d₁, hrec, hpass⟩ := ih q hq (Path.endsInName_of_parent? hq)
        (hasNull_of_parent? hq hnull) ((size_of_parent? hq).trans hsize) (by
          rw [hstart, hnames]
          exact hfree.of_prefix (List.dropLast_prefix _))
      have hgrown := makeAncestors_grown hd q.ancestors
      rw [hrec] at hgrown
      have hd₁ := hgrown.keeps.sound hd
      have hreach₁ : d₁.Reaches p := by
        rw [reaches_iff hd₁ hp, hgrown.keeps.start, ← hnames, ← hstart]
        exact hpass
      have hfree₁ := hgrown.free hfree
      rw [← hgrown.keeps.start] at hfree₁
      rw [makeDirectory_eq_notFound hd hp hnull ⟨htext, hsize⟩ hfree hreach, hq]
      simp only [Option.map_some, Option.getD_some, hrec]
      rcases makeDirectory_of_free hd₁ hp hnull ⟨⟨htext, hsize⟩, hreach₁, hshort⟩ hfree₁ with
        ⟨d', hmake, hpass'⟩ | ⟨hmake, hstands, hpass'⟩
      · exact ⟨d', by rw [hmake], hgrown.keeps.start p ▸ hpass'⟩
      · exact ⟨d₁, by rw [hmake]; simp [hstands], hgrown.keeps.start p ▸ hpass'⟩

end Disk

end Groundwork
