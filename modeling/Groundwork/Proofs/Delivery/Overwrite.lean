import Groundwork.Proofs.Delivery.Step
import Groundwork.Proofs.Disk.Directories

/-!
# Files that are replaced without a question

Whether a file exists is asked of the disk as it is before the directories above the file are made.
A path may lead into a directory that is missing and back out of it by two dots: then it resolves to
nothing at first, and to a file that has been there all along once the directory is made.

* `Disk.Slips`: the paths whose way is missing but can be made.
* `Disk.Slips.change_eq_ok`, `Disk.slips_of_change`: these are the paths that hold nothing and yet
  can be written to.
* **`World.writeConfirmed_replaces_iff`**: exactly on these paths a file is replaced without a
  question.
* `World.writeConfirmed_keeps_files`: a path without two dots is not one of them.
-/

namespace Groundwork

open Text (encode)

theorem Path.EndsIn.mem_names {p : Path} {n : String} (h : p.EndsIn n) : n ∈ p.names :=
  List.mem_filter.2 ⟨List.mem_of_getLast? h.1, by simpa using h.2.1⟩

theorem Path.EndsIn.endsInName {p : Path} {n : String} (h : p.EndsIn n) : p.EndsInName :=
  .inr ⟨n, h.2.1, h.1⟩

namespace Disk

variable {d d' : Disk} {p : Path} {old : List UInt8} {f : List UInt8 → List UInt8}

/-- **The way of a path is missing, but can be made**: the path ends in a name, the system takes it,
nothing but directories stands on its way, and one of these is missing. -/
structure Slips (d : Disk) (p : Path) : Prop where
  null : p.hasNull = false
  presentable : p.IsPresentable
  slash : p.endsInSlash = false
  name : ∃ n, p.EndsIn n
  short : ∀ n ∈ p.pieces, isTooLong n = false
  free : d.root.Free (d.start p) p.names.dropLast
  missing : ∃ pre, pre <+: p.names.dropLast ∧
    d.root.look (Place.follow (d.start p) pre) = none

theorem Slips.endsInName (h : d.Slips p) : p.EndsInName := h.name.elim fun _ hn => hn.endsInName

theorem Slips.not_reaches (h : d.Slips p) (hd : d.Sound) : ¬ d.Reaches p := by
  rw [reaches_iff hd h.endsInName]
  intro hpass
  obtain ⟨pre, hpre, hnone⟩ := h.missing
  rw [hpass.open_ pre hpre] at hnone
  cases hnone

theorem Slips.holds_eq_false (h : d.Slips p) (hd : d.Sound) : d.holds p = false := by
  rw [← Bool.not_eq_true, holds_iff hd]
  rintro ⟨-, hfind⟩
  exact h.not_reaches hd ((find_eq_ok_iff hd).1 hfind).1.reaches

/-- **A path whose way can be made is written to**, if it names a file. -/
theorem Slips.change_eq_ok (h : d.Slips p) (hd : d.Sound)
    (hfile : d.root.look (d.place p) = some (.file old)) : ∃ d', d.change p f = (d', .ok ()) := by
  obtain ⟨n, hn⟩ := h.name
  obtain ⟨q, hq⟩ : ∃ q, p.parent? = some q := by
    refine Option.ne_none_iff_exists'.1 fun hnone => ?_
    have hmem := hn.mem_names
    rw [Path.names_of_parent?_eq_none hnone] at hmem
    cases hmem
  have hstart : d.start q = d.start p := by
    unfold start
    rw [Path.isAbsolute_of_parent? hq]
  have hfree : d.root.Free (d.start q) q.names := by
    rw [hstart, Path.names_of_parent? hq]
    exact h.free
  obtain ⟨d₁, hmake, hpass⟩ := makeDirectories_of_free hd (Path.endsInName_of_parent? hq)
    (hasNull_of_parent? hq h.null) ((size_of_parent? hq).trans h.presentable.2) hfree
  have hparent : d.makeParent p = (d₁, .ok ()) := by
    unfold makeParent
    rw [hq]
    exact hmake
  have hgrown := makeParent_grown hd p
  rw [hparent] at hgrown
  have hd₁ := hgrown.keeps.sound hd
  have hreach : d₁.Reaches p := by
    rw [reaches_iff hd₁ h.endsInName, hgrown.keeps.start, ← Path.names_of_parent? hq, ← hstart]
    exact hpass
  have hlook : d₁.root.look (d.place p) = some (.file old) := by
    rw [hgrown.look_of_ne_none (by simp [hfile]), hfile]
  have htarget : d₁.target p = .ok (d.place p) := by
    refine (target_eq_ok_iff hd₁).2 ⟨h.null, ⟨h.presentable, hreach, h.short⟩, h.slash, ?_, ?_⟩
    · rw [hgrown.keeps.place]
    · simp [hlook]
  exact ⟨_, (change_eq_ok_iff hd).2 ⟨d₁, hparent, htarget, rfl⟩⟩

/-- **A path that holds nothing but can be written to**, and that names a file, slips. -/
theorem slips_of_change (hd : d.Sound) (hfile : d.root.look (d.place p) = some (.file old))
    (hholds : d.holds p = false) (h : d.change p f = (d', .ok ())) : d.Slips p := by
  obtain ⟨d₁, hmake, htarget, -⟩ := (change_eq_ok_iff hd).1 h
  have hgrown := makeParent_grown hd p
  rw [hmake] at hgrown
  have hd₁ := hgrown.keeps.sound hd
  obtain ⟨hnull, hres, hslash, -, hnodir⟩ := (target_eq_ok_iff hd₁).1 htarget
  obtain ⟨n, hn⟩ : ∃ n, p.EndsIn n := by
    rcases spot_cases hd₁ hres.reaches with ⟨-, hdir, -⟩ | ⟨-, n, -, -, hn, -⟩
    · rw [hgrown.keeps.place] at hdir
      exact absurd hdir hnodir
    · exact ⟨n, hn⟩
  -- Whatever the new disk has on the way was there before, or was missing.
  have hpass := (reaches_iff hd₁ hn.endsInName).1 hres.reaches
  rw [hgrown.keeps.start] at hpass
  have hfree : d.root.Free (d.start p) p.names.dropLast := by
    refine ⟨hpass.short, fun pre hpre => ?_⟩
    rcases hgrown.look (Place.follow (d.start p) pre) with hsame | ⟨hnone, -, -⟩
    · rw [← hsame]
      exact .inr (hpass.open_ pre hpre)
    · exact .inl hnone
  refine ⟨hnull, hres.presentable, hslash, ⟨n, hn⟩, hres.short, hfree, ?_⟩
  by_contra hall
  have hopen : d.root.Passable (d.start p) p.names.dropLast := by
    refine ⟨hfree.short, fun pre hpre => (hfree.clear pre hpre).resolve_left fun hnone => ?_⟩
    exact hall ⟨pre, hpre, hnone⟩
  have hreach := (reaches_iff hd hn.endsInName).2 hopen
  have hfind : d.find p = .ok (d.place p) := by
    refine (find_eq_ok_iff hd).2 ⟨⟨hres.presentable, hreach, hres.short⟩, rfl, .inr ⟨?_, hslash⟩⟩
    simp [hfile]
  rw [(holds_iff hd).2 ⟨hnull, hfind⟩] at hholds
  cases hholds

theorem not_slips_of_not_climbs (hp : p.climbs = false) (hthere : d.root.look (d.place p) ≠ none) :
    ¬ d.Slips p := by
  intro h
  obtain ⟨n, hn⟩ := h.name
  obtain ⟨pre, ⟨rest, hrest⟩, hnone⟩ := h.missing
  have hnames : pre ++ (rest ++ [p.names.getLast (List.ne_nil_of_mem hn.mem_names)]) = p.names := by
    rw [← List.append_assoc, hrest, List.dropLast_append_getLast]
  have hdot : "." ∉ p.names := by simp [Path.names]
  have hup := Path.not_mem_names hp
  rw [place_eq_names, Place.follow_of_not_mem _ hdot hup, ← hnames, ← List.append_assoc] at hthere
  have hdir := FileTree.look_eq_directory_of_append hthere (by simp)
  rw [← hnames, List.mem_append, not_or] at hdot hup
  rw [Place.follow_of_not_mem _ hdot.1 hup.1, hdir] at hnone
  cases hnone

end Disk

namespace World

variable {p : Path} {contents : String} {w w' : World}

theorem questions_concat (h : List Event) (q : String) :
    Event.questions (h ++ [.asked q]) = Event.questions h ++ q := by
  simp [Event.questions]

theorem overwriteQuestion_ne_empty (p : Path) : overwriteQuestion p ≠ "" := by
  simp [overwriteQuestion]

theorem questions_writeConfirmed_iff {r : Except Failure Bool}
    (h : writeConfirmed false p contents w = (r, w')) :
    Event.questions w'.history = Event.questions w.history ↔ w.disk.holds p = false := by
  rw [history_of_writeConfirmed h]
  cases hholds : w.disk.holds p with
  | false => simp
  | true =>
    rw [if_pos ⟨rfl, rfl⟩, questions_concat]
    simp [overwriteQuestion_ne_empty]

variable {r : Except Failure Bool} {q : Place} {old : List UInt8}

theorem slips_of_replaced (hd : w.disk.Sound) (h : writeConfirmed false p contents w = (r, w'))
    (hsilent : Event.questions w'.history = Event.questions w.history)
    (hold : w.disk.root.look q = some (.file old)) (hnew : w'.disk.root.look q ≠ some (.file old)) :
    w.disk.Slips p ∧ q = w.disk.place p ∧ old ≠ encode contents := by
  have hholds := (questions_writeConfirmed_iff h).1 hsilent
  obtain ⟨hyes, -⟩ | ⟨hchange, -⟩ | ⟨e, context, hchange, -⟩ := writeConfirmed_cases h
  · rw [hholds] at hyes
    cases hyes
  · have hchanged := Disk.change_ok hd hchange
    have hq : q = w.disk.place p := by
      by_contra hne
      rcases hchanged.look_other q hne with hsame | ⟨hnone, -, -⟩
      · exact hnew (hsame.trans hold)
      · rw [hold] at hnone
        cases hnone
    subst hq
    refine ⟨Disk.slips_of_change hd hold hholds hchange, rfl, fun heq => hnew ?_⟩
    rw [hchanged.look_place, hold, heq]
    rfl
  · have hgrown := Disk.change_error_grown hd hchange
    exact absurd ((hgrown.look_of_ne_none (by simp [hold])).trans hold) hnew

/-- **A path without two dots is safe**: without a question every file keeps its contents. -/
theorem writeConfirmed_keeps_files (hd : w.disk.Sound) (hp : p.climbs = false)
    (h : writeConfirmed false p contents w = (r, w'))
    (hsilent : Event.questions w'.history = Event.questions w.history)
    (hold : w.disk.root.look q = some (.file old)) : w'.disk.root.look q = some (.file old) := by
  by_contra hnew
  obtain ⟨hslips, rfl, -⟩ := slips_of_replaced hd h hsilent hold hnew
  exact Disk.not_slips_of_not_climbs hp (by simp [hold]) hslips

/-- **A file is replaced without a question** exactly when the path slips, names the file, and the
contents are not the new ones already. -/
theorem writeConfirmed_replaces_iff (hd : w.disk.Sound)
    (h : writeConfirmed false p contents w = (r, w')) :
    (Event.questions w'.history = Event.questions w.history ∧ ∃ q old,
      w.disk.root.look q = some (.file old) ∧ w'.disk.root.look q ≠ some (.file old)) ↔
    w.disk.Slips p ∧
      ∃ old ≠ encode contents, w.disk.root.look (w.disk.place p) = some (.file old) := by
  constructor
  · rintro ⟨hsilent, q, old, hold, hnew⟩
    obtain ⟨hslips, rfl, hne⟩ := slips_of_replaced hd h hsilent hold hnew
    exact ⟨hslips, old, hne, hold⟩
  · rintro ⟨hslips, old, hne, hold⟩
    have hholds := hslips.holds_eq_false hd
    obtain ⟨d', hok⟩ := hslips.change_eq_ok (f := fun _ => encode contents) hd hold
    refine ⟨(questions_writeConfirmed_iff h).2 hholds, _, old, hold, ?_⟩
    obtain ⟨hyes, -⟩ | ⟨hchange, -⟩ | ⟨e, context, hchange, -⟩ := writeConfirmed_cases h
    · rw [hholds] at hyes
      cases hyes
    · rw [(Disk.change_ok hd hchange).look_place, hold]
      simpa [Node.altered] using Ne.symm hne
    · rw [hok] at hchange
      cases hchange

/-- A file beside a directory that is missing, written to through that directory. -/
theorem writeConfirmed_replaces_beside :
    let w : World := ⟨⟨.directory [("a", .file (encode "old"))], []⟩, [], []⟩
    let w' := (writeConfirmed false ⟨"x/../a"⟩ "new" w).2
    (Event.questions w'.history = Event.questions w.history ∧ ∃ q old,
      w.disk.root.look q = some (.file old) ∧ w'.disk.root.look q ≠ some (.file old)) ↔
    w.disk.Slips ⟨"x/../a"⟩ ∧
      ∃ old ≠ encode "new", w.disk.root.look (w.disk.place ⟨"x/../a"⟩) = some (.file old) :=
  writeConfirmed_replaces_iff rfl rfl

/-- That file is replaced, and no question is put. -/
theorem exists_replaced_without_question : ∃ w : World, w.disk.Sound ∧
    let w' := (writeConfirmed false ⟨"x/../a"⟩ "new" w).2
    Event.questions w'.history = Event.questions w.history ∧
      w.disk.root.look ["a"] = some (.file (encode "old")) ∧
      w'.disk.root.look ["a"] = some (.file (encode "new")) :=
  ⟨⟨⟨.directory [("a", .file (encode "old"))], []⟩, [], []⟩, rfl, by decide +kernel⟩

end World

end Groundwork
