import Groundwork.Proofs.Delivery.Step

/-!
# How deliveries end

A delivery that succeeds is a run of single steps, one for each file. A step that created a file
replaced the contents at its destination, one that appended extended them, and one that skipped did
nothing; all else that a run adds is directories above the destinations. A delivery that fails has
delivered the files before one of them, and has stopped at that one. The file that failed leaves new
directories at most, which prefixes of its destination name (`Path.prefix_of_mem_ancestors`); the
files after it have no say in what happened.

* `World.Delivers`: a run of steps, each a file with its outcome.
* `Outcome.onContents`: what one step makes of the contents at its destination.
* `Delivered`, `Disk.contentsAfter`: one step, and all steps of a run, seen from one place.
* **`World.deliver_ok`**: the summary and the disk after a delivery.
* **`World.deliver_error`**: a failed delivery is a delivery of the first files and one failed step.
-/

namespace Groundwork

open Text (encode)

/-- The contents of the file at a place. -/
def FileTree.contents? (t : FileTree) (q : Place) : Option (List UInt8) :=
  match t.look q with
  | some (.file c) => some c
  | _ => none

/-- The outcomes that a mode allows. -/
def WriteMode.Allows : WriteMode → Outcome → Prop
  | .create, o => o = .created ∨ o = .skipped
  | .append, o => o = .appended

/-- **What an outcome makes of the contents** at the destination; there may be no file yet. -/
def Outcome.onContents (new : List UInt8) (old : Option (List UInt8)) :
    Outcome → Option (List UInt8)
  | .created => some new
  | .skipped => old
  | .appended => some (old.getD [] ++ new)

theorem onContents_skipped (new : List UInt8) (old : Option (List UInt8)) :
    Outcome.skipped.onContents new old = old := rfl

theorem onContents_done (a : Artifact) (old : Option (List UInt8)) :
    a.mode.done.onContents (encode a.contents) old = some (a.change (old.getD [])) := by
  unfold Artifact.change
  cases a.mode <;> rfl

theorem allows_done (m : WriteMode) : m.Allows m.done := by
  cases m with
  | create => exact .inl rfl
  | append => rfl

namespace FileTree

variable {t t' : FileTree} {q : Place}

theorem contents?_congr (h : t'.look q = t.look q) : t'.contents? q = t.contents? q := by
  unfold contents?
  rw [h]

theorem contents?_eq_some_iff {c : List UInt8} :
    t.contents? q = some c ↔ t.look q = some (.file c) := by
  unfold contents?
  split
  · rename_i old hold
    rw [hold, Option.some.injEq, Option.some.injEq, Node.file.injEq]
  · rename_i hno
    exact iff_of_false nofun (hno c)

theorem contents?_eq_none (h : t.look q = none ∨ t.look q = some .directory) :
    t.contents? q = none := by
  unfold contents?
  rcases h with h | h <;> rw [h]

end FileTree

/-! ## One step -/

/-- **A file was delivered**, with an outcome: its destination resolves, the contents there are what
the outcome makes of them, and nothing else has changed but that directories above it may be new. -/
structure Delivered (base : Path) (a : Artifact) (o : Outcome) (d d' : Disk) : Prop where
  allowed : a.mode.Allows o
  keeps : d.Keeps d'
  found : d'.find (base.join a.path) = .ok (d.place (base.join a.path))
  device : ∀ q, d'.root.look q = some .device → d.root.look q = some .device
  contents : d.root.look (d.place (base.join a.path)) ≠ some .device →
    d'.root.contents? (d.place (base.join a.path)) =
      o.onContents (encode a.contents) (d.root.contents? (d.place (base.join a.path)))
  other : ∀ q ≠ d.place (base.join a.path), d'.root.look q = d.root.look q ∨
    d.root.look q = none ∧ d'.root.look q = some .directory ∧ q <+: d.place (base.join a.path)

namespace Disk

variable {d d' : Disk} {base : Path} {a : Artifact}

theorem delivered_skipped (hd : d.Sound) (h : d.holds (base.join a.path) = true)
    (hmode : a.mode = .create) : Delivered base a .skipped d d where
  allowed := by rw [hmode]; exact .inr rfl
  keeps := .refl d
  found := ((holds_iff hd).1 h).2
  device := fun _ hq => hq
  contents := fun _ => (onContents_skipped _ _).symm
  other := fun _ _ => .inl rfl

theorem delivered_change (hd : d.Sound) (hup : (base.join a.path).climbs = false)
    (h : d.Changed (base.join a.path) a.change d') : Delivered base a a.mode.done d d' := by
  have hnodir : d.root.look (d.place (base.join a.path)) ≠ some .directory := fun hdir => by
    have hkept := h.keeps.directory hdir
    rw [h.look_place, hdir] at hkept
    cases hkept
  refine ⟨allows_done _, h.keeps, h.found, fun q hq => ?_, fun hdev => ?_, fun q hq => ?_⟩
  · by_cases hplace : q = d.place (base.join a.path)
    · subst hplace
      rw [h.look_place] at hq
      cases hold : d.root.look (d.place (base.join a.path)) with
      | none => simp [hold, Node.altered] at hq
      | some n => cases n <;> simp [hold, Node.altered] at hq ⊢
    · rcases h.look_other q hplace with hsame | ⟨-, hdir, -⟩
      · rwa [hsame] at hq
      · rw [hdir] at hq
        cases hq
  · rw [onContents_done, FileTree.contents?, FileTree.contents?, h.look_place]
    cases hold : d.root.look (d.place (base.join a.path)) with
    | none => rfl
    | some n =>
      cases n with
      | file c => rfl
      | device => exact absurd hold hdev
      | directory => exact absurd hold hnodir
  · refine (h.look_other q hq).imp_right fun ⟨hnone, hdir, p, hp, hfind⟩ => ⟨hnone, hdir, ?_⟩
    obtain ⟨-, rfl, -⟩ := (find_eq_ok_iff (h.keeps.sound hd)).1 hfind
    rw [h.keeps.place]
    exact place_prefix_of_mem_ancestors d hup (List.mem_of_mem_tail hp)

end Disk

/-! ## Runs of steps -/

/-- **The destinations of the steps with an outcome**, in order. -/
def destinations (base : Path) (steps : List (Artifact × Outcome)) (o : Outcome) : List Path :=
  (steps.filter (·.2 = o)).map (base.join ·.1.path)

/-- The summary of steps: their destinations by outcome. -/
def Summary.ofSteps (base : Path) (steps : List (Artifact × Outcome)) : Summary where
  created := destinations base steps .created
  skipped := destinations base steps .skipped
  appended := destinations base steps .appended

theorem ofSteps_cons (base : Path) (a : Artifact) (o : Outcome)
    (steps : List (Artifact × Outcome)) : Summary.ofSteps base ((a, o) :: steps) =
      (Summary.ofSteps base steps).cons o (base.join a.path) := by
  cases o <;> rfl

/-- The contents at a place after all steps, each of which counts if its destination is that
place. -/
def Disk.contentsAfter (d : Disk) (base : Path) (q : Place) (steps : List (Artifact × Outcome))
    (old : Option (List UInt8)) : Option (List UInt8) :=
  steps.foldl (fun c step =>
    if d.find (base.join step.1.path) = .ok q then step.2.onContents (encode step.1.contents) c
    else c) old

/-- **Files were delivered**, each with an outcome: the destinations resolve, the contents at every
place are what the steps make of them in order, what exists stays, and places that are no
destination are as before or new directories above a destination. -/
structure DeliveredAll (base : Path) (steps : List (Artifact × Outcome)) (d d' : Disk) : Prop where
  allowed : ∀ step ∈ steps, step.1.mode.Allows step.2
  keeps : d.Keeps d'
  found : ∀ step ∈ steps, d'.find (base.join step.1.path) = .ok (d.place (base.join step.1.path))
  contents : ∀ q, d.root.look q ≠ some .device →
    d'.root.contents? q = d'.contentsAfter base q steps (d.root.contents? q)
  other : ∀ q, (∀ step ∈ steps, d'.find (base.join step.1.path) ≠ .ok q) →
    d'.root.look q = d.root.look q ∨ d.root.look q = none ∧ d'.root.look q = some .directory ∧
      ∃ step ∈ steps, ∃ r, d'.find (base.join step.1.path) = .ok r ∧ q <+: r

namespace DeliveredAll

variable {d d₁ d' : Disk} {base : Path} {a : Artifact} {o : Outcome}
  {steps : List (Artifact × Outcome)}

theorem nil (base : Path) (d : Disk) : DeliveredAll base [] d d where
  allowed := by simp
  keeps := .refl d
  found := by simp
  contents := fun _ _ => rfl
  other := fun _ _ => .inl rfl

theorem cons (hd : d.Sound) (h : Delivered base a o d d₁) (hrest : DeliveredAll base steps d₁ d') :
    DeliveredAll base ((a, o) :: steps) d d' := by
  have hfound : d'.find (base.join a.path) = .ok (d.place (base.join a.path)) :=
    hrest.keeps.find (h.keeps.sound hd) h.found
  refine ⟨?_, h.keeps.trans hrest.keeps, ?_, fun q hq => ?_, fun q hq => ?_⟩
  · exact List.forall_mem_cons.2 ⟨h.allowed, hrest.allowed⟩
  · refine List.forall_mem_cons.2 ⟨hfound, fun step hstep => ?_⟩
    rw [hrest.found step hstep, h.keeps.place]
  · -- The first step counts in the fold exactly if its destination is the place.
    have hcontents := hrest.contents q fun hdev => hq (h.device q hdev)
    rw [hcontents]
    change _ = d'.contentsAfter base q steps (if d'.find (base.join a.path) = .ok q then _ else _)
    rw [hfound]
    by_cases hplace : q = d.place (base.join a.path)
    · subst hplace
      rw [if_pos rfl, h.contents hq]
    · have hne : (Except.ok (d.place (base.join a.path)) : Except Errno Place) ≠ .ok q :=
        fun heq => hplace (Except.ok.inj heq).symm
      rw [if_neg hne]
      rcases h.other q hplace with hsame | ⟨hnone, hdir, -⟩
      · rw [FileTree.contents?_congr hsame]
      · rw [FileTree.contents?_eq_none (.inl hnone), FileTree.contents?_eq_none (.inr hdir)]
  · obtain ⟨hhead, htail⟩ := List.forall_mem_cons.1 hq
    have hplace : q ≠ d.place (base.join a.path) := fun heq => hhead (heq ▸ hfound)
    rcases hrest.other q htail with hsame | ⟨hnone, hdir, step, hstep, r, hr, hpre⟩
    · rw [hsame]
      refine (h.other q hplace).imp_right fun ⟨hnone, hdir, hpre⟩ => ⟨hnone, hdir, ?_⟩
      exact ⟨(a, o), List.mem_cons_self, _, hfound, hpre⟩
    · rcases h.other q hplace with hsame | ⟨-, hdir₁, -⟩
      · rw [hsame] at hnone
        exact .inr ⟨hnone, hdir, step, List.mem_cons_of_mem _ hstep, r, hr, hpre⟩
      · rw [hnone] at hdir₁
        cases hdir₁

end DeliveredAll

namespace World

variable {force : Bool} {base : Path} {a : Artifact} {o : Outcome} {files : List Artifact}
  {steps : List (Artifact × Outcome)} {s : Summary} {w w₁ w' : World}

/-- **A run of steps**, each the delivery of one file with its outcome. -/
inductive Delivers (force : Bool) (base : Path) :
    World → List (Artifact × Outcome) → World → Prop
  | nil (w : World) : Delivers force base w [] w
  | cons {w w₁ w' : World} {a : Artifact} {o : Outcome} {steps : List (Artifact × Outcome)}
      (file : w.deliverFile force base a = (.ok o, w₁)) (rest : Delivers force base w₁ steps w') :
      Delivers force base w ((a, o) :: steps) w'

theorem exists_delivers (h : w.deliver force base files = (.ok s, w')) :
    ∃ steps, Delivers force base w steps w' ∧ steps.map Prod.fst = files ∧
      s = .ofSteps base steps := by
  induction files generalizing w s with
  | nil =>
    obtain ⟨hs, rfl⟩ := Prod.mk.inj h
    exact ⟨[], .nil w, rfl, (Except.ok.inj hs).symm⟩
  | cons a rest ih =>
    obtain ⟨e, -, he⟩ | ⟨o, w₁, hfile, ⟨e, -, he⟩ | ⟨s₁, hrest, hs⟩⟩ := deliver_cons_cases h
    · cases he
    · cases he
    · obtain ⟨steps, hruns, hfiles, hs₁⟩ := ih hrest
      refine ⟨(a, o) :: steps, .cons hfile hruns, by rw [List.map_cons, hfiles], ?_⟩
      rw [Except.ok.inj hs, hs₁, ofSteps_cons]

theorem delivered_of_deliverFile (hd : w.disk.Sound) (hup : (base.join a.path).climbs = false)
    (h : w.deliverFile force base a = (.ok o, w')) : Delivered base a o w.disk w'.disk := by
  obtain ⟨hholds, -, hmode, hdisk, ho | ⟨context, ho⟩⟩ | ⟨hchange, ho⟩ | ⟨e, context, -, ho⟩ :=
    deliverFile_cases h
  · rw [Except.ok.inj ho, hdisk]
    exact Disk.delivered_skipped hd hholds hmode
  · cases ho
  · rw [Except.ok.inj ho]
    exact Disk.delivered_change hd hup (Disk.change_ok hd hchange)
  · cases ho

theorem Delivers.deliveredAll (h : Delivers force base w steps w') (hd : w.disk.Sound)
    (hup : ∀ step ∈ steps, (base.join step.1.path).climbs = false) :
    DeliveredAll base steps w.disk w'.disk := by
  induction h with
  | nil w => exact .nil base w.disk
  | cons hfile _ ih =>
    obtain ⟨hhead, htail⟩ := List.forall_mem_cons.1 hup
    have hstep := delivered_of_deliverFile hd hhead hfile
    exact .cons hd hstep (ih (hstep.keeps.sound hd) htail)

/-- **The exact outcome of a delivery** whose destinations do not climb: it is a run of steps, one
for each file, the summary lists their destinations, and the disk has changed by the steps alone. -/
theorem deliver_ok (hd : w.disk.Sound) (hup : ∀ a ∈ files, (base.join a.path).climbs = false)
    (h : w.deliver force base files = (.ok s, w')) :
    ∃ steps, Delivers force base w steps w' ∧ steps.map Prod.fst = files ∧
      s = .ofSteps base steps ∧ DeliveredAll base steps w.disk w'.disk := by
  obtain ⟨steps, hruns, rfl, hs⟩ := exists_delivers h
  refine ⟨steps, hruns, rfl, hs, hruns.deliveredAll hd fun step hstep => ?_⟩
  exact hup step.1 (List.mem_map_of_mem hstep)

/-- A file that exists is skipped on request, then added to, and a third file needs a directory. -/
theorem deliver_ok_after_no :
    let w : World := ⟨⟨.directory [("a", .file [104])], []⟩, encode "n\n", []⟩
    let files : List Artifact := [⟨.model, ⟨"a"⟩, "x", .create⟩, ⟨.routes, ⟨"a"⟩, "y", .append⟩,
      ⟨.test, ⟨"t/b"⟩, "z", .create⟩]
    ∃ steps, Delivers false ⟨""⟩ w steps (w.deliver false ⟨""⟩ files).2 ∧
      steps.map Prod.fst = files ∧ ⟨[⟨"t/b"⟩], [⟨"a"⟩], [⟨"a"⟩]⟩ = Summary.ofSteps ⟨""⟩ steps ∧
      DeliveredAll ⟨""⟩ steps w.disk (w.deliver false ⟨""⟩ files).2.disk :=
  deliver_ok rfl (by decide +kernel) (Prod.ext (by decide +kernel) rfl)

end World

/-! ## Failure -/

namespace World

variable {force : Bool} {base : Path} {a : Artifact} {files done : List Artifact} {s : Summary}
  {e : Failure} {w w₁ w' : World}

/-- **A file that fails adds nothing but directories** that the parents of its destination name. -/
theorem deliverFile_error_grown (hd : w.disk.Sound)
    (h : w.deliverFile force base a = (.error e, w')) :
    w.disk.Grown (fun q => ∃ p ∈ (base.join a.path).ancestors.tail, w'.disk.find p = .ok q)
      w'.disk := by
  obtain ⟨-, -, -, hdisk, -⟩ | ⟨-, hr⟩ | ⟨cause, context, hchange, -⟩ := deliverFile_cases h
  · rw [hdisk]
    exact .refl _ _
  · cases hr
  · exact Disk.change_error_grown hd hchange

theorem deliver_append_of_error (hdone : w.deliver force base done = (.ok s, w₁))
    (hfile : w₁.deliverFile force base a = (.error e, w')) (others : List Artifact) :
    w.deliver force base (done ++ a :: others) = (.error e, w') := by
  induction done generalizing w s with
  | nil =>
    obtain ⟨-, rfl⟩ := Prod.mk.inj hdone
    rw [List.nil_append, deliver, hfile]
  | cons b rest ih =>
    obtain ⟨e₁, -, he⟩ | ⟨o, w₂, hfirst, ⟨e₁, -, he⟩ | ⟨s₂, hrest, -⟩⟩ := deliver_cons_cases hdone
    · cases he
    · cases he
    · rw [List.cons_append, deliver, hfirst]
      simp only [ih hrest]

theorem exists_failed_file (h : w.deliver force base files = (.error e, w')) :
    ∃ done a rest s w₁, files = done ++ a :: rest ∧
      w.deliver force base done = (.ok s, w₁) ∧ w₁.deliverFile force base a = (.error e, w') := by
  induction files generalizing w with
  | nil => cases h
  | cons a rest ih =>
    obtain ⟨e₁, hfile, he⟩ | ⟨o, w₁, hfile, ⟨e₁, hrest, he⟩ | ⟨s, -, hs⟩⟩ := deliver_cons_cases h
    · obtain rfl := Except.error.inj he
      exact ⟨[], a, rest, .empty, w, rfl, rfl, hfile⟩
    · obtain rfl := Except.error.inj he
      obtain ⟨done, b, more, s, w₂, hsplit, hdone, hfailed⟩ := ih hrest
      refine ⟨a :: done, b, more, s.cons o (base.join a.path), w₂, by rw [hsplit]; rfl, ?_, hfailed⟩
      rw [deliver, hfile]
      simp only [hdone]
    · cases hs

/-- **A failed delivery stops cleanly.** The files before the one that failed were delivered; that
one added nothing but directories that the parents of its destination name; and the world is the
same whatever would have come after it. -/
theorem deliver_error (hd : w.disk.Sound) (h : w.deliver force base files = (.error e, w')) :
    ∃ done a rest s w₁, files = done ++ a :: rest ∧
      w.deliver force base done = (.ok s, w₁) ∧ w₁.deliverFile force base a = (.error e, w') ∧
      w₁.disk.Grown (fun q => ∃ p ∈ (base.join a.path).ancestors.tail, w'.disk.find p = .ok q)
        w'.disk ∧
      ∀ others, w.deliver force base (done ++ a :: others) = (.error e, w') := by
  obtain ⟨done, a, rest, s, w₁, hsplit, hdone, hfile⟩ := exists_failed_file h
  have hd₁ := (deliver_keeps hd hdone).sound hd
  exact ⟨done, a, rest, s, w₁, hsplit, hdone, hfile, deliverFile_error_grown hd₁ hfile,
    deliver_append_of_error hdone hfile⟩

/-- The second of three files names a directory, which is made on the way to it. -/
theorem deliver_error_at_directory :
    let w : World := ⟨⟨.directory [], []⟩, [], []⟩
    let files : List Artifact := [⟨.model, ⟨"a"⟩, "x", .create⟩, ⟨.test, ⟨"t/.."⟩, "y", .create⟩,
      ⟨.routes, ⟨"b"⟩, "z", .append⟩]
    let e : Failure := .system ["Failed to write test", "Could not write to t/.."]
      (.system .isDirectory)
    ∃ done a rest s w₁, files = done ++ a :: rest ∧ w.deliver false ⟨""⟩ done = (.ok s, w₁) ∧
      w₁.deliverFile false ⟨""⟩ a = (.error e, (w.deliver false ⟨""⟩ files).2) ∧
      w₁.disk.Grown (fun q => ∃ p ∈ (Path.join ⟨""⟩ a.path).ancestors.tail,
        (w.deliver false ⟨""⟩ files).2.disk.find p = .ok q) (w.deliver false ⟨""⟩ files).2.disk ∧
      ∀ others, w.deliver false ⟨""⟩ (done ++ a :: others) =
        (.error e, (w.deliver false ⟨""⟩ files).2) :=
  deliver_error rfl (Prod.ext (by decide +kernel) rfl)

end World

end Groundwork
