import Groundwork.Proofs.Delivery.Opening
import Groundwork.Proofs.Delivery.Routes
import Groundwork.Proofs.Disk.Directories
import Groundwork.Proofs.Refresh

/-!
# Where the refresh runs

The base of a generation is used in two ways: the paths of the files are joined to it, and the
refresh command is started in it. Joining puts a relative path below the base, and the empty base
stands for the current directory. To be started in, a directory has to be found, and the empty path
finds none. But for this a base that was written under is found again, whether it is relative,
climbs or was only made by the writing.

* `Disk.Resolves.passable_base`: a file below a base has the base for a directory.
* **`Disk.enter_base`**: a base that is not empty can be entered.
* `Host.Offers`: a program that a bare name starts.
* `Event.RefreshedIn`: the entries of a refresh that succeeds in a directory.
* **`World.generate_refreshedIn_iff`**: when the refresh runs where the files are.
-/

namespace Groundwork

open Text (trim)

/-! ## Bases -/

namespace Disk

variable {d : Disk} {base p : Path}

/-- **The base of a file is a directory**, and so is all that it passes through. -/
theorem Resolves.passable_base (hres : d.Resolves (base.join p)) (h : p.isAbsolute = false)
    (hp : p.pieces ≠ []) : d.root.Passable (d.start base) base.pieces := by
  have hpieces := Path.pieces_join (p := base) h
  refine ⟨fun n hn => hres.short n (hpieces ▸ List.mem_append_left _ hn), fun pre hpre => ?_⟩
  rw [← d.start_join h]
  refine hres.reaches.open_ pre ?_
  rw [hpieces, List.dropLast_append_of_ne_nil hp]
  exact hpre.trans (List.prefix_append _ _)

/-- **A base that a file is below can be entered**, unless it is empty. -/
theorem enter_base (hd : d.Sound) (hres : d.Resolves (base.join p)) (h : p.isAbsolute = false)
    (hp : p.pieces ≠ []) (hbase : base.text ≠ "") :
    d.enter base = .ok { d with current := d.place base } := by
  have hpass := hres.passable_base h hp
  have hdir : d.root.look (d.place base) = some .directory := hpass.open_ _ List.prefix_rfl
  have hsize : base.text.utf8ByteSize ≤ longestPath :=
    (size_of_isPrefix (Path.prefix_join h)).trans hres.presentable.2
  have hreach : d.Reaches base := ⟨fun n hn => hpass.short n (List.dropLast_subset _ hn),
    fun pre hpre => hpass.open_ pre (hpre.trans (List.dropLast_prefix _))⟩
  have hfind : d.find base = .ok (d.place base) :=
    (find_eq_ok_iff hd).2 ⟨⟨⟨hbase, hsize⟩, hreach, hpass.short⟩, rfl, .inl hdir⟩
  unfold enter
  simp only [hfind, hdir, if_true]

theorem enter_of_empty (d : Disk) (hbase : base.text = "") : d.enter base = .error .notFound := by
  have hlocate : d.locate base = .error .notFound := if_pos hbase
  unfold enter find
  simp only [hlocate]

end Disk

/-! ## Deliveries -/

namespace World

variable {force : Bool} {base : Path} {a : Artifact} {o : Outcome} {w w' : World}
  {steps : List (Artifact × Outcome)}

theorem Delivers.hasNull_base (h : Delivers force base w steps w') (hd : w.disk.Sound)
    {step : Artifact × Outcome} (hmem : step ∈ steps)
    (hrelative : step.1.path.isAbsolute = false) : base.hasNull = false :=
  Disk.hasNull_of_isPrefix (Path.prefix_join hrelative) (h.hasNull hd step hmem)

theorem exists_step_of_files {r : Resource} {op : PlanOptions} {text : Template → String}
    (hfiles : steps.map Prod.fst = r.files op text) (t : Template) :
    ∃ step ∈ steps, step.1.path = artifactPath t r op.timestamp := by
  have hmem : r.file op text t ∈ steps.map Prod.fst := by
    rw [hfiles, mem_files_iff]
    exact ⟨t, rfl⟩
  obtain ⟨step, hstep, hfile⟩ := List.mem_map.1 hmem
  exact ⟨step, hstep, by rw [hfile, path_file]⟩

end World

/-! ## Programs -/

/-- **A bare name starts a program** of the search path: it is a name that the system takes. -/
structure Host.Offers (h : Host) (name : String) (program : Program) : Prop where
  bare : '/' ∉ name.toList
  noNull : hasNull name = false
  short : isTooLong name = false
  found : h.programs name = some program

theorem Host.Offers.resolve {h : Host} {name : String} {program : Program}
    (ho : h.Offers name program) (d : Disk) : h.resolve name d = .ok program := by
  have hslash : ¬ name.toList.contains '/' = true := by simpa using ho.bare
  unfold Host.resolve
  rw [if_neg hslash, if_neg (by rw [ho.short]; exact Bool.false_ne_true)]
  simp only [ho.found]

/-- **The entries of a refresh that succeeds in a directory**: its command is started there, and no
failure is noted. -/
def Event.RefreshedIn (directory : Place) (name : String) (arguments : List String)
    (added : List Event) : Prop :=
  Event.commands added = [(name, arguments, directory)] ∧ ∀ e, .noted (.refreshFailed e) ∉ added

theorem not_refreshedIn_warning (directory : Place) (name : String) (arguments : List String)
    (before : List Event) (e : Failure) :
    ¬ Event.RefreshedIn directory name arguments (before ++ e.warning) := fun h =>
  h.2 e.headline (List.mem_append_right _ List.mem_cons_self)

namespace World

variable {h : Host} {a : Arguments} {s : Settings} {renderer : Renderer} {time : Timestamp}
  {base : Path} {summary : Summary} {w w₁ : World} {name : String} {arguments : List String}
  {program : Program}

section Start

variable (hnull : (name :: base.text :: arguments).any hasNull = false)

include hnull in
theorem start_of_enter (ho : h.Offers name program) {entered : Disk}
    (henter : w.disk.enter base = .ok entered) (hrun : (program arguments entered).1 = true)
    (words : List String) : ∃ d, w.start h name arguments words base =
      (.ok (), ⟨d, w.answers, w.history ++ [.started name arguments entered.current]⟩) := by
  rcases hresult : program arguments entered with ⟨succeeded, d⟩
  obtain rfl : succeeded = true := by rw [hresult] at hrun; exact hrun
  unfold start
  simp only [hnull, henter, ho.resolve, hresult]
  exact ⟨_, rfl⟩

include hnull in
theorem start_of_not_enter {e : Errno} (henter : w.disk.enter base = .error e)
    (words : List String) :
    w.start h name arguments words base = (.error (.system [] (.system e)), w) := by
  unfold start
  simp only [hnull, henter]
  rfl

end Start

/-! ## Refreshes -/

/-- The world after the announcement of a refresh. -/
def announced (name : String) (arguments : List String) (base : Path) (w : World) : World :=
  { w with history := w.history ++ Event.announcement name arguments base }

theorem tryRefresh_eq (hcommand : s.program = .ok (name, arguments)) : w.tryRefresh h s base =
    match (w.announced name arguments base).start h name arguments s.autoloadCommand base with
    | (.ok (), w) => w
    | (.error e, w) => { w with history := w.history ++ e.warning } := by
  have hannounced : (w.record (.shown "Dumping autoload")).notice
      [.refreshing name arguments base.text] = w.announced name arguments base := by
    simp [notice, record, announced, Event.announcement]
  unfold tryRefresh refreshAutoload
  simp only [hcommand, hannounced]
  rcases (w.announced name arguments base).start h name arguments s.autoloadCommand base with
    ⟨e | _, after⟩
  · simp [notice, record, Failure.warning]
  · rfl

theorem history_tryRefresh_of_noProgram {r : Rejection} (hcommand : s.program = .error r) :
    (w.tryRefresh h s base).history = w.history ++ (Failure.rejected r).warning := by
  unfold tryRefresh refreshAutoload
  simp [hcommand, notice, record, Failure.warning]

/-- **When a refresh succeeds in its base**, given that a file is below it and that the program
succeeds there: the base and the name of the program are not blank. -/
theorem tryRefresh_refreshedIn_iff {p : Path} (hd : w.disk.Sound)
    (hres : w.disk.Resolves (base.join p)) (hrelative : p.isAbsolute = false)
    (hp : p.pieces ≠ []) (hnull : (name :: base.text :: arguments).any hasNull = false)
    (hcommand : s.autoloadCommand = name :: arguments) (ho : h.Offers name program)
    (hrun : (program arguments { w.disk with current := w.disk.place base }).1 = true) :
    ∃ added, (w.tryRefresh h s base).history = w.history ++ added ∧
      (Event.RefreshedIn (w.disk.place base) name arguments added ↔
        base.text ≠ "" ∧ trim name ≠ "") := by
  by_cases hblank : trim name = ""
  · have hprogram : s.program = .error .noProgram := by
      unfold Settings.program
      rw [hcommand]
      exact if_pos hblank
    refine ⟨_, history_tryRefresh_of_noProgram hprogram, iff_of_false ?_ fun hne => hne.2 hblank⟩
    exact not_refreshedIn_warning _ _ _ [] _
  have hprogram : s.program = .ok (name, arguments) := by
    unfold Settings.program
    rw [hcommand]
    exact if_neg hblank
  rw [tryRefresh_eq hprogram]
  by_cases hbase : base.text = ""
  · have henter : (w.announced name arguments base).disk.enter base = .error .notFound :=
      w.disk.enter_of_empty hbase
    rw [start_of_not_enter hnull henter]
    refine ⟨_, List.append_assoc _ _ _, iff_of_false ?_ fun hne => hne.1 hbase⟩
    exact not_refreshedIn_warning _ _ _ _ _
  · have henter : (w.announced name arguments base).disk.enter base =
        .ok { w.disk with current := w.disk.place base } :=
      Disk.enter_base hd hres hrelative hp hbase
    obtain ⟨d, hstart⟩ := start_of_enter hnull ho henter hrun s.autoloadCommand
    rw [hstart]
    refine ⟨_, List.append_assoc _ _ _, iff_of_true ⟨rfl, fun e => ?_⟩ ⟨hbase, hblank⟩⟩
    simp [Event.announcement]

/-! ## Generations -/

/-- **When the refresh runs where the files are.** Let a generation have delivered its files, whose
paths are relative, and let the refresh command be a program that is found and succeeds. The base is
then a directory, and every file is found below it. The command is started in this directory, and no
failure is noted, unless the base is the empty path; it names the current directory where files are
written and no directory where a program is started. (A program with a blank name is not started
either.) -/
theorem generate_refreshedIn_iff (hd : w.disk.Sound) (hon : (a.apply s).dumpAutoload = true)
    (hcommand : s.autoloadCommand = name :: arguments) (ho : h.Offers name program)
    (hnull : ∀ x ∈ arguments, hasNull x = false)
    (hwritten : w.scaffold h a s renderer time = (.ok summary, w₁))
    (hrelative : ∀ r, a.description.resource.result = .ok r →
      ∀ t, (artifactPath t r time).isAbsolute = false)
    (hrun : (program arguments { w₁.disk with current := w.disk.place (a.base h) }).1 = true) :
    let directory := w.disk.place (a.base h)
    ∃ r added, a.description.resource.result = .ok r ∧
      w₁.disk.root.look directory = some .directory ∧
      (∀ t, w₁.disk.find ((a.base h).join (artifactPath t r time)) =
        .ok (Place.follow directory (artifactPath t r time).pieces)) ∧
      (w.generate h a s renderer time).1 = .ok summary ∧
      (w.generate h a s renderer time).2.history = w₁.history ++ added ∧
      (Event.RefreshedIn directory name arguments added ↔
        (a.base h).text ≠ "" ∧ trim name ≠ "") := by
  obtain ⟨r, text, ns, steps, hr, -, hruns, hfiles⟩ := exists_run_of_scaffold hwritten
  have hkeeps : w.disk.Keeps w₁.disk := hruns.keeps hd
  have hd₁ := hkeeps.sound hd
  have hfound (t : Template) : w₁.disk.find ((a.base h).join (artifactPath t r time)) =
      .ok (Place.follow (w.disk.place (a.base h)) (artifactPath t r time).pieces) := by
    obtain ⟨step, hmem, hpath⟩ := exists_step_of_files hfiles t
    rw [Settings.planOptions] at hpath
    rw [← w.disk.place_join_of_relative (hrelative r hr t), ← hpath]
    exact hruns.found hd step hmem
  -- The routes are below the base whatever the resource is called.
  have hroutes : artifactPath .routes r time = ⟨"routes/web.php"⟩ := artifactPath_routes r time
  have hres := ((Disk.find_eq_ok_iff hd₁).1 (hroutes ▸ hfound .routes)).1
  have hbase : w₁.disk.root.look (w.disk.place (a.base h)) = some .directory := by
    rw [← hkeeps.place]
    exact (hres.passable_base rfl (by decide)).open_ _ List.prefix_rfl
  have hwords : (name :: (a.base h).text :: arguments).any hasNull = false := by
    obtain ⟨step, hmem, hpath⟩ := exists_step_of_files hfiles .routes
    have hown : hasNull (a.base h).text = false :=
      hruns.hasNull_base hd hmem (hpath ▸ hrelative r hr .routes)
    rw [List.any_cons, List.any_cons, ho.noNull, hown, List.any_eq_false.2 (by simpa using hnull)]
    rfl
  rw [← hkeeps.place] at hrun
  obtain ⟨added, hhistory, hiff⟩ := tryRefresh_refreshedIn_iff (s := a.apply s) hd₁ hres rfl
    (by decide) hwords hcommand ho hrun
  rw [hkeeps.place] at hiff
  refine ⟨r, added, hr, hbase, hfound, ?_, ?_, hiff⟩
  · unfold generate
    rw [hwritten]
  · unfold generate
    rw [hwritten]
    simp only [hon, if_true]
    exact hhistory

/-- A base that climbs out of a directory which only the writing makes. -/
theorem generate_refreshedIn_new_base :
    let a : Arguments := { Arguments.plain "cat" "cats" with
      skipAutoload := false, basePath := some ⟨"new/.."⟩ }
    let s : Settings := { Settings.standard with autoloadCommand := ["true"] }
    let w : World := ⟨.project [], [], []⟩
    ∃ summary w₁ added, w.scaffold .plain a s Renderer.standard ⟨2017, 9, 16, 10, 3, 50⟩ =
        (.ok summary, w₁) ∧
      (w.generate .plain a s Renderer.standard ⟨2017, 9, 16, 10, 3, 50⟩).2.history =
        w₁.history ++ added ∧
      Event.RefreshedIn [] "true" [] added := by
  intro a s w
  have hsome : (diskAfter? (w.scaffold .plain a s Renderer.standard
      ⟨2017, 9, 16, 10, 3, 50⟩)).isSome = true := by decide +kernel
  obtain ⟨d', hd'⟩ := Option.isSome_iff_exists.1 hsome
  obtain ⟨summary, w₁, hwritten, -⟩ := exists_of_diskAfter? hd'
  have hresource : a.description.resource.result =
      .ok ⟨"cat", "cats", [], false, by decide, by decide⟩ := by decide +kernel
  have hrelative (r : Resource)
      (hr : a.description.resource.result = .ok r) (t : Template) :
      (artifactPath t r ⟨2017, 9, 16, 10, 3, 50⟩).isAbsolute = false := by
    rw [hresource] at hr
    obtain rfl := Except.ok.inj hr
    cases t <;> decide +kernel
  have hoffers : Host.plain.Offers "true" fun _ d => (true, d) :=
    ⟨by decide, by decide, by decide, rfl⟩
  obtain ⟨r, added, -, -, -, -, hhistory, hiff⟩ :=
    generate_refreshedIn_iff (w := w) rfl rfl rfl hoffers (List.forall_mem_nil _) hwritten
      hrelative rfl
  have hplace : w.disk.place (a.base .plain) = [] := by decide +kernel
  rw [hplace] at hiff
  exact ⟨summary, w₁, added, hwritten, hhistory, hiff.2 ⟨by decide, by decide⟩⟩

/-- Below the empty base all files are written, but the refresh is not started. -/
theorem exists_refresh_not_started :
    let h : Host := { Host.plain with projectBase := some "" }
    let a : Arguments := { Arguments.plain "cat" "cats" with skipAutoload := false }
    let s : Settings := { Settings.standard with autoloadCommand := ["true"] }
    let after := World.generate h a s Renderer.standard ⟨2017, 9, 16, 10, 3, 50⟩
      ⟨.project [], [], []⟩
    h.Offers "true" (fun _ d => (true, d)) ∧
      after.1 = .ok ⟨[⟨"database/migrations/2017_09_16_100350_create_cats.php"⟩,
        ⟨"database/factories/CatFactory.php"⟩, ⟨"tests/CatTest.php"⟩, ⟨"app/Cat.php"⟩,
        ⟨"app/Resources/Cat.php"⟩, ⟨"app/Resources/CatCollection.php"⟩,
        ⟨"app/Http/Controllers/CatController.php"⟩], [], [⟨"routes/web.php"⟩]⟩ ∧
      Event.commands after.2.history = [] ∧
      .noted (.refreshFailed "No such file or directory (os error 2)") ∈ after.2.history :=
  ⟨⟨by decide, by decide, by decide, rfl⟩, by decide +kernel⟩

end World

end Groundwork
