import Groundwork.Proofs.Delivery.Answers
import Groundwork.Proofs.Delivery.Opening
import Groundwork.Proofs.Disk.Standing
import Groundwork.Proofs.Plan.Distinct

/-!
# Delivering a plan again

After a delivery by force each file of its own stands at its destination with the contents of the
plan, and no two files have one destination. So the same plan finds nothing to do but to add to the
routes once more: the other files are created again as they are, or skipped if that has to be asked
and nobody answers.

* `Artifact.Settled`: a file stands at its destination as it would be written.
* `World.Delivers.settled`: so it does after a delivery by force to different destinations.
* `World.exists_delivers_of_settled`: such files are delivered again without a change.
* **`World.deliver_again`**: the same plan, delivered once more.
-/

namespace Groundwork

open Text (Rooted encode)

/-! ## Files that are settled -/

/-- **A file of its own is settled**: it stands at its destination as it would be written. -/
structure Artifact.Settled (base : Path) (a : Artifact) (d : Disk) : Prop where
  mode : a.mode = .create
  stands : d.Stands (base.join a.path)
  same : some (Node.altered a.change (d.root.look (d.place (base.join a.path)))) =
    d.root.look (d.place (base.join a.path))

theorem Artifact.Settled.of_alike {base : Path} {a : Artifact} {d d' : Disk}
    (h : a.Settled base d) (hd : d.Sound) (halike : d.Alike d') : a.Settled base d' := by
  refine ⟨h.mode, h.stands.of_keeps hd halike.keeps, ?_⟩
  rw [halike.keeps.place, halike.look]
  exact h.same

theorem altered_change_altered {a : Artifact} (h : a.mode = .create) (n : Option Node) :
    Node.altered a.change (some (Node.altered a.change n)) = Node.altered a.change n := by
  have hchange : a.change = fun _ => encode a.contents := by
    unfold Artifact.change
    rw [h]
  rw [hchange]
  rcases altered_cases (fun _ => encode a.contents) n with ⟨-, hn⟩ | ⟨old, -, hn⟩ | ⟨-, hn⟩ <;>
    rw [hn] <;> rfl

/-- What becomes of a file that is settled: by force it is created again, and without anyone to ask
it is skipped. -/
def Outcome.again (force : Bool) : Outcome := if force then .created else .skipped

namespace World

variable {force : Bool} {base : Path} {a : Artifact} {o : Outcome} {w w₁ w' : World}
  {steps steps' : List (Artifact × Outcome)} {files : List Artifact}

/-! ## Steps by force -/

theorem deliverFile_force (h : w.deliverFile true base a = (.ok o, w')) :
    o = a.mode.done ∧ w.disk.change (base.join a.path) a.change = (w'.disk, .ok ()) := by
  obtain ⟨-, hforce, -⟩ | ⟨hchange, ho⟩ | ⟨e, context, -, ho⟩ := deliverFile_cases h
  · cases hforce
  · exact ⟨Except.ok.inj ho, hchange⟩
  · cases ho

theorem Delivers.steps_eq (h : Delivers true base w steps w') :
    steps = (steps.map Prod.fst).map fun a => (a, a.mode.done) := by
  induction h with
  | nil w => rfl
  | cons file _ ih =>
    rw [List.map_cons, List.map_cons, ← ih, ← (deliverFile_force file).1]

theorem Delivers.stands (h : Delivers true base w steps w') (hd : w.disk.Sound) :
    ∀ step ∈ steps, w'.disk.Stands (base.join step.1.path) := by
  induction h with
  | nil w => exact List.forall_mem_nil _
  | cons file rest ih =>
    have hd₁ := (deliverFile_keeps hd file).sound hd
    refine List.forall_mem_cons.2 ⟨?_, ih hd₁⟩
    exact (Disk.stands_of_change hd (deliverFile_force file).2).of_keeps hd₁ (rest.keeps hd₁)

/-- **After a run by force to different destinations** each file is altered by its own step
alone. -/
theorem Delivers.look_of_apart (h : Delivers true base w steps w') (hd : w.disk.Sound)
    (hapart : (steps.map fun step => w.disk.place (base.join step.1.path)).Nodup) :
    ∀ step ∈ steps, w'.disk.root.look (w.disk.place (base.join step.1.path)) =
      some (Node.altered step.1.change
        (w.disk.root.look (w.disk.place (base.join step.1.path)))) := by
  induction h with
  | nil w => exact List.forall_mem_nil _
  | @cons w w₁ w' a o steps file rest ih =>
    have hstep := deliverFile_keeps hd file
    have hd₁ := hstep.sound hd
    rw [List.map_cons, List.nodup_cons] at hapart
    obtain ⟨hfirst, hlater⟩ := hapart
    have hne : ∀ step ∈ steps,
        w.disk.place (base.join step.1.path) ≠ w.disk.place (base.join a.path) :=
      fun step hmem heq => hfirst (List.mem_map.2 ⟨step, hmem, heq⟩)
    refine List.forall_mem_cons.2 ⟨?_, fun step hmem => ?_⟩
    · have hlook := (Disk.change_ok hd (deliverFile_force file).2).look_place
      rcases rest.look_other hd₁ (fun step hmem => by rw [hstep.place]; exact hne step hmem) with
        hsame | ⟨hnone, -⟩
      · rw [hsame, hlook]
      · rw [hlook] at hnone
        cases hnone
    · have hrest := ih hd₁ (by simpa only [hstep.place] using hlater) step hmem
      rw [hstep.place] at hrest
      rw [hrest]
      -- The first step has left the place as it was, or has made it a directory, which is altered
      -- like nothing.
      rcases look_of_deliverFile hd file (w.disk.place (base.join step.1.path)) with
        hsame | ⟨hnone, hdir⟩ | ⟨hplace, -⟩
      · rw [hsame]
      · rw [hnone, hdir]
        rfl
      · exact absurd hplace (hne step hmem)

/-- **After a run by force to different destinations** the files of their own are settled. -/
theorem Delivers.settled (h : Delivers true base w steps w') (hd : w.disk.Sound)
    (hapart : (steps.map fun step => w.disk.place (base.join step.1.path)).Nodup) :
    ∀ step ∈ steps, step.1.mode = .create → step.1.Settled base w'.disk := by
  intro step hmem hmode
  refine ⟨hmode, h.stands hd step hmem, ?_⟩
  rw [(h.keeps hd).place, h.look_of_apart hd hapart step hmem, altered_change_altered hmode]

/-! ## Steps for files that stand -/

theorem exists_deliverFile_of_stands (hd : w.disk.Sound) (h : w.disk.Stands (base.join a.path))
    (hmode : force = true ∨ a.mode = .append) :
    ∃ w₁, w.deliverFile force base a = (.ok a.mode.done, w₁) ∧
      Disk.Altered (w.disk.place (base.join a.path)) a.change w.disk w₁.disk := by
  obtain ⟨d', hchange, haltered⟩ := h.change hd a.change
  rcases hfile : w.deliverFile force base a with ⟨r, w₁⟩
  obtain ⟨-, hforce, hcreate, -⟩ | ⟨hchanged, rfl⟩ | ⟨e, context, hfailed, -⟩ :=
    deliverFile_cases hfile
  · rcases hmode with htrue | happend
    · rw [hforce] at htrue
      cases htrue
    · rw [hcreate] at happend
      cases happend
  · rw [hchange] at hchanged
    obtain ⟨rfl, -⟩ := Prod.mk.inj hchanged
    exact ⟨w₁, rfl, haltered⟩
  · rw [hchange] at hfailed
    cases hfailed

theorem exists_deliverFile_unanswered (hmode : a.mode = .create)
    (hholds : w.disk.holds (base.join a.path) = true) (hquiet : w.answers = []) :
    ∃ w₁, w.deliverFile false base a = (.ok .skipped, w₁) ∧ w₁.disk = w.disk ∧
      w₁.answers = [] := by
  have hlines : Text.inputLines w.answers = [] := by
    rw [hquiet]
    simp [Text.inputLines]
  have hanswers : (w.afterQuestion (base.join a.path)).answers = [] := by
    rw [afterQuestion, hlines]
    rfl
  have hno : Reply.ofLine? (Text.inputLines w.answers).head? = .no := by
    rw [hlines]
    rfl
  unfold deliverFile writeFile
  rw [hmode]
  simp only [writeConfirmed_of_asks hholds, hno]
  exact ⟨_, rfl, rfl, hanswers⟩

theorem exists_deliverFile_of_settled (hd : w.disk.Sound) (h : a.Settled base w.disk)
    (hquiet : force = false → w.answers = []) :
    ∃ w₁, w.deliverFile force base a = (.ok (.again force), w₁) ∧ w.disk.Alike w₁.disk ∧
      (force = false → w₁.answers = []) := by
  cases force with
  | true =>
    obtain ⟨w₁, hfile, haltered⟩ := exists_deliverFile_of_stands hd h.stands (.inl rfl)
    rw [h.mode] at hfile
    exact ⟨w₁, hfile, haltered.alike h.same, nofun⟩
  | false =>
    obtain ⟨w₁, hfile, hdisk, hanswers⟩ :=
      exists_deliverFile_unanswered h.mode (h.stands.holds hd) (hquiet rfl)
    exact ⟨w₁, hfile, hdisk ▸ .refl _, fun _ => hanswers⟩

/-! ## Runs for files that stand -/

/-- **Settled files are delivered again** without a change. -/
theorem exists_delivers_of_settled (hd : w.disk.Sound)
    (h : ∀ a ∈ files, a.Settled base w.disk) (hquiet : force = false → w.answers = []) :
    ∃ w', Delivers force base w (files.map fun a => (a, .again force)) w' ∧
      w.disk.Alike w'.disk := by
  induction files generalizing w with
  | nil => exact ⟨w, .nil w, .refl _⟩
  | cons a rest ih =>
    obtain ⟨ha, hrest⟩ := List.forall_mem_cons.1 h
    obtain ⟨w₁, hfile, halike, hquiet₁⟩ := exists_deliverFile_of_settled hd ha hquiet
    obtain ⟨w', hruns, halike'⟩ := ih (halike.keeps.sound hd)
      (fun b hb => (hrest b hb).of_alike hd halike) hquiet₁
    exact ⟨w', .cons hfile hruns, halike.trans halike'⟩

theorem Delivers.append (h : Delivers force base w steps w₁)
    (h' : Delivers force base w₁ steps' w') : Delivers force base w (steps ++ steps') w' := by
  induction h with
  | nil w => exact h'
  | cons file _ ih => exact .cons file (ih h')

theorem Delivers.deliver_eq (h : Delivers force base w steps w') :
    w.deliver force base (steps.map Prod.fst) = (.ok (.ofSteps base steps), w') := by
  induction h with
  | nil w => rfl
  | @cons w w₁ w' a o steps file _ ih =>
    rw [List.map_cons, deliver]
    simp only [file, ih, ofSteps_cons]

/-- **Settled files and one that is added to** are delivered again, with a change of the one
alone. -/
theorem exists_deliver_of_settled {last : Artifact} (hd : w.disk.Sound)
    (h : ∀ a ∈ files, a.Settled base w.disk) (hlast : w.disk.Stands (base.join last.path))
    (hmode : last.mode = .append) (hquiet : force = false → w.answers = []) :
    ∃ w', w.deliver force base (files ++ [last]) = (.ok (.ofSteps base
        ((files.map fun a => (a, .again force)) ++ [(last, .appended)])), w') ∧
      Disk.Altered (w.disk.place (base.join last.path)) last.change w.disk w'.disk := by
  obtain ⟨w₁, hruns, halike⟩ := exists_delivers_of_settled hd h hquiet
  have hd₁ := halike.keeps.sound hd
  obtain ⟨w', hfile, haltered⟩ :=
    @exists_deliverFile_of_stands force base last w₁ hd₁ (hlast.of_keeps hd halike.keeps)
      (.inr hmode)
  have hdone : last.mode.done = .appended := by
    rw [hmode]
    rfl
  rw [hdone] at hfile
  rw [halike.keeps.place] at haltered
  have hdeliver := (hruns.append (.cons hfile (.nil w'))).deliver_eq
  refine ⟨w', ?_, halike.altered haltered⟩
  rw [← hdeliver]
  simp [Function.comp_def]

end World

theorem ofSteps_again (base : Path) (files : List Artifact) (last : Artifact) (force : Bool) :
    Summary.ofSteps base ((files.map fun a => (a, .again force)) ++ [(last, .appended)]) =
      if force then ⟨files.map (base.join ·.path), [], [base.join last.path]⟩
      else ⟨[], files.map (base.join ·.path), [base.join last.path]⟩ := by
  cases force <;>
    simp [Summary.ofSteps, destinations, Outcome.again, List.filter_map, Function.comp_def]

/-! ## Plans -/

/-- The templates with a file of its own. -/
def Template.own : List Template :=
  [.migration, .factory, .test, .model, .resource, .collection, .controller]

section Plan

variable {r : Resource} {o : PlanOptions} {text : Template → String}

theorem files_eq_own (r : Resource) (o : PlanOptions) (text : Template → String) :
    r.files o text = Template.own.map (r.file o text) ++ [r.file o text .routes] := rfl

theorem map_path_file {α : Type} (r : Resource) (o : PlanOptions) (text : Template → String)
    (ts : List Template) (f : Path → α) : ((ts.map (r.file o text)).map fun a => f a.path) =
      ts.map fun t => f (artifactPath t r o.timestamp) := by
  rw [List.map_map]
  exact List.map_congr_left fun t _ => congrArg f (path_file r o text t)

/-- **The places of a plan's files are different**, as long as the name does not begin with a slash
and no path climbs. -/
theorem nodup_places (hroot : ¬ Rooted r.pascalName.toList)
    (hlevel : ∀ t, (artifactPath t r o.timestamp).climbs = false) (d : Disk) (base : Path)
    {steps : List (Artifact × Outcome)} (hfiles : steps.map Prod.fst = r.files o text) :
    (steps.map fun step => d.place (base.join step.1.path)).Nodup := by
  have hplaces : (steps.map fun step => d.place (base.join step.1.path)) =
      Template.all.map fun t => d.place (base.join (artifactPath t r o.timestamp)) := by
    rw [← map_path_file r o text Template.all fun p => d.place (base.join p)]
    change _ = (r.files o text).map _
    rw [← hfiles, List.map_map]
    rfl
  have hinside (t : Template) : (artifactPath t r o.timestamp).Inside :=
    inside_of_not_rooted hroot (hlevel t)
  rw [hplaces]
  exact (List.nodup_map_iff_inj_on Template.nodup_all).2 fun t _ t' _ =>
    place_artifactPath_inj (hinside t) (hinside t')

theorem mode_of_mem_own {a : Artifact} (h : a ∈ Template.own.map (r.file o text)) :
    a.mode = .create := by
  obtain ⟨t, ht, rfl⟩ := List.mem_map.1 h
  unfold Resource.file
  rw [if_neg]
  rintro rfl
  exact absurd ht (by decide)

theorem path_routes (r : Resource) (o : PlanOptions) (text : Template → String) :
    (r.file o text .routes).path = ⟨"routes/web.php"⟩ := by
  rw [path_file, artifactPath_routes]

/-- **What is reported of a plan** if the routes are added to and the same becomes of all other
files. -/
theorem ofSteps_own (r : Resource) (o : PlanOptions) (text : Template → String) (base : Path)
    (force : Bool) : Summary.ofSteps base
        (((Template.own.map (r.file o text)).map fun a => (a, .again force)) ++
          [(r.file o text .routes, .appended)]) =
      (if force then
        ⟨Template.own.map fun t => base.join (artifactPath t r o.timestamp), [],
          [base.join ⟨"routes/web.php"⟩]⟩
      else
        ⟨[], Template.own.map fun t => base.join (artifactPath t r o.timestamp),
          [base.join ⟨"routes/web.php"⟩]⟩) := by
  rw [ofSteps_again, map_path_file r o text Template.own base.join, path_routes]

theorem map_done_files (r : Resource) (o : PlanOptions) (text : Template → String) :
    ((r.files o text).map fun a => (a, a.mode.done)) =
      ((Template.own.map (r.file o text)).map fun a => (a, .again true)) ++
        [(r.file o text .routes, .appended)] := by
  rw [files_eq_own, List.map_append]
  refine congrArg (· ++ _) (List.map_congr_left fun a ha => ?_)
  rw [mode_of_mem_own ha]
  rfl

theorem World.Delivers.settled_files {w w' : World} {base : Path}
    {steps : List (Artifact × Outcome)} (h : Delivers true base w steps w') (hd : w.disk.Sound)
    (hfiles : steps.map Prod.fst = r.files o text)
    (hapart : (steps.map fun step => w.disk.place (base.join step.1.path)).Nodup) :
    (∀ a ∈ Template.own.map (r.file o text), a.Settled base w'.disk) ∧
      w'.disk.Stands (base.join (r.file o text .routes).path) := by
  have hstep {a : Artifact} (ha : a ∈ r.files o text) : ∃ step ∈ steps, step.1 = a :=
    List.mem_map.1 (hfiles ▸ ha)
  constructor
  · intro a ha
    obtain ⟨step, hmem, rfl⟩ := hstep (files_eq_own r o text ▸ List.mem_append_left _ ha)
    exact h.settled hd hapart step hmem (mode_of_mem_own ha)
  · obtain ⟨step, hmem, hroutes⟩ := hstep (mem_files_iff.2 ⟨.routes, rfl⟩)
    rw [← hroutes]
    exact h.stands hd step hmem

end Plan

/-! ## The same plan once more -/

namespace World

/-- **The same plan, delivered once more.** After a delivery by force that succeeded, the plan can
be delivered again, in any world with the disk that was left. By force it creates the same seven
files, and without force and any answers it skips these. Either way nothing changes but the contents
of the routes, to which the block is added that the first delivery has added to them. -/
theorem deliver_again {w w' : World} {base : Path} {r : Resource} {renderer : Renderer}
    {o : PlanOptions} {files : List Artifact} {s : Summary} (hd : w.disk.Sound)
    (hroot : ¬ Rooted r.pascalName.toList)
    (hlevel : ∀ t, (artifactPath t r o.timestamp).climbs = false)
    (hplan : (plan r renderer o).result = .ok files)
    (hfirst : w.deliver true base files = (.ok s, w')) :
    let own := Template.own.map fun t => base.join (artifactPath t r o.timestamp)
    let routes := base.join ⟨"routes/web.php"⟩
    let place := w.disk.place routes
    ∃ text, renderer .routes (templateParams r o .routes) = .ok text ∧
      let block := encode ("\n" ++ text ++ "\n")
      s = ⟨own, [], [routes]⟩ ∧
      w'.disk.root.look place = some (Node.altered (· ++ block) (w.disk.root.look place)) ∧
      ∀ w₂ : World, w₂.disk = w'.disk →
        (∃ w₃, w₂.deliver true base files = (.ok s, w₃) ∧
          Disk.Altered place (· ++ block) w'.disk w₃.disk) ∧
        (w₂.answers = [] → ∃ w₃,
          w₂.deliver false base files = (.ok ⟨[], own, [routes]⟩, w₃) ∧
            Disk.Altered place (· ++ block) w'.disk w₃.disk) := by
  obtain ⟨text, htext, rfl⟩ := result_plan_eq_ok_iff.1 hplan
  obtain ⟨steps, hruns, hfiles, rfl⟩ := exists_delivers hfirst
  have hapart := nodup_places hroot hlevel w.disk base hfiles
  obtain ⟨hsettled, hstands⟩ := hruns.settled_files hd hfiles hapart
  have hkeeps := hruns.keeps hd
  -- Both of the later deliveries are of settled files, and only their summaries differ.
  have hagain (force : Bool) {w₂ : World} (hw₂ : w₂.disk = w'.disk)
      (hquiet : force = false → w₂.answers = []) :=
    exists_deliver_of_settled (w := w₂) (hw₂ ▸ hkeeps.sound hd) (hw₂ ▸ hsettled) (hw₂ ▸ hstands)
      rfl hquiet
  simp only [ofSteps_own, ← files_eq_own, path_routes] at hagain
  have hsummary := congrArg (Summary.ofSteps base) (hruns.steps_eq.trans (by rw [hfiles]))
  rw [map_done_files, ofSteps_own, if_pos rfl] at hsummary
  have hroutes := hruns.look_of_apart hd hapart
  refine ⟨text .routes, htext .routes, hsummary, ?_, fun w₂ hw₂ => ⟨?_, fun hquiet => ?_⟩⟩
  · obtain ⟨step, hmem, hstep⟩ := List.mem_map.1 (hfiles ▸ mem_files_iff.2 ⟨.routes, rfl⟩)
    have hlook := hroutes step hmem
    rw [hstep, path_routes] at hlook
    exact hlook
  · obtain ⟨w₃, hdeliver, haltered⟩ := hagain true hw₂ nofun
    rw [hsummary]
    rw [hw₂, hkeeps.place] at haltered
    exact ⟨w₃, hdeliver, haltered⟩
  · obtain ⟨w₃, hdeliver, haltered⟩ := hagain false hw₂ fun _ => hquiet
    rw [hw₂, hkeeps.place] at haltered
    exact ⟨w₃, hdeliver, haltered⟩

/-- A plan is delivered to a project of which nothing exists, and then again without an answer; the
name puts some of its files into folders of its own. -/
theorem deliver_again_in_new_project :
    let o : PlanOptions := ⟨true, true, ⟨2017, 9, 16, 10, 3, 50⟩⟩
    ∃ r files s w' w₃, Resource.build "a/b" "c" [] false = .ok r ∧
      (plan r (fun _ _ => .ok "x") o).result = .ok files ∧
      World.deliver true ⟨"p"⟩ files ⟨⟨.directory [], []⟩, [], []⟩ = (.ok s, w') ∧
      World.deliver false ⟨"p"⟩ files ⟨w'.disk, [], []⟩ =
        (.ok ⟨[], s.created, s.appended⟩, w₃) ∧
      w₃.disk.root.contents? ["p", "routes", "web.php"] = some (encode "\nx\n\nx\n") := by
  let o : PlanOptions := ⟨true, true, ⟨2017, 9, 16, 10, 3, 50⟩⟩
  let r : Resource := ⟨"a/b", "c", [], false, by decide, by decide⟩
  have hplan : (plan r (fun _ _ => .ok "x") o).result = .ok (r.files o fun _ => "x") :=
    result_plan_eq_ok_iff.2 ⟨_, fun _ => rfl, rfl⟩
  have hsome : (diskAfter? (World.deliver true ⟨"p"⟩ (r.files o fun _ => "x")
      ⟨⟨.directory [], []⟩, [], []⟩)).isSome = true := by decide +kernel
  obtain ⟨d', hd'⟩ := Option.isSome_iff_exists.1 hsome
  obtain ⟨s, w', hfirst, -⟩ := exists_of_diskAfter? hd'
  obtain ⟨text, htext, rfl, hroutes, hagain⟩ := deliver_again (w := ⟨⟨.directory [], []⟩, [], []⟩)
    rfl (by decide) (fun t => by cases t <;> decide +kernel) hplan hfirst
  obtain rfl : "x" = text := Except.ok.inj htext
  obtain ⟨w₃, hsecond, haltered⟩ := (hagain ⟨w'.disk, [], []⟩ rfl).2 rfl
  refine ⟨r, _, _, w', w₃, rfl, hplan, hfirst, hsecond, ?_⟩
  have hplace : Disk.place ⟨.directory [], []⟩ (Path.join ⟨"p"⟩ ⟨"routes/web.php"⟩) =
      ["p", "routes", "web.php"] := by decide +kernel
  have hblock : encode ("\n" ++ "x" ++ "\n") ++ encode ("\n" ++ "x" ++ "\n") =
      encode "\nx\n\nx\n" := by decide
  have hlook := haltered.look_place
  rw [hroutes, hplace] at hlook
  rw [FileTree.contents?_eq_some_iff, hlook, ← hblock]
  rfl

end World

end Groundwork
