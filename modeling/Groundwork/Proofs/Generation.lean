import Groundwork.Commands
import Groundwork.Proofs.Delivery.Outcome
import Groundwork.Proofs.Plan.Files
import Groundwork.Proofs.Plan.Paths

/-!
# Generations that succeed

A generation that succeeds and does not refresh the autoloader is a run of steps, one for each file
of its resource: seven files of their own, and at last the routes.

* `Resource.standardFiles`: the files that the standard renderer writes.
* `Disk.routesPlace`: the place of the routes.
* **`World.exists_run_of_generate`**: the run of a generation.
* **`World.exists_parts_of_generate`**: its two parts, the routes being the second.
* `Disk.project`, `Arguments.plain`, `Host.plain`: a project to run in.
-/

namespace Groundwork

open Noted (result_andThen_eq_ok_iff result_mapFailure_eq_ok_iff)

variable {r : Resource} {o : PlanOptions} {steps : List (Artifact × Outcome)}

/-! ## The files of a resource -/

/-- **The files of a resource**, as the standard renderer writes them. -/
def Resource.standardFiles (r : Resource) (o : PlanOptions) : List Artifact :=
  r.files o fun t => "\n".intercalate (r.lines o t)

/-- The routes of a resource, as they are added to the file. -/
def Resource.routesFile (r : Resource) (o : PlanOptions) : Artifact :=
  ⟨.routes, artifactPath .routes r o.timestamp,
    "\n" ++ "\n".intercalate (r.lines o .routes) ++ "\n", .append⟩

/-- The files of a resource that are files of their own. -/
def Resource.ownFiles (r : Resource) (o : PlanOptions) : List Artifact :=
  [.migration, .factory, .test, .model, .resource, .collection, .controller].map
    (r.file o fun t => "\n".intercalate (r.lines o t))

theorem standardFiles_eq (r : Resource) (o : PlanOptions) :
    r.standardFiles o = r.ownFiles o ++ [r.routesFile o] := rfl

theorem routesFile_mem (r : Resource) (o : PlanOptions) : r.routesFile o ∈ r.standardFiles o := by
  rw [standardFiles_eq]
  exact List.mem_append_right _ (List.mem_singleton_self _)

theorem exists_path_of_mem {a : Artifact} (h : a ∈ r.standardFiles o) :
    ∃ t, a.path = artifactPath t r o.timestamp := by
  obtain ⟨t, rfl⟩ := mem_files_iff.1 h
  exact ⟨t, path_file r o _ t⟩

theorem exists_of_mem_ownFiles (h : steps.map Prod.fst = r.ownFiles o)
    {step : Artifact × Outcome} (hstep : step ∈ steps) :
    ∃ t ≠ Template.routes, step.1 = ⟨t, artifactPath t r o.timestamp,
      "<?php\n\n" ++ "\n".intercalate (r.lines o t) ++ "\n", .create⟩ := by
  have hmem : step.1 ∈ r.ownFiles o := h ▸ List.mem_map_of_mem hstep
  obtain ⟨t, ht, hfile⟩ := List.mem_map.1 hmem
  have hne : t ≠ .routes := by
    rintro rfl
    exact absurd ht (by decide)
  exact ⟨t, hne, hfile.symm.trans (if_neg hne)⟩

theorem exists_ownSteps (h : steps.map Prod.fst = r.standardFiles o) :
    ∃ own last, steps = own ++ [(r.routesFile o, last)] ∧ own.map Prod.fst = r.ownFiles o := by
  rw [standardFiles_eq] at h
  obtain ⟨own, after, rfl, hown, hafter⟩ := List.map_eq_append_iff.1 h
  obtain ⟨⟨file, last⟩, rfl, hlast⟩ := List.map_eq_singleton_iff.1 hafter
  exact ⟨own, last, by rw [← hlast], hown⟩

theorem exists_mem_ownFiles {t : Template} (h : t ≠ .routes) :
    ∃ a ∈ r.ownFiles o, a.path = artifactPath t r o.timestamp := by
  refine ⟨_, List.mem_map_of_mem ?_, path_file r o _ t⟩
  revert h
  cases t <;> decide

/-- **The place of the routes** below a base. -/
def Disk.routesPlace (d : Disk) (base : Path) : Place := d.place (base.join ⟨"routes/web.php"⟩)

theorem place_routesFile (r : Resource) (o : PlanOptions) (d : Disk) (base : Path) :
    d.place (base.join (r.routesFile o).path) = d.routesPlace base := by
  rw [Resource.routesFile, artifactPath_routes]
  rfl

namespace World

variable {h : Host} {a : Arguments} {s : Settings} {time : Timestamp} {summary : Summary}
  {force : Bool} {base : Path} {w w' : World}

/-! ## Runs -/

theorem Delivers.of_append {before after : List (Artifact × Outcome)}
    (h : Delivers force base w (before ++ after) w') :
    ∃ w₁, Delivers force base w before w₁ ∧ Delivers force base w₁ after w' := by
  induction before generalizing w with
  | nil => exact ⟨w, .nil w, h⟩
  | cons step rest ih =>
    cases h with
    | cons file more =>
      obtain ⟨w₁, hbefore, hafter⟩ := ih more
      exact ⟨w₁, .cons file hbefore, hafter⟩

/-- **The run of a planning and delivery** that succeed: a step for each file of the resource, with
the texts that the renderer has written. -/
theorem exists_run_of_scaffold {renderer : Renderer}
    (hok : w.scaffold h a s renderer time = (.ok summary, w')) :
    ∃ r text ns steps, a.description.resource.result = .ok r ∧
      (∀ t, renderer t (templateParams r ((a.apply s).planOptions time) t) = .ok (text t)) ∧
      Delivers a.force (a.base h) (w.notice ns) steps w' ∧
      steps.map Prod.fst = r.files ((a.apply s).planOptions time) text := by
  unfold scaffold at hok
  cases hprepared :
      (preparePlan a.description renderer ((a.apply s).planOptions time)).result with
  | error e =>
    simp only [hprepared] at hok
    cases hok
  | ok files =>
    simp only [hprepared] at hok
    obtain ⟨r, hr, hplan⟩ := result_andThen_eq_ok_iff.1 hprepared
    rw [result_mapFailure_eq_ok_iff] at hr hplan
    obtain ⟨text, htext, rfl⟩ := result_plan_eq_ok_iff.1 hplan
    obtain ⟨steps, hruns, hfiles, -⟩ := exists_delivers hok
    exact ⟨r, text, _, steps, hr, htext, hruns, hfiles⟩

/-- **The run of a generation** that succeeds without a refresh. -/
theorem exists_run_of_generate (hoff : (a.apply s).dumpAutoload = false)
    (hok : w.generate h a s Renderer.standard time = (.ok summary, w')) :
    ∃ r ns steps, a.description.resource.result = .ok r ∧
      Delivers a.force (a.base h) (w.notice ns) steps w' ∧
      steps.map Prod.fst = r.standardFiles ((a.apply s).planOptions time) := by
  have hscaffold : w.scaffold h a s Renderer.standard time = (.ok summary, w') := by
    unfold generate at hok
    rw [hoff] at hok
    split at hok
    · cases hok
    · rename_i summary₁ w₁ hwritten
      rw [hwritten]
      exact hok
  obtain ⟨r, text, ns, steps, hr, htext, hruns, hfiles⟩ := exists_run_of_scaffold hscaffold
  obtain rfl : text = fun t => "\n".intercalate
      (r.lines ((a.apply s).planOptions time) t) := funext fun t =>
    Except.ok.inj ((htext t).symm.trans (Renderer.standard_templateParams r _ t))
  exact ⟨r, ns, steps, hr, hruns, hfiles⟩

/-- **The two parts of a generation** that succeeds without a refresh: the files of their own are
delivered, and then the routes. -/
theorem exists_parts_of_generate (hoff : (a.apply s).dumpAutoload = false)
    (hok : w.generate h a s Renderer.standard time = (.ok summary, w')) :
    ∃ r ns steps w₁ o, a.description.resource.result = .ok r ∧
      Delivers a.force (a.base h) (w.notice ns) steps w₁ ∧
      steps.map Prod.fst = r.ownFiles ((a.apply s).planOptions time) ∧
      w₁.deliverFile a.force (a.base h) (r.routesFile ((a.apply s).planOptions time)) =
        (.ok o, w') := by
  obtain ⟨r, ns, steps, hr, hruns, hfiles⟩ := exists_run_of_generate hoff hok
  obtain ⟨own, last, rfl, hown⟩ := exists_ownSteps hfiles
  obtain ⟨w₁, hfirst, hroutes⟩ := hruns.of_append
  cases hroutes with
  | cons file rest =>
    cases rest
    exact ⟨r, ns, own, w₁, last, hr, hfirst, hown, file⟩

end World

/-! ## A project to run in -/

/-- A project with all directories, and with these files in the directory of the routes. -/
def Disk.project (routes : List (String × FileTree)) : Disk where
  root := .directory [
    ("app", .directory [
      ("Http", .directory [("Controllers", .directory [])]),
      ("Resources", .directory [])]),
    ("database", .directory [("factories", .directory []), ("migrations", .directory [])]),
    ("routes", .directory routes),
    ("tests", .directory [])]
  current := []

/-- A command line for a resource without fields, to be run from within a project. -/
def Arguments.plain (name plural : String) : Arguments where
  description := ⟨name, plural, [], false⟩
  force := false
  noInlineValidation := false
  noInlineSnakeCase := false
  skipAutoload := true
  basePath := none

/-- The disk that a generation leaves if it succeeds. -/
def World.diskAfter? : Except Failure Summary × World → Option Disk
  | (.ok _, w) => some w.disk
  | (.error _, _) => none

theorem World.exists_of_diskAfter? {x : Except Failure Summary × World} {d : Disk}
    (h : World.diskAfter? x = some d) : ∃ summary w, x = (.ok summary, w) ∧ w.disk = d := by
  obtain ⟨_ | summary, w⟩ := x
  · cases h
  · exact ⟨summary, w, rfl, Option.some.inj h⟩

/-- A host without any settings of its own. -/
def Host.plain : Host := ⟨⟨"/home"⟩, none, none, Programs.standard⟩

end Groundwork
