import Groundwork.Proofs.Layout.Lines
import Groundwork.Proofs.Refusal

/-!
# The files of a plan

A plan has all eight files of a resource or none. Which of the two it is depends on the renderer
alone, and so does what is noticed on the way: each template that was rendered, with the size of its
text. The standard renderer fails on no resource.

* `Resource.files`: the files of a resource for the texts of the templates.
* `Resource.StopsAt`: the renderer fails on a template after it has rendered those before it.
* **`plan_of_rendered`**, **`plan_of_stopsAt`**: what is planned in either case.
* **`plan_complete_or_stopped`**: one of the two is the case, and with the standard renderer it is
  the first.
-/

namespace Groundwork

variable {r : Resource} {renderer : Renderer} {o : PlanOptions} {t : Template}

/-! ## Files -/

namespace Resource

/-- **The file of a template** with this text: its own, opened by the language tag, or an addition
to the routes. -/
def file (r : Resource) (o : PlanOptions) (text : Template → String) (t : Template) : Artifact :=
  if t = .routes then ⟨t, artifactPath t r o.timestamp, "\n" ++ text t ++ "\n", .append⟩
  else ⟨t, artifactPath t r o.timestamp, "<?php\n\n" ++ text t ++ "\n", .create⟩

/-- **The files of a resource** for the texts of the templates, the routes last. -/
def files (r : Resource) (o : PlanOptions) (text : Template → String) : List Artifact :=
  [.migration, .factory, .test, .model, .resource, .collection, .controller, .routes].map
    (r.file o text)

/-- **The renderer writes these texts** for a resource. -/
def Rendered (r : Resource) (renderer : Renderer) (o : PlanOptions) (text : Template → String)
    (ts : List Template) : Prop :=
  ∀ t ∈ ts, renderer t (templateParams r o t) = .ok (text t)

end Resource

theorem mem_files_iff {text : Template → String} {a : Artifact} :
    a ∈ r.files o text ↔ ∃ t, r.file o text t = a :=
  List.mem_map.trans ⟨fun ⟨t, _, ht⟩ => ⟨t, ht⟩, fun ⟨t, ht⟩ => ⟨t, t.mem_all, ht⟩⟩

theorem path_file (r : Resource) (o : PlanOptions) (text : Template → String) (t : Template) :
    (r.file o text t).path = artifactPath t r o.timestamp := by
  unfold Resource.file
  split <;> rfl

/-- The notices of rendered templates: each with the number of bytes of its text. -/
def renderedNotices (text : Template → String) (ts : List Template) : List Notice :=
  ts.map fun t => .rendered t (text t).utf8ByteSize

theorem planFile_of_rendered {text : Template → String}
    (h : renderer t (templateParams r o t) = .ok (text t)) :
    planFile r renderer o t = ⟨[.rendered t (text t).utf8ByteSize], .ok (r.file o text t)⟩ := by
  unfold planFile Resource.file
  rw [h]
  cases t <;> rfl

theorem forall₂_planFile {text : Template → String} {ts : List Template}
    (h : r.Rendered renderer o text ts) :
    List.Forall₂ (fun t a => planFile r renderer o t = ⟨[.rendered t (text t).utf8ByteSize], .ok a⟩)
      ts (ts.map (r.file o text)) :=
  List.forall₂_map_right_iff.2 (List.forall₂_same.2 fun t ht => planFile_of_rendered (h t ht))

theorem planFile_of_failed {e : RenderError}
    (h : renderer t (templateParams r o t) = .error e) :
    planFile r renderer o t = ⟨[], .error e⟩ := by
  unfold planFile
  rw [h]
  rfl

theorem flatMap_rendered (text : Template → String) (ts : List Template) :
    (ts.flatMap fun t => [Notice.rendered t (text t).utf8ByteSize]) = renderedNotices text ts :=
  List.map_eq_flatMap.symm

/-! ## All or nothing -/

/-- **A plan has all files** when all templates were rendered. -/
theorem plan_of_rendered {text : Template → String} (h : r.Rendered renderer o text Template.all) :
    plan r renderer o = ⟨renderedNotices text Template.all, .ok (r.files o text)⟩ := by
  rw [plan, Noted.each_eq_ok (forall₂_planFile h), flatMap_rendered]
  rfl

/-- **The renderer stops at a template**: it has rendered those before it, to be noticed each, and
fails. -/
inductive Resource.StopsAt (r : Resource) (renderer : Renderer) (o : PlanOptions) :
    List Notice → RenderError → Prop
  | template {before after : List Template} {t : Template} {text : Template → String}
      {e : RenderError} (split : Template.all = before ++ t :: after)
      (rendered : r.Rendered renderer o text before)
      (failed : renderer t (templateParams r o t) = .error e) :
      StopsAt r renderer o (renderedNotices text before) e

/-- **A plan has no files** when the renderer stops; what comes after is not even tried. -/
theorem plan_of_stopsAt {ns : List Notice} {e : RenderError} (h : r.StopsAt renderer o ns e) :
    plan r renderer o = ⟨ns, .error e⟩ := by
  cases h with
  | template split rendered failed =>
    rw [plan, split, Noted.each_append_eq_error (forall₂_planFile rendered)
      (planFile_of_failed failed), flatMap_rendered, List.append_nil]

theorem exists_rendered {ts : List Template}
    (h : ∀ t ∈ ts, ∃ text, renderer t (templateParams r o t) = .ok text) :
    ∃ text, r.Rendered renderer o text ts := by
  refine ⟨fun t => (renderer t (templateParams r o t)).toOption.getD "", fun t ht => ?_⟩
  obtain ⟨text, htext⟩ := h t ht
  dsimp only
  rw [htext]
  rfl

theorem rendered_all_iff {text : Template → String} : r.Rendered renderer o text Template.all ↔
    ∀ t, renderer t (templateParams r o t) = .ok (text t) :=
  ⟨fun h t => h t t.mem_all, fun h t _ => h t⟩

theorem exists_stopsAt {e : RenderError} (h : (plan r renderer o).result = .error e) :
    ∃ ns, r.StopsAt renderer o ns e := by
  obtain ⟨before, t, after, split, hrendered, hfailed⟩ := Description.result_plan_eq_error_iff.1 h
  obtain ⟨text, htext⟩ := exists_rendered hrendered
  exact ⟨_, .template split htext hfailed⟩

theorem result_plan_eq_ok_iff {files : List Artifact} : (plan r renderer o).result = .ok files ↔
    ∃ text, (∀ t, renderer t (templateParams r o t) = .ok (text t)) ∧
      files = r.files o text := by
  simp only [← rendered_all_iff]
  constructor
  · intro h
    have hall : ∀ t ∈ Template.all, ∃ text, renderer t (templateParams r o t) = .ok text :=
      fun t ht => Description.exists_result_planFile_iff.1
        (Noted.exists_result_each_iff.1 ⟨files, h⟩ t ht)
    obtain ⟨text, htext⟩ := exists_rendered hall
    rw [plan_of_rendered htext] at h
    exact ⟨text, htext, (Except.ok.inj h).symm⟩
  · rintro ⟨text, htext, rfl⟩
    rw [plan_of_rendered htext]

theorem Resource.exists_standard_files (r : Resource) (o : PlanOptions) :
    ∃ files, (plan r Renderer.standard o).result = .ok files :=
  ⟨_, result_plan_eq_ok_iff.2 ⟨_, Renderer.standard_templateParams r o, rfl⟩⟩

theorem plan_eq_ok_iff {ns : List Notice} {files : List Artifact} :
    plan r renderer o = ⟨ns, .ok files⟩ ↔
      ∃ text, (∀ t, renderer t (templateParams r o t) = .ok (text t)) ∧
        ns = renderedNotices text Template.all ∧ files = r.files o text := by
  constructor
  · intro h
    obtain ⟨text, htext, rfl⟩ := result_plan_eq_ok_iff.1 (congrArg Noted.result h)
    rw [plan_of_rendered (rendered_all_iff.2 htext), Noted.mk.injEq] at h
    exact ⟨text, htext, h.1.symm, rfl⟩
  · rintro ⟨text, htext, rfl, rfl⟩
    exact plan_of_rendered (rendered_all_iff.2 htext)

theorem plan_eq_error_iff {ns : List Notice} {e : RenderError} :
    plan r renderer o = ⟨ns, .error e⟩ ↔ r.StopsAt renderer o ns e := by
  refine ⟨fun h => ?_, plan_of_stopsAt⟩
  obtain ⟨ns', hstops⟩ := exists_stopsAt (congrArg Noted.result h)
  have hplan := plan_of_stopsAt hstops
  rw [h, Noted.mk.injEq] at hplan
  exact hplan.1 ▸ hstops

theorem exists_result_plan_error_iff : (∃ e, (plan r renderer o).result = .error e) ↔
    ∃ t e, renderer t (templateParams r o t) = .error e := by
  constructor
  · rintro ⟨e, h⟩
    obtain ⟨-, t, -, -, -, hfailed⟩ := Description.result_plan_eq_error_iff.1 h
    exact ⟨t, e, hfailed⟩
  · rintro ⟨t, e, hfailed⟩
    by_contra hnone
    cases hplan : (plan r renderer o).result with
    | error e' => exact hnone ⟨e', hplan⟩
    | ok files =>
      obtain ⟨text, htext, -⟩ := result_plan_eq_ok_iff.1 hplan
      have hrendered := htext t
      rw [hfailed] at hrendered
      cases hrendered

/-- **A plan is complete or stopped.** With the standard renderer it is complete for every resource.
With any renderer it is complete when all eight templates were rendered and fails when one was not,
then with the error of the first of them and the notices of those before it. -/
theorem plan_complete_or_stopped (r : Resource) (o : PlanOptions) :
    (∃ text, (∀ t, Renderer.standard t (templateParams r o t) = .ok (text t)) ∧
      (plan r Renderer.standard o).result = .ok (r.files o text)) ∧
    ∀ renderer : Renderer,
      (∀ ns files, plan r renderer o = ⟨ns, .ok files⟩ ↔
        ∃ text, (∀ t, renderer t (templateParams r o t) = .ok (text t)) ∧
          ns = renderedNotices text Template.all ∧ files = r.files o text) ∧
      ((∃ e, (plan r renderer o).result = .error e) ↔
        ∃ t e, renderer t (templateParams r o t) = .error e) ∧
      ∀ ns e, plan r renderer o = ⟨ns, .error e⟩ ↔ r.StopsAt renderer o ns e := by
  have hstandard (t : Template) : Renderer.standard t (templateParams r o t)
      = .ok ("\n".intercalate (r.lines o t)) := Renderer.standard_templateParams r o t
  refine ⟨⟨_, hstandard, result_plan_eq_ok_iff.2 ⟨_, hstandard, rfl⟩⟩, fun renderer => ?_⟩
  exact ⟨fun ns files => plan_eq_ok_iff, exists_result_plan_error_iff,
    fun ns e => plan_eq_error_iff⟩

end Groundwork
