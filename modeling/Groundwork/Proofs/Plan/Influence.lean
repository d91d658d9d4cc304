import Groundwork.Proofs.Plan.Files

/-!
# What each input can influence

A plan is made from seven inputs. Of each it is known which files it can move and which it can
change; two plans that differ in one input agree on everything else. A template reads no more than
the values that it names, so an input has no say in a template that names none of its values.

* `Input`, `DiffersIn`: the inputs, and what it means to change one of them.
* `Input.moves`, `Input.changes`: the files whose path or contents an input can have a say in.
* `Input.names`: the values that an input has a say in.
* `params_agree`, `names_apart`: the other values stay, and a template names no others unless
  the input can change its file.
* **`plan_influence`**: plans that differ in one input agree on all that it has no say in.
-/

namespace Groundwork

/-! ## Inputs -/

/-- **What a plan is made from** besides the renderer. -/
structure Inputs where
  name : String
  plural : String
  fields : List Field
  softDeletes : Bool
  options : PlanOptions

/-- The resource that is built from inputs. -/
def Inputs.resource (x : Inputs) : Except Rejection Resource :=
  Resource.build x.name x.plural x.fields x.softDeletes

/-- **The inputs**, one by one. -/
inductive Input where
  | name
  | plural
  | fields
  | softDeletes
  | inlineValidate
  | inlineSnakeCase
  | timestamp
  deriving DecidableEq, Repr

/-- **Inputs that differ in one of them only**, if at all. -/
inductive DiffersIn : Input → Inputs → Inputs → Prop
  | name (x : Inputs) (name : String) : DiffersIn .name x { x with name }
  | plural (x : Inputs) (plural : String) : DiffersIn .plural x { x with plural }
  | fields (x : Inputs) (fields : List Field) : DiffersIn .fields x { x with fields }
  | softDeletes (x : Inputs) (softDeletes : Bool) : DiffersIn .softDeletes x { x with softDeletes }
  | inlineValidate (x : Inputs) (inlineValidate : Bool) :
      DiffersIn .inlineValidate x { x with options := { x.options with inlineValidate } }
  | inlineSnakeCase (x : Inputs) (inlineSnakeCase : Bool) :
      DiffersIn .inlineSnakeCase x { x with options := { x.options with inlineSnakeCase } }
  | timestamp (x : Inputs) (timestamp : Timestamp) :
      DiffersIn .timestamp x { x with options := { x.options with timestamp } }

namespace Input

/-- **The input is an option**, and no part of the resource. -/
def isOption : Input → Bool
  | .inlineValidate | .inlineSnakeCase | .timestamp => true
  | _ => false

/-- **The input has a say in the path** of a template's file. -/
def moves : Input → Template → Bool
  | .name, t => t ∈ [.factory, .test, .model, .resource, .collection, .controller]
  | .plural, t | .timestamp, t => t = .migration
  | _, _ => false

/-- **The input has a say in the contents** of a template's file. -/
def changes : Input → Template → Bool
  | .name, t => t ≠ .migration
  | .plural, t => t ∈ [.migration, .test, .model, .routes]
  | .fields, t => t ∈ [.migration, .factory, .model, .resource, .controller]
  | .softDeletes, t => t ∈ [.migration, .model, .resource]
  | .inlineValidate, t | .inlineSnakeCase, t => t = .controller
  | .timestamp, _ => false

/-- The values that the input has a say in, where it is a part of the resource. -/
def names : Input → List String
  | .name => ["pascalName", "camelName"]
  | .plural => ["pluralName"]
  | .fields => ["fields", "primaryKeyFields", "useGeneratedKey", "hasAutoIncrementPrimaryKey",
    "usesDefaultKey"]
  | .softDeletes => ["softDeletesEnabled"]
  | .inlineValidate | .inlineSnakeCase | .timestamp => []

end Input

/-- **Two files agree on all that an input has no say in.** -/
structure AgreeBut (i : Input) (a b : Artifact) : Prop where
  template : a.template = b.template
  mode : a.mode = b.mode
  path : i.moves a.template = false → a.path = b.path
  contents : i.changes a.template = false → a.contents = b.contents

/-! ## Paths -/

section Plans

variable {i : Input} {x y : Inputs} {r r' : Resource} {o o' : PlanOptions} {t : Template}

/-- **The path of a file** holds the plural and the time for a migration, the name for the others,
and nothing of a resource for the routes. -/
theorem artifactPath_congr (hname : Input.name.moves t = true → r'.name = r.name)
    (hplural : Input.plural.moves t = true → r'.plural = r.plural)
    (htime : Input.timestamp.moves t = true → o'.timestamp = o.timestamp) :
    artifactPath t r' o'.timestamp = artifactPath t r o.timestamp := by
  unfold artifactPath artifactSegments Resource.pascalName
  cases t with
  | migration => rw [hplural rfl, htime rfl]
  | routes => rfl
  | _ => rw [hname (by decide)]

theorem artifactPath_eq (hdiffers : DiffersIn i x y) (hx : x.resource = .ok r)
    (hy : y.resource = .ok r') (hfree : i.moves t = false) :
    artifactPath t r' y.options.timestamp = artifactPath t r x.options.timestamp := by
  obtain ⟨-, hname, hplural, -, -⟩ := Resource.build_eq_ok_iff.1 hx
  obtain ⟨-, hname', hplural', -, -⟩ := Resource.build_eq_ok_iff.1 hy
  apply artifactPath_congr
  · intro hmoves
    cases hdiffers with
    | name => exact absurd hfree (by rw [hmoves]; decide)
    | _ => rw [hname, hname']
  · intro hmoves
    cases hdiffers with
    | plural => exact absurd hfree (by rw [hmoves]; decide)
    | _ => rw [hplural, hplural']
  · intro hmoves
    cases hdiffers with
    | timestamp => exact absurd hfree (by rw [hmoves]; decide)
    | _ => rfl

/-! ## Contents -/

theorem Keyed.get?_congr {α : Type} {es fs : Keyed α} {x : String}
    (h : List.Forall₂ (fun e f => e.1 = f.1 ∧ (e.2 = f.2 ∨ x ≠ e.1)) es fs) :
    es.get? x = fs.get? x := by
  induction h with
  | nil => rfl
  | @cons e f _ _ hef _ ih =>
    obtain ⟨hname, hsame | hother⟩ := hef
    · rw [get?, get?, ih, hname, hsame]
    · rw [get?, get?, ih, if_neg hother, if_neg (hname ▸ hother)]

theorem params_congr {key : String}
    (hname : r'.name = r.name ∨ key ∉ Input.name.names)
    (hplural : r'.plural = r.plural ∨ key ∉ Input.plural.names)
    (hfields : r'.fields = r.fields ∨ key ∉ Input.fields.names)
    (hsoft : r'.softDeletes = r.softDeletes ∨ key ∉ Input.softDeletes.names) :
    r'.params.get? key = r.params.get? key := by
  have hother {names : List String} {x : String} (hx : x ∈ names) (hkey : key ∉ names) : key ≠ x :=
    fun h => hkey (h ▸ hx)
  have hkeys (h : r'.fields = r.fields) : r'.keyFields = r.keyFields := by
    unfold Resource.keyFields
    rw [h]
  have hstrategy (h : r'.fields = r.fields) : r'.keyStrategy = r.keyStrategy := by
    unfold Resource.keyStrategy
    rw [hkeys h, h]
  apply Keyed.get?_congr
  unfold Resource.params Resource.pascalName Resource.usesGeneratedKey Resource.usesAutoIncrementKey
    Resource.usesConventionalKey
  simp only [List.forall₂_cons, List.forall₂_nil_left_iff, true_and, and_true]
  exact ⟨hname.imp (fun h => by rw [h]) (hother (by decide)),
    hname.imp (fun h => by rw [h]) (hother (by decide)),
    hplural.imp (fun h => by rw [h]) (hother (by decide)),
    hfields.imp (fun h => by rw [h]) (hother (by decide)),
    hfields.imp (fun h => by rw [hkeys h]) (hother (by decide)),
    hfields.imp (fun h => by rw [hstrategy h]) (hother (by decide)),
    hfields.imp (fun h => by rw [hstrategy h]) (hother (by decide)),
    hfields.imp (fun h => by rw [hstrategy h]) (hother (by decide)),
    hsoft.imp (fun h => by rw [h]) (hother (by decide))⟩

/-- **The other values stay** when a part of the resource is replaced. -/
theorem params_agree (hdiffers : DiffersIn i x y) (hx : x.resource = .ok r)
    (hy : y.resource = .ok r') (hpart : i.isOption = false) {key : String} (hkey : key ∉ i.names) :
    r'.params.get? key = r.params.get? key := by
  obtain ⟨-, hname, hplural, hfields, hsoft⟩ := Resource.build_eq_ok_iff.1 hx
  obtain ⟨-, hname', hplural', hfields', hsoft'⟩ := Resource.build_eq_ok_iff.1 hy
  cases hdiffers with
  | name =>
    exact params_congr (.inr hkey) (.inl (hplural'.trans hplural.symm))
      (.inl (hfields'.trans hfields.symm)) (.inl (hsoft'.trans hsoft.symm))
  | plural =>
    exact params_congr (.inl (hname'.trans hname.symm)) (.inr hkey)
      (.inl (hfields'.trans hfields.symm)) (.inl (hsoft'.trans hsoft.symm))
  | fields =>
    exact params_congr (.inl (hname'.trans hname.symm)) (.inl (hplural'.trans hplural.symm))
      (.inr hkey) (.inl (hsoft'.trans hsoft.symm))
  | softDeletes =>
    exact params_congr (.inl (hname'.trans hname.symm)) (.inl (hplural'.trans hplural.symm))
      (.inl (hfields'.trans hfields.symm)) (.inr hkey)
  | _ => cases hpart

/-- **A template names no value** of an input that does not change its file. -/
theorem names_apart (hpart : i.isOption = false) (hfree : i.changes t = false) :
    ∀ key ∈ Markup.namesIn t.page, key ∉ i.names := by
  have hall : (Markup.namesIn t.page).all (fun key => key ∉ i.names) = true := by
    cases i with
    | inlineValidate | inlineSnakeCase | timestamp => cases hpart
    | _ =>
      cases t <;> first
        | exact absurd hfree (by decide)
        | decide +kernel
  exact fun key hkey => of_decide_eq_true (List.all_eq_true.1 hall key hkey)

theorem lines_eq (hdiffers : DiffersIn i x y) (hx : x.resource = .ok r) (hy : y.resource = .ok r')
    (hpart : i.isOption = false) (hfree : i.changes t = false) :
    r'.lines y.options t = r.lines x.options t := by
  have hoptions : y.options = x.options := by
    cases hdiffers <;> first | rfl | cases hpart
  have hagree : Markup.Agree (Markup.namesIn t.page) (templateParams r' y.options t)
      (templateParams r x.options t) := by
    intro key hkey
    have hparams := params_agree hdiffers hx hy hpart (names_apart hpart hfree key hkey)
    rw [hoptions]
    unfold templateParams
    split_ifs
    · simp only [Keyed.get?_set, hparams]
    · exact hparams
  have hlines := Markup.linesOf?_congr hagree
  rw [r'.linesOf?_eq, r.linesOf?_eq] at hlines
  exact Option.some.inj hlines

theorem templateParams_eq (hdiffers : DiffersIn i x y) (hoption : i.isOption = true)
    (hfree : i.changes t = false) :
    templateParams r y.options t = templateParams r x.options t := by
  unfold templateParams
  cases hdiffers with
  | timestamp => rfl
  | inlineValidate =>
    have ht : t ≠ .controller := of_decide_eq_false hfree
    rw [if_neg ht, if_neg ht]
  | inlineSnakeCase =>
    have ht : t ≠ .controller := of_decide_eq_false hfree
    rw [if_neg ht, if_neg ht]
  | _ => cases hoption

theorem resource_eq (hdiffers : DiffersIn i x y) (hoption : i.isOption = true) :
    y.resource = x.resource := by
  cases hdiffers with
  | timestamp => rfl
  | inlineValidate => rfl
  | inlineSnakeCase => rfl
  | _ => cases hoption

/-! ## Plans -/

theorem agreeBut_file {text text' : Template → String}
    (hpath : i.moves t = false →
      artifactPath t r' o'.timestamp = artifactPath t r o.timestamp)
    (htext : i.changes t = false → text' t = text t) :
    AgreeBut i (r.file o text t) (r'.file o' text' t) := by
  unfold Resource.file
  split_ifs with ht
  · refine ⟨rfl, rfl, fun h => (hpath h).symm, fun h => ?_⟩
    rw [htext h]
  · refine ⟨rfl, rfl, fun h => (hpath h).symm, fun h => ?_⟩
    rw [htext h]

theorem forall₂_agreeBut_files {text text' : Template → String}
    (h : ∀ t, AgreeBut i (r.file o text t) (r'.file o' text' t)) :
    List.Forall₂ (AgreeBut i) (r.files o text) (r'.files o' text') := by
  unfold Resource.files
  rw [List.forall₂_map_left_iff, List.forall₂_map_right_iff, List.forall₂_same]
  exact fun t _ => h t

theorem stopsAt_congr {renderer : Renderer} {ns : List Notice} {e : RenderError}
    (h : ∀ t, templateParams r o' t = templateParams r o t) (hstops : r.StopsAt renderer o ns e) :
    r.StopsAt renderer o' ns e := by
  cases hstops with
  | template split rendered failed =>
    refine .template split (fun t ht => ?_) ?_
    · rw [h t]
      exact rendered t ht
    · rw [h]
      exact failed

theorem forall₂_agreeBut_of_isOption {renderer : Renderer} {p q : List Artifact}
    (hdiffers : DiffersIn i x y) (hx : x.resource = .ok r) (hy : y.resource = .ok r')
    (hoption : i.isOption = true) (hp : (plan r renderer x.options).result = .ok p)
    (hq : (plan r' renderer y.options).result = .ok q) : List.Forall₂ (AgreeBut i) p q := by
  obtain ⟨text, htext, rfl⟩ := result_plan_eq_ok_iff.1 hp
  obtain ⟨text', htext', rfl⟩ := result_plan_eq_ok_iff.1 hq
  apply forall₂_agreeBut_files
  intro t
  apply agreeBut_file (artifactPath_eq hdiffers hx hy)
  intro hfree
  rw [resource_eq hdiffers hoption, hx] at hy
  obtain rfl := Except.ok.inj hy
  have hone := htext' t
  rw [templateParams_eq hdiffers hoption hfree, htext t] at hone
  exact (Except.ok.inj hone).symm

/-- **Plans of the standard renderer agree** on all that an input has no say in; there are such
plans in any case. -/
theorem exists_plans_agreeBut (hdiffers : DiffersIn i x y) (hx : x.resource = .ok r)
    (hy : y.resource = .ok r') :
    ∃ p q, (plan r Renderer.standard x.options).result = .ok p ∧
      (plan r' Renderer.standard y.options).result = .ok q ∧ List.Forall₂ (AgreeBut i) p q := by
  have hp : (plan r Renderer.standard x.options).result = .ok (r.files x.options _) :=
    result_plan_eq_ok_iff.2 ⟨_, Renderer.standard_templateParams r x.options, rfl⟩
  have hq : (plan r' Renderer.standard y.options).result = .ok (r'.files y.options _) :=
    result_plan_eq_ok_iff.2 ⟨_, Renderer.standard_templateParams r' y.options, rfl⟩
  refine ⟨_, _, hp, hq, ?_⟩
  cases hoption : i.isOption with
  | true => exact forall₂_agreeBut_of_isOption hdiffers hx hy hoption hp hq
  | false =>
    apply forall₂_agreeBut_files
    intro t
    apply agreeBut_file (artifactPath_eq hdiffers hx hy)
    intro hfree
    rw [lines_eq hdiffers hx hy hoption hfree]

/-- **Plans that differ in one input agree on all that it has no say in.** With the standard
renderer there are plans whatever the input is; of an option it holds for every renderer, and
the time does not even change how a plan fails. -/
theorem plan_influence (hdiffers : DiffersIn i x y) (hx : x.resource = .ok r)
    (hy : y.resource = .ok r') :
    (∃ p q, (plan r Renderer.standard x.options).result = .ok p ∧
      (plan r' Renderer.standard y.options).result = .ok q ∧ List.Forall₂ (AgreeBut i) p q) ∧
    (i.isOption = true → ∀ (renderer : Renderer) (p q : List Artifact),
      (plan r renderer x.options).result = .ok p → (plan r' renderer y.options).result = .ok q →
        List.Forall₂ (AgreeBut i) p q) ∧
    (i = .timestamp → ∀ (renderer : Renderer) (ns : List Notice) (e : RenderError),
      plan r renderer x.options = ⟨ns, .error e⟩ ↔
        plan r' renderer y.options = ⟨ns, .error e⟩) := by
  refine ⟨exists_plans_agreeBut hdiffers hx hy, fun hoption renderer p q hp hq =>
    forall₂_agreeBut_of_isOption hdiffers hx hy hoption hp hq, ?_⟩
  rintro rfl renderer ns e
  rw [resource_eq hdiffers rfl, hx] at hy
  obtain rfl := Except.ok.inj hy
  have hparams (t : Template) : templateParams r y.options t = templateParams r x.options t :=
    templateParams_eq hdiffers rfl rfl
  rw [plan_eq_error_iff, plan_eq_error_iff]
  exact ⟨stopsAt_congr hparams, stopsAt_congr fun t => (hparams t).symm⟩

/-- Another list of fields, with a key of its own, moves no file and leaves three as they are; a
later time moves no file but the migration, also where the values are written out as they are. -/
theorem plan_influence_of_fields_and_time :
    let o : PlanOptions := ⟨true, true, ⟨2024, 1, 2, 3, 4, 5⟩⟩
    let later : PlanOptions := { o with timestamp := ⟨2024, 1, 2, 3, 4, 6⟩ }
    let x : Inputs := ⟨"cat", "cats", [⟨"name", .string, false, false, true⟩], false, o⟩
    let y : Inputs := { x with fields := [⟨"id", .uuid, true, false, false⟩] }
    let z : Inputs := { x with options := later }
    let r : Resource := ⟨"cat", "cats", x.fields, false, by decide, by decide⟩
    let r' : Resource := ⟨"cat", "cats", y.fields, false, by decide, by decide⟩
    (DiffersIn .fields x y ∧ x.resource = .ok r ∧ y.resource = .ok r' ∧
      ∃ p q, (plan r Renderer.standard o).result = .ok p ∧
        (plan r' Renderer.standard o).result = .ok q ∧ List.Forall₂ (AgreeBut .fields) p q) ∧
    DiffersIn .timestamp x z ∧ z.resource = .ok r ∧
      ∃ p q, (plan r Renderer.echo o).result = .ok p ∧ (plan r Renderer.echo later).result = .ok q ∧
        List.Forall₂ (AgreeBut .timestamp) p q := by
  intro o later x y z r r'
  have hfields : DiffersIn .fields x y := .fields x y.fields
  have htime : DiffersIn .timestamp x z := .timestamp x later.timestamp
  have hx : x.resource = .ok r := by decide +kernel
  have hy : y.resource = .ok r' := by decide +kernel
  have hecho (o : PlanOptions) : ∃ p, (plan r Renderer.echo o).result = .ok p :=
    ⟨_, result_plan_eq_ok_iff.2
      ⟨fun t => (Value.record (templateParams r o t)).compact, fun _ => rfl, rfl⟩⟩
  obtain ⟨p, hp⟩ := hecho o
  obtain ⟨q, hq⟩ := hecho later
  exact ⟨⟨hfields, hx, hy, (plan_influence hfields hx hy).1⟩, htime, hx, p, q, hp, hq,
    (plan_influence htime hx hx).2.1 rfl Renderer.echo p q hp hq⟩

end Plans

end Groundwork
