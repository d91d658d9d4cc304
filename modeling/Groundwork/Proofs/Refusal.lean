import Groundwork.Proofs.FirstFailure

/-!
# Refusals

A description can be refused for a token, for its name, for a repeated field or because a template
does not render. All of this is found out before anything is written.

* `Description.Flawed`: something is wrong with a description.
* `Description.FirstFlaw`: the failure that the first flaw gives rise to.
* **`Description.flawed_iff`**: where something is wrong, there is a first flaw.
* **`Description.result_preparePlan_eq_error_iff`**: planning fails exactly with the first flaw.
-/

namespace Groundwork

open Text (trim)

/-! ## Names -/

/-- **Nothing is left of a resource's name.** -/
def Nameless (name : String) : Prop := trim name = "" ∨ Identifier.camel name = ""

theorem firstRepeatAfter?_eq_some_iff {seen names : List String} {n : String} :
    firstRepeatAfter? seen names = some n ↔ ∃ before after, names = before ++ n :: after ∧
      before.Nodup ∧ (∀ m ∈ before, m ∉ seen) ∧ (n ∈ before ∨ n ∈ seen) := by
  induction names generalizing seen with
  | nil => simp [firstRepeatAfter?]
  | cons m rest ih =>
    rw [firstRepeatAfter?]
    by_cases hm : m ∈ seen
    · rw [if_pos hm]
      constructor
      · rintro ⟨⟩
        exact ⟨[], rest, rfl, .nil, by simp, .inr hm⟩
      · rintro ⟨_ | ⟨a, before⟩, after, hl, -, hseen, -⟩
        · obtain ⟨rfl, rfl⟩ := List.cons.inj hl
          rfl
        · obtain ⟨rfl, rfl⟩ := List.cons.inj hl
          exact absurd hm (hseen m List.mem_cons_self)
    · rw [if_neg hm, ih]
      constructor
      · rintro ⟨before, after, rfl, hnodup, hseen, hn⟩
        have hmb : m ∉ before := fun h => hseen m h List.mem_cons_self
        refine ⟨m :: before, after, rfl, List.nodup_cons.2 ⟨hmb, hnodup⟩, ?_, ?_⟩
        · rintro k (_ | ⟨_, hk⟩)
          · exact hm
          · exact fun h => hseen k hk (List.mem_cons_of_mem _ h)
        · rcases hn with hn | hn
          · exact .inl (List.mem_cons_of_mem _ hn)
          · rcases List.mem_cons.1 hn with rfl | hn
            · exact .inl List.mem_cons_self
            · exact .inr hn
      · rintro ⟨_ | ⟨a, before⟩, after, hl, hnodup, hseen, hn⟩
        · obtain ⟨rfl, rfl⟩ := List.cons.inj hl
          exact absurd (by simpa using hn) hm
        · obtain ⟨rfl, rfl⟩ := List.cons.inj hl
          obtain ⟨hmb, hnodup⟩ := List.nodup_cons.1 hnodup
          refine ⟨before, after, rfl, hnodup, fun k hk h => ?_, ?_⟩
          · rcases List.mem_cons.1 h with rfl | h
            · exact hmb hk
            · exact hseen k (List.mem_cons_of_mem _ hk) h
          · rcases hn with hn | hn
            · rcases List.mem_cons.1 hn with rfl | hn
              · exact .inr List.mem_cons_self
              · exact .inl hn
            · exact .inr (List.mem_cons_of_mem _ hn)

theorem firstRepeat?_eq_some_iff {names : List String} {n : String} :
    firstRepeat? names = some n ↔
      ∃ before after, names = before ++ n :: after ∧ before.Nodup ∧ n ∈ before := by
  simp [firstRepeat?, firstRepeatAfter?_eq_some_iff]

theorem Resource.build_eq_error_iff {name plural : String} {fields : List Field}
    {softDeletes : Bool} {r : Rejection} :
    build name plural fields softDeletes = .error r ↔ (Nameless name ∧ r = .emptyName) ∨
      (¬ Nameless name ∧ ∃ n, firstRepeat? (fields.map (·.name)) = some n ∧
        r = .duplicateField n) := by
  unfold build Nameless
  split
  · rename_i h
    simp [h, eq_comm (a := r)]
  · rename_i h
    split
    · rename_i hn
      simp [h, hn, eq_comm (a := r)]
    · rename_i hn
      split <;> rename_i hf <;> simp [h, hn, hf, eq_comm (a := r)]

theorem Resource.build_eq_ok_iff {name plural : String} {fields : List Field}
    {softDeletes : Bool} {r : Resource} :
    build name plural fields softDeletes = .ok r ↔ ¬ Nameless name ∧
      r.name = Identifier.camel name ∧ r.plural = plural ∧ r.fields = fields ∧
        r.softDeletes = softDeletes := by
  obtain ⟨rname, rplural, rfields, rsoft, hnamed, hdistinct⟩ := r
  unfold build Nameless
  split
  · rename_i h
    simp [h]
  · rename_i h
    split
    · rename_i hn
      simp [h, hn]
    · rename_i hn
      split <;> rename_i hf
      · simp only [reduceCtorEq, false_iff]
        rintro ⟨-, -, -, rfl, -⟩
        rw [firstRepeat?_eq_none_iff.2 hdistinct] at hf
        cases hf
      · simp [h, hn, eq_comm]

theorem Resource.eq_of_parts {r r' : Resource} (hname : r'.name = r.name)
    (hplural : r'.plural = r.plural) (hfields : r'.fields = r.fields)
    (hsoft : r'.softDeletes = r.softDeletes) : r' = r := by
  cases r
  cases r'
  subst hname hplural hfields hsoft
  rfl

/-! ## Tokens -/

namespace Field

variable {tokens : List String}

theorem exists_result_parseAll_iff :
    (∃ fields, (parseAll tokens).result = .ok fields) ↔ ∀ t ∈ tokens, fault? t = none := by
  simp only [parseAll, Noted.exists_result_each_iff, fault?_eq_none_iff]

theorem result_parseAll_eq_error_iff {r : Rejection} :
    (parseAll tokens).result = .error r ↔ ∃ before token after fault,
      tokens = before ++ token :: after ∧ (∀ t ∈ before, fault? t = none) ∧
        fault? token = some fault ∧ r = .malformedField token fault := by
  simp only [parseAll, Noted.result_each_eq_error_iff, fault?_eq_none_iff,
    result_parse_eq_error_iff]
  constructor
  · rintro ⟨before, token, after, hsplit, hsound, fault, hfault, hr⟩
    exact ⟨before, token, after, fault, hsplit, hsound, hfault, hr⟩
  · rintro ⟨before, token, after, fault, hsplit, hsound, hfault, hr⟩
    exact ⟨before, token, after, hsplit, hsound, fault, hfault, hr⟩

end Field

/-! ## Flaws -/

namespace Description

variable (d : Description) (renderer : Renderer) (o : PlanOptions)

/-- **Something is wrong** with a description, or with a template that it is to fill. -/
inductive Flawed : Prop
  | token {token : String} {fault : Malformation} (mem : token ∈ d.fields)
      (found : Field.fault? token = some fault)
  | name (nameless : Nameless d.name)
  | field {fields : List Field} (read : (Field.parseAll d.fields).result = .ok fields)
      (repeated : ¬ (fields.map (·.name)).Nodup)
  | template {r : Resource} {t : Template} {e : RenderError} (built : d.resource.result = .ok r)
      (failed : renderer t (templateParams r o t) = .error e)

/-- **Why a description is refused.** The tokens come first, in order; then the name, then the
fields. -/
inductive Refused : Rejection → Prop
  | token {before after : List String} {token : String} {fault : Malformation}
      (split : d.fields = before ++ token :: after)
      (sound : ∀ t ∈ before, Field.fault? t = none) (found : Field.fault? token = some fault) :
      Refused (.malformedField token fault)
  | name (sound : ∀ t ∈ d.fields, Field.fault? t = none) (nameless : Nameless d.name) :
      Refused .emptyName
  | field {fields : List Field} {before after : List String} {n : String}
      (read : (Field.parseAll d.fields).result = .ok fields) (named : ¬ Nameless d.name)
      (split : fields.map (·.name) = before ++ n :: after) (distinct : before.Nodup)
      (again : n ∈ before) : Refused (.duplicateField n)

/-- **The failure of the first flaw**: the description is refused, or the templates are rendered
in generation order up to the first that fails. -/
inductive FirstFlaw : Failure → Prop
  | refused {r : Rejection} (refused : d.Refused r) : FirstFlaw (.rejected r)
  | template {r : Resource} {before after : List Template} {t : Template} {e : RenderError}
      (built : d.resource.result = .ok r) (split : Template.all = before ++ t :: after)
      (rendered : ∀ u ∈ before, ∃ text, renderer u (templateParams r o u) = .ok text)
      (failed : renderer t (templateParams r o t) = .error e) : FirstFlaw (.unrendered e)

variable {d renderer o}

theorem result_resource_eq_ok_iff {r : Resource} :
    d.resource.result = .ok r ↔ ∃ fields, (Field.parseAll d.fields).result = .ok fields ∧
      Resource.build d.name d.plural fields d.softDeletes = .ok r := by
  unfold resource Resource.ofDefinitions
  simp only [Noted.result_andThen_eq_ok_iff]

theorem result_resource_eq_error_iff {r : Rejection} :
    d.resource.result = .error r ↔ d.Refused r := by
  unfold resource Resource.ofDefinitions
  simp only [Noted.result_andThen_eq_error_iff]
  constructor
  · rintro (h | ⟨fields, hread, hbuild⟩)
    · obtain ⟨before, token, after, fault, hsplit, hsound, hfault, rfl⟩ :=
        Field.result_parseAll_eq_error_iff.1 h
      exact .token hsplit hsound hfault
    · rcases Resource.build_eq_error_iff.1 hbuild with ⟨hname, rfl⟩ | ⟨hname, n, hn, rfl⟩
      · exact .name (Field.exists_result_parseAll_iff.1 ⟨fields, hread⟩) hname
      · obtain ⟨before, after, hsplit, hdistinct, hagain⟩ := firstRepeat?_eq_some_iff.1 hn
        exact .field hread hname hsplit hdistinct hagain
  · intro h
    cases h with
    | token hsplit hsound hfault =>
      exact .inl (Field.result_parseAll_eq_error_iff.2 ⟨_, _, _, _, hsplit, hsound, hfault, rfl⟩)
    | name hsound hname =>
      obtain ⟨fields, hread⟩ := Field.exists_result_parseAll_iff.2 hsound
      exact .inr ⟨fields, hread, Resource.build_eq_error_iff.2 (.inl ⟨hname, rfl⟩)⟩
    | field hread hname hsplit hdistinct hagain =>
      have hn := firstRepeat?_eq_some_iff.2 ⟨_, _, hsplit, hdistinct, hagain⟩
      exact .inr ⟨_, hread, Resource.build_eq_error_iff.2 (.inr ⟨hname, _, hn, rfl⟩)⟩

theorem result_planFile_eq_error_iff {r : Resource} {t : Template} {e : RenderError} :
    (planFile r renderer o t).result = .error e ↔
      renderer t (templateParams r o t) = .error e := by
  unfold planFile
  split <;> rename_i h <;> simp [h, Noted.failure]

theorem exists_result_planFile_iff {r : Resource} {t : Template} :
    (∃ a, (planFile r renderer o t).result = .ok a) ↔
      ∃ text, renderer t (templateParams r o t) = .ok text := by
  unfold planFile
  split <;> rename_i h <;> simp [h, Noted.failure]

theorem result_plan_eq_error_iff {r : Resource} {e : RenderError} :
    (plan r renderer o).result = .error e ↔ ∃ before t after, Template.all = before ++ t :: after ∧
      (∀ u ∈ before, ∃ text, renderer u (templateParams r o u) = .ok text) ∧
        renderer t (templateParams r o t) = .error e := by
  simp only [plan, Noted.result_each_eq_error_iff, result_planFile_eq_error_iff,
    exists_result_planFile_iff]

/-- **Planning fails exactly with the first flaw.** -/
theorem result_preparePlan_eq_error_iff {e : Failure} :
    (preparePlan d renderer o).result = .error e ↔ d.FirstFlaw renderer o e := by
  simp only [preparePlan, Noted.result_andThen_eq_error_iff, Noted.result_mapFailure_eq_error_iff,
    Noted.result_mapFailure_eq_ok_iff, result_plan_eq_error_iff, result_resource_eq_error_iff]
  constructor
  · rintro (⟨r, hr, rfl⟩ | ⟨r, hr, x, ⟨before, t, after, hsplit, hrendered, hx⟩, rfl⟩)
    · exact .refused hr
    · exact .template hr hsplit hrendered hx
  · rintro (hr | ⟨hr, hsplit, hrendered, hx⟩)
    · exact .inl ⟨_, hr, rfl⟩
    · exact .inr ⟨_, hr, _, ⟨_, _, _, hsplit, hrendered, hx⟩, rfl⟩

/-- **Where something is wrong, there is a first flaw**, and the other way round. -/
theorem flawed_iff : d.Flawed renderer o ↔ ∃ e, d.FirstFlaw renderer o e := by
  constructor
  · intro h
    cases hp : (preparePlan d renderer o).result with
    | error e => exact ⟨e, result_preparePlan_eq_error_iff.1 hp⟩
    | ok files =>
      obtain ⟨r, hr, hplan⟩ := Noted.result_andThen_eq_ok_iff.1 hp
      rw [Noted.result_mapFailure_eq_ok_iff] at hr hplan
      obtain ⟨fields, hread, hbuild⟩ := result_resource_eq_ok_iff.1 hr
      obtain ⟨hnamed, -, -, hfields, -⟩ := Resource.build_eq_ok_iff.1 hbuild
      cases h with
      | token hmem hfault =>
        have := Field.exists_result_parseAll_iff.1 ⟨fields, hread⟩ _ hmem
        rw [hfault] at this
        cases this
      | name hname => exact absurd hname hnamed
      | field hread' hrepeated =>
        obtain rfl := Except.ok.inj (hread.symm.trans hread')
        exact absurd (hfields ▸ r.distinct) hrepeated
      | @template _ t _ hr' hfailed =>
        obtain rfl := Except.ok.inj (hr.symm.trans hr')
        have hall := Noted.exists_result_each_iff.1 ⟨files, hplan⟩ t t.mem_all
        obtain ⟨text, htext⟩ := exists_result_planFile_iff.1 hall
        rw [hfailed] at htext
        cases htext
  · rintro ⟨e, hr | ⟨hr, -, -, hx⟩⟩
    · cases hr with
      | token hsplit _ hfault => exact .token (by simp [hsplit]) hfault
      | name _ hname => exact .name hname
      | field hread _ hsplit _ hagain =>
        refine .field hread fun hnodup => ?_
        rw [hsplit] at hnodup
        exact (List.nodup_append.1 hnodup).2.2 _ hagain _ List.mem_cons_self rfl
    · exact .template hr hx

end Description

end Groundwork
