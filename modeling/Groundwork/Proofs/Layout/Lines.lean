import Groundwork.Plan
import Groundwork.Proofs.Identifier.Casing
import Groundwork.Proofs.Markup.Fitting
import Groundwork.Proofs.Text.Bytes

/-!
# The lines of a rendered template

The values of a resource fit all templates, so each template is rendered. Its text is made up of
lines, which are known one by one; they can be told from the text as long as nothing that is filled
in brings a line feed of its own.

* `Template.context`: what is known of the values for a template.
* **`Resource.exists_linesOf?`**: the values of a resource fit every template.
* `Resource.lines`, **`Renderer.standard_templateParams`**: the lines of a rendered template, and
  that its text is made up of them.
* `Resource.OneLine`, **`Resource.textLines_standard`**: nothing that a resource fills in has a line
  feed, and then the lines are read back from the text.
-/

namespace Groundwork

/-! ## Texts of one line -/

namespace Text

variable {a b s : String}

/-- **The lines of a text**: what the line feeds set apart. -/
def textLines (text : String) : List String := (text.toList.splitOn '\n').map String.ofList

/-- **The text is one line.** -/
def OneLine (s : String) : Prop := '\n' ∉ s.toList

instance (s : String) : Decidable (OneLine s) := inferInstanceAs (Decidable (¬ _ ∈ _))

theorem oneLine_append : OneLine (a ++ b) ↔ OneLine a ∧ OneLine b := by
  unfold OneLine
  rw [String.toList_append, List.mem_append, not_or]

theorem oneLine_iff_forall_mem : OneLine s ↔ ∀ c ∈ s.toList, c ≠ '\n' := List.forall_mem_ne'.symm

/-- No byte of the text is that of a line feed. -/
def lacksLineFeed (s : String) : Bool := !(encode s).contains 10

theorem oneLine_of_lacksLineFeed (h : lacksLineFeed s = true) : OneLine s := by
  have hbyte : (10 : UInt8) ∈ String.utf8EncodeChar '\n' := by decide
  unfold lacksLineFeed at h
  rw [Bool.not_eq_true', Bool.eq_false_iff, Ne, List.contains_iff_mem, encode_eq_flatMap,
    List.mem_flatMap] at h
  exact fun hs => h ⟨'\n', hs, hbyte⟩

theorem textLines_intercalate {ls : List String} (hne : ls ≠ []) (h : ∀ l ∈ ls, OneLine l) :
    textLines ("\n".intercalate ls) = ls := by
  have hfeed : "\n".toList = ['\n'] := rfl
  have hsplit : (['\n'].intercalate (ls.map String.toList)).splitOn '\n' = ls.map String.toList :=
    List.splitOn_intercalate '\n' (List.forall_mem_map.2 h) (by simpa using hne)
  unfold textLines
  rw [String.toList_intercalate, hfeed, hsplit, List.map_map]
  exact (List.map_congr_left fun s _ => String.ofList_toList).trans (List.map_id ls)

end Text

namespace Identifier

open Text

variable {s : String}

theorem oneLine_camel (h : OneLine s) : OneLine (camel s) := by
  rw [oneLine_iff_forall_mem] at h ⊢
  rw [camel, String.toList_ofList]
  exact forall_mem_camelChars keptByCase_ne_lineFeed h

theorem oneLine_upperFirst (h : OneLine s) : OneLine (upperFirst s) := by
  rw [oneLine_iff_forall_mem] at h ⊢
  rw [upperFirst, String.toList_ofList]
  exact forall_mem_upperFirstChars keptByCase_ne_lineFeed h

theorem oneLine_snake (h : OneLine s) : OneLine (snake s) := by
  rw [oneLine_iff_forall_mem] at h ⊢
  rw [snake, String.toList_ofList]
  exact forall_mem_snakeChars keptByCase_ne_lineFeed (by decide) h

end Identifier

theorem keptByFilters_oneLine : Markup.KeptByFilters Text.OneLine := fun _ h =>
  ⟨Identifier.oneLine_camel h, Identifier.oneLine_upperFirst (Identifier.oneLine_camel h),
    Identifier.oneLine_snake h⟩

/-! ## What is known of the values -/

theorem Keyed.exists_get?_of_forall₂ {α β : Type} {R : α → β → Prop} {es : Keyed α} {fs : Keyed β}
    (h : List.Forall₂ (fun e f => e.1 = f.1 ∧ R e.2 f.2) es fs) {x : String} {a : α}
    (ha : es.get? x = some a) : ∃ b, fs.get? x = some b ∧ R a b := by
  induction h with
  | nil => cases ha
  | @cons e f _ _ hef _ ih =>
    obtain ⟨k, a'⟩ := e
    obtain ⟨k', b⟩ := f
    obtain ⟨rfl, hR⟩ := hef
    rw [get?] at ha ⊢
    split_ifs at ha ⊢
    · exact ⟨b, rfl, Option.some.inj ha ▸ hR⟩
    · exact ih ha

/-- What is known of the record of a field. -/
def Field.shape : Markup.Shape :=
  ⟨["name", "type"], ["isPrimaryKey", "isIncrementing", "isNullable"]⟩

/-- **What is known of the values** for a template. Two conditions are meant for the controller
alone. -/
def Template.context (t : Template) : Markup.Context where
  kinds := [
    ("pascalName", .text),
    ("camelName", .text),
    ("pluralName", .text),
    ("fields", .list Field.shape),
    ("primaryKeyFields", .list Field.shape),
    ("useGeneratedKey", .condition),
    ("hasAutoIncrementPrimaryKey", .condition),
    ("usesDefaultKey", .condition),
    ("softDeletesEnabled", .condition)]
    ++ if t = .controller then [("inlineValidate", .condition), ("inlineSnakeCase", .condition)]
      else []
  filled := []

variable {P : String → Prop} {r : Resource} {o : PlanOptions} {t : Template}

theorem Field.fits_record {f : Field} (hname : P f.name) (htype : P f.type.text) :
    Field.shape.Fits P f.record where
  text := List.forall_mem_cons.2 ⟨⟨_, rfl, hname⟩, List.forall_mem_singleton.2 ⟨_, rfl, htype⟩⟩
  condition := List.forall_mem_cons.2 ⟨⟨_, rfl⟩,
    List.forall_mem_cons.2 ⟨⟨_, rfl⟩, List.forall_mem_singleton.2 ⟨_, rfl⟩⟩⟩

theorem templateParams_controller (r : Resource) (o : PlanOptions) :
    templateParams r o .controller = r.params ++
      [("inlineValidate", .boolean o.inlineValidate),
        ("inlineSnakeCase", .boolean o.inlineSnakeCase)] := by
  simp [templateParams, Resource.params, Keyed.set]

theorem templateParams_of_ne (h : t ≠ .controller) (r : Resource) (o : PlanOptions) :
    templateParams r o t = r.params := if_neg h

/-- **The texts of a resource** are as they should be. -/
structure Resource.Texts (P : String → Prop) (r : Resource) : Prop where
  pascalName : P r.pascalName
  name : P r.name
  plural : P r.plural
  fields : ∀ f ∈ r.fields, P f.name ∧ P f.type.text

theorem Resource.Texts.fits (h : r.Texts P) (o : PlanOptions) (t : Template) :
    t.context.Fits P (templateParams r o t) := by
  have hrecords : ∀ v ∈ r.fields.map Field.record, Field.shape.Fits P v :=
    List.forall_mem_map.2 fun f hf => Field.fits_record (h.fields f hf).1 (h.fields f hf).2
  have hkeys : ∀ v ∈ r.keyFields.map Field.record, Field.shape.Fits P v :=
    List.forall_mem_map.2 fun f hf => Field.fits_record (h.fields f (List.mem_of_mem_filter hf)).1
      (h.fields f (List.mem_of_mem_filter hf)).2
  have hall : List.Forall₂ (fun (e : String × Markup.Kind) (f : String × Value) =>
      e.1 = f.1 ∧ e.2.Fits P f.2) t.context.kinds (templateParams r o t) := by
    unfold Template.context
    split_ifs with ht
    · subst ht
      rw [templateParams_controller]
      simp only [Resource.params, List.cons_append, List.nil_append, List.forall₂_cons,
        List.forall₂_nil_left_iff, true_and, and_true]
      exact ⟨.text h.pascalName, .text h.name, .text h.plural, .list hrecords, .list hkeys,
        .condition _, .condition _, .condition _, .condition _, .condition _, .condition _⟩
    · rw [templateParams_of_ne ht, List.append_nil]
      simp only [Resource.params, List.forall₂_cons, List.forall₂_nil_left_iff, true_and, and_true]
      exact ⟨.text h.pascalName, .text h.name, .text h.plural, .list hrecords, .list hkeys,
        .condition _, .condition _, .condition _, .condition _⟩
  exact ⟨fun x k hk => Keyed.exists_get?_of_forall₂ hall hk, List.forall_mem_nil _⟩

/-! ## Lines -/

open Markup (Line Sheet fitsLines linesOf? form? text?_eq_intercalate)

theorem Template.fitsLines_page (t : Template) :
    fitsLines Text.lacksLineFeed t.context t.page = true := by
  cases t <;> decide +kernel

/-- **The values of a resource fit every template**, and what is filled in and has one line makes
lines of one line. -/
theorem Resource.Texts.gives (h : r.Texts P) (hP : Markup.KeptByFilters P)
    (hline : ∀ s, Text.OneLine s → P s) (happend : ∀ a b, P a → P b → P (a ++ b))
    (o : PlanOptions) (t : Template) : Markup.Gives P (linesOf? t.page (templateParams r o t)) :=
  Markup.linesOf?_of_fits hP (fun s hs => hline s (Text.oneLine_of_lacksLineFeed hs))
    (hline "" (by decide)) happend t.fitsLines_page (h.fits o t)

theorem Resource.exists_linesOf? (r : Resource) (o : PlanOptions) (t : Template) :
    ∃ ls, linesOf? t.page (templateParams r o t) = some ls := by
  have htexts : r.Texts fun _ => True :=
    ⟨trivial, trivial, trivial, fun _ _ => ⟨trivial, trivial⟩⟩
  obtain ⟨ls, hls, -⟩ := htexts.gives (fun _ _ => ⟨trivial, trivial, trivial⟩) (fun _ _ => trivial)
    (fun _ _ _ _ => trivial) o t
  exact ⟨ls, hls⟩

/-- **The lines of a rendered template.** -/
def Resource.lines (r : Resource) (o : PlanOptions) (t : Template) : List String :=
  (linesOf? t.page (templateParams r o t)).get (Option.isSome_iff_exists.2 (r.exists_linesOf? o t))

theorem Resource.linesOf?_eq (r : Resource) (o : PlanOptions) (t : Template) :
    linesOf? t.page (templateParams r o t) = some (r.lines o t) := (Option.some_get _).symm

/-! ## Texts -/

theorem Template.isPage_page (t : Template) : Markup.isPage t.page = true := by
  cases t <;> decide +kernel

namespace Renderer

theorem fileName_injective : Function.Injective Template.fileName := by
  intro t t'
  cases t <;> cases t' <;> decide

theorem get?_map_fileName {ts : List Template} (f : Template → Markup.Form) (h : t ∈ ts) :
    Keyed.get? (ts.map fun t => (t.fileName, f t)) t.fileName = some (f t) := by
  induction ts with
  | nil => cases h
  | cons t' rest ih =>
    rw [List.map_cons, Keyed.get?]
    split_ifs with hname
    · rw [fileName_injective hname]
    · exact ih ((List.mem_cons.1 h).resolve_left fun ht => hname (congrArg _ ht))

theorem forms_eq {f : Template → Markup.Form}
    (h : ∀ t, form? (Template.page t) = some (f t)) :
    forms = .ok (Template.all.map fun t => (t.fileName, f t)) := by
  unfold forms
  simp only [h]
  exact List.mapM_pure

/-- **The standard renderer** joins the lines of the template, and fails just when the values do not
fit. -/
theorem standard_eq (t : Template) (ps : Params) :
    standard t ps = match linesOf? t.page ps with
      | some ls => .ok ("\n".intercalate ls)
      | none => .error (.unfit t) := by
  choose f hf using fun t : Template => Markup.exists_form? t.isPage_page
  have htext := text?_eq_intercalate t.isPage_page ps
  rw [hf t, Option.bind_some] at htext
  unfold standard
  simp only [forms_eq hf, get?_map_fileName f t.mem_all, htext]
  cases linesOf? t.page ps <;> rfl

/-- **The text of a template is made up of its lines.** -/
theorem standard_templateParams (r : Resource) (o : PlanOptions) (t : Template) :
    standard t (templateParams r o t) = .ok ("\n".intercalate (r.lines o t)) := by
  rw [standard_eq, r.linesOf?_eq]

end Renderer

/-! ## Resources of one line -/

namespace Resource

/-- **Nothing that a resource fills in has a line feed.** -/
structure OneLine (r : Resource) : Prop where
  name : Text.OneLine r.name
  plural : Text.OneLine r.plural
  fields : ∀ f ∈ r.fields, Text.OneLine f.name ∧ Text.OneLine f.type.text

theorem OneLine.texts (h : r.OneLine) : r.Texts Text.OneLine :=
  ⟨Identifier.oneLine_upperFirst h.name, h.name, h.plural, h.fields⟩

theorem OneLine.of_mem_lines (h : r.OneLine) (o : PlanOptions) (t : Template) :
    ∀ l ∈ r.lines o t, Text.OneLine l := by
  obtain ⟨ls, hls, hone⟩ := h.texts.gives keptByFilters_oneLine (fun _ => id)
    (fun _ _ ha hb => Text.oneLine_append.2 ⟨ha, hb⟩) o t
  rw [r.linesOf?_eq, Option.some.injEq] at hls
  exact hls ▸ hone

/-- **The lines of a rendered text** are read back from it. -/
theorem textLines_standard (h : r.OneLine) (o : PlanOptions) (t : Template) :
    ∃ text, Renderer.standard t (templateParams r o t) = .ok text ∧
      Text.textLines text = r.lines o t := by
  have hne : r.lines o t ≠ [] := by
    intro hnil
    have hlines := r.linesOf?_eq o t
    rw [hnil] at hlines
    exact Markup.linesOf?_ne_nil t.isPage_page _ hlines
  exact ⟨_, Renderer.standard_templateParams r o t,
    Text.textLines_intercalate hne (h.of_mem_lines o t)⟩

end Resource

end Groundwork
