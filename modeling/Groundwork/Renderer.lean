import Groundwork.Resource
import Groundwork.Template

/-!
# Renderers

A template sees a resource as named values, and a renderer turns a template and named values into a
text, or fails. Planning works with any renderer; `Renderer.standard` renders the templates of this
library.

* `Resource.params`: the values of a resource; further ones may be set for one template.
* `Renderer.forms`: the forms of all templates, filed under their names.
* **`Renderer.standard`**: the standard renderer.
-/

namespace Groundwork

/-! ## Values -/

/-- **A field as a template sees it**: of the type there is no more than its text. -/
def Field.record (f : Field) : Value :=
  .record [
    ("name", .text f.name),
    ("type", .text f.type.text),
    ("isPrimaryKey", .boolean f.isKey),
    ("isIncrementing", .boolean f.isIncrementing),
    ("isNullable", .boolean f.isNullable)]

/-- **The values of a resource**, in their fixed order. -/
def Resource.params (r : Resource) : Params := [
  ("pascalName", .text r.pascalName),
  ("camelName", .text r.name),
  ("pluralName", .text r.plural),
  ("fields", .list (r.fields.map Field.record)),
  ("primaryKeyFields", .list (r.keyFields.map Field.record)),
  ("useGeneratedKey", .boolean r.usesGeneratedKey),
  ("hasAutoIncrementPrimaryKey", .boolean r.usesAutoIncrementKey),
  ("usesDefaultKey", .boolean r.usesConventionalKey),
  ("softDeletesEnabled", .boolean r.softDeletes)]

/-! ## Renderers -/

/-- **Why rendering fails.** -/
inductive RenderError where
  /-- The values do not fit the template. -/
  | unfit (template : Template)
  /-- The renderer gives a reason of its own. -/
  | other (reason : String)
  deriving DecidableEq, Repr

/-- What is said of a failure. -/
def RenderError.message : RenderError → String
  | .unfit t => "Failed to render " ++ t.title ++ " template"
  | .other reason => reason

/-- **A renderer.** -/
abbrev Renderer := Template → Params → Except RenderError String

namespace Renderer

/-- **The forms of all templates**, filed under their names. -/
def forms : Except RenderError (Keyed Markup.Form) :=
  Template.all.mapM fun t =>
    match Markup.form? t.page with
    | some p => .ok (t.fileName, p)
    | none => .error (.other ("Invalid " ++ t.title ++ " template"))

/-- **The standard renderer** runs the form of the template. -/
def standard : Renderer := fun t ps =>
  match forms with
  | .error e => .error e
  | .ok filed =>
    match filed.get? t.fileName with
    | none =>
      .error (.other ("template not found: template \"" ++ t.fileName ++ "\" does not exist"))
    | some p =>
      match p.text? ps with
      | some text => .ok text
      | none => .error (.unfit t)

/-- A renderer that writes the values themselves. -/
def echo : Renderer := fun _ ps => .ok (Value.record ps).compact

end Renderer

end Groundwork
