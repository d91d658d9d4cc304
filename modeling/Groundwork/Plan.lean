import Groundwork.Path
import Groundwork.Renderer

/-!
# The plan of a resource

A plan lists the eight files of a resource with their paths and contents. It is made in full
before anything is written, so a failure leaves no trace.

* `Timestamp.stamp`: the written form of a time, `2017_09_16_100350`, with which the name of a
  migration begins.
* `artifactPath`: where a template's file goes, relative to the project.
* `plan`: the files of a resource, in generation order.
* `Template.wrap`: what is added around a rendered text.
-/

namespace Groundwork

/-! ## Time stamps -/

/-- **A local date and time.** -/
structure Timestamp where
  year : Int
  month : Nat
  day : Nat
  hour : Nat
  minute : Nat
  second : Nat
  deriving DecidableEq, Repr

/-- A number with zeros in front up to a width. -/
def paddedNumber (width n : Nat) : String :=
  String.ofList (List.replicate (width - (Nat.toDigits 10 n).length) '0' ++ Nat.toDigits 10 n)

/-- **The written form**: a year of four digits, with a minus sign before the year zero, and two
digits for all else. -/
def Timestamp.stamp (t : Timestamp) : String :=
  (if t.year < 0 then "-" else "") ++ paddedNumber 4 t.year.natAbs
    ++ "_" ++ paddedNumber 2 t.month
    ++ "_" ++ paddedNumber 2 t.day
    ++ "_" ++ paddedNumber 2 t.hour ++ paddedNumber 2 t.minute ++ paddedNumber 2 t.second

/-! ## Files -/

/-- **How a file is written.** -/
inductive WriteMode where
  /-- Created anew; a file that exists is replaced only after a question. -/
  | create
  /-- Added to the end of the file. -/
  | append
  deriving DecidableEq, Repr

/-- **A file of the plan.** -/
structure Artifact where
  template : Template
  /-- Relative to the project. -/
  path : Path
  contents : String
  mode : WriteMode
  deriving DecidableEq, Repr

/-- What a plan depends on besides the resource and the renderer. -/
structure PlanOptions where
  inlineValidate : Bool
  inlineSnakeCase : Bool
  timestamp : Timestamp
  deriving DecidableEq, Repr

/-- The segments of the path of a template's file. -/
def artifactSegments (t : Template) (r : Resource) (time : Timestamp) : List String :=
  match t with
  | .migration => ["database", "migrations", time.stamp ++ "_create_" ++ r.plural ++ ".php"]
  | .factory => ["database", "factories", r.pascalName ++ "Factory.php"]
  | .test => ["tests", r.pascalName ++ "Test.php"]
  | .model => ["app", r.pascalName ++ ".php"]
  | .resource => ["app", "Resources", r.pascalName ++ ".php"]
  | .collection => ["app", "Resources", r.pascalName ++ "Collection.php"]
  | .controller => ["app", "Http", "Controllers", r.pascalName ++ "Controller.php"]
  | .routes => ["routes", "web.php"]

/-- **Where the file of a template goes.** -/
def artifactPath (t : Template) (r : Resource) (time : Timestamp) : Path :=
  .ofSegments (artifactSegments t r time)

/-- The routes are added to a file of the project; all else is a file of its own. -/
def Template.mode : Template → WriteMode
  | .routes => .append
  | _ => .create

/-- **The contents of a file**: a new one opens with the language tag. -/
def Template.wrap (t : Template) (text : String) : String :=
  match t.mode with
  | .append => "\n" ++ text ++ "\n"
  | .create => "<?php\n\n" ++ text ++ "\n"

/-- The values for a template: two conditions are meant for the controller alone. -/
def templateParams (r : Resource) (o : PlanOptions) (t : Template) : Params :=
  if t = .controller then
    (r.params.set "inlineValidate" (.boolean o.inlineValidate)).set "inlineSnakeCase"
      (.boolean o.inlineSnakeCase)
  else r.params

/-- **The file of a template**, and the notice that it was rendered. -/
def planFile (r : Resource) (renderer : Renderer) (o : PlanOptions) (t : Template) :
    Noted RenderError Artifact :=
  match renderer t (templateParams r o t) with
  | .error e => .failure e
  | .ok text =>
    ⟨[.rendered t text.utf8ByteSize],
      .ok ⟨t, artifactPath t r o.timestamp, t.wrap text, t.mode⟩⟩

/-- **The plan of a resource**: its files in generation order, or the first failure. -/
def plan (r : Resource) (renderer : Renderer) (o : PlanOptions) :
    Noted RenderError (List Artifact) :=
  Noted.each (planFile r renderer o) Template.all

end Groundwork
