import Groundwork.CommandLine
import Groundwork.Delivery
import Groundwork.Resource
import Groundwork.Settings
import Groundwork.World

/-!
# The two commands

One command shows a resource without generating anything: its names, its key strategy and its
fields. The other generates its files. The resource is read and its plan made before anything is
written; then the plan is delivered, and at last a command refreshes the autoloader of the project.
That one starts in the project's directory, and whatever becomes of it, the files stay.

* `World.outline`: the command that shows a resource.
* `World.refreshAutoload`: the refresh command of the settings.
* `preparePlan`: the plan of a command line, with the notices on the way to it.
* `World.scaffold`: planning and delivery.
* `World.generate`: the whole command.
-/

namespace Groundwork

/-! ## The outline -/

/-- The resource that a description asks for. -/
def Description.resource (d : Description) : Noted Rejection Resource :=
  Resource.ofDefinitions d.name d.plural d.fields d.softDeletes

/-- The marks of a field in words. -/
def Field.markWords (f : Field) : List String :=
  (if f.isKey then ["primary"] else [])
    ++ (if f.isIncrementing then ["increments"] else [])
    ++ (if f.isNullable then ["nullable"] else [])

/-- The line of a field. A type that is not known is marked as such. -/
def Field.outlineLine (f : Field) : String :=
  "  " ++ f.name ++ ": " ++ f.type.text ++ (if f.type.isKnown then "" else " (opaque)") ++ " "
    ++ " ".intercalate f.markWords

/-- **The lines that show a resource.** -/
def Resource.outline (r : Resource) : List String :=
  [ "Resource: " ++ r.pascalName ++ " (" ++ r.name ++ ")",
    "Plural: " ++ r.plural,
    "Primary key: [" ++ ", ".intercalate (r.keyFields.map (·.name)) ++ "] "
      ++ r.keyStrategy.description,
    "Soft deletes: " ++ (if r.softDeletes then "true" else "false") ]
  ++ r.fields.map Field.outlineLine

namespace World

/-- **The command that shows a resource.** -/
def outline (d : Description) (w : World) : Except Failure Unit × World :=
  let w := w.notice d.resource.notices
  match d.resource.result with
  | .error r => (.error (.rejected r), w)
  | .ok r => (.ok (), r.outline.foldl (fun w line => w.record (.shown line)) w)

end World

/-! ## The autoload refresh -/

/-- The text holds the null character, which ends a text for the system. -/
def hasNull (s : String) : Bool := s.toList.contains '\x00'

/-- **The program of a name.** A bare name is looked up on the search path; a name with a slash is
a path, and no file of the disk is a program. -/
def Host.resolve (h : Host) (name : String) (d : Disk) : Except Errno Program :=
  if name.toList.contains '/' then
    match d.find ⟨name⟩ with
    | .error e => .error e
    | .ok _ => .error .permissionDenied
  else if isTooLong name then .error .nameTooLong
  else
    match h.programs name with
    | none => .error .notFound
    | some program => .ok program

namespace World

/-- **Starting a program** in a directory; `words` is the whole command. -/
def start (h : Host) (name : String) (arguments words : List String) (base : Path) (w : World) :
    Except Failure Unit × World :=
  if (name :: base.text :: arguments).any hasNull then (.error (.system [] .nullInCommand), w)
  else
    match w.disk.enter base with
    | .error e => (.error (.system [] (.system e)), w)
    | .ok entered =>
      match h.resolve name entered with
      | .error e => (.error (.system [] (.system e)), w)
      | .ok program =>
        let (succeeded, d) := program arguments entered
        let after := (w.record (.started name arguments entered.current)).withDisk
          { d with current := w.disk.current }
        (if succeeded then .ok () else .error (.commandFailed words), after)

/-- **The refresh command of the settings**, started in the project's directory. -/
def refreshAutoload (h : Host) (s : Settings) (base : Path) (w : World) :
    Except Failure Unit × World :=
  match s.program with
  | .error r => (.error (.rejected r), w)
  | .ok (name, arguments) =>
    start h name arguments s.autoloadCommand base
      ((w.record (.shown "Dumping autoload")).notice [.refreshing name arguments base.text])

/-- The refresh with its failure, if any, turned into a warning. -/
def tryRefresh (h : Host) (s : Settings) (base : Path) (w : World) : World :=
  match refreshAutoload h s base w with
  | (.ok (), w) => w
  | (.error e, w) =>
    (w.notice [.refreshFailed e.headline]).record
      (.shown ("WARNING Could not refresh autoload: " ++ e.message))

end World

/-! ## Generating -/

/-- The options that settings and a time stamp give to a plan. -/
def Settings.planOptions (s : Settings) (time : Timestamp) : PlanOptions :=
  ⟨s.inlineValidation, s.inlineSnakeCase, time⟩

/-- **The plan of a described resource.** Its failures come before those of rendering. -/
def preparePlan (d : Description) (renderer : Renderer) (o : PlanOptions) :
    Noted Failure (List Artifact) :=
  (d.resource.mapFailure .rejected).andThen fun r =>
    (plan r renderer o).mapFailure .unrendered

/-- **The project that is written into.** -/
def Arguments.base (a : Arguments) (h : Host) : Path := a.basePath.getD h.basePath

namespace World

/-- **Planning and delivery.** Without a plan nothing is written. -/
def scaffold (h : Host) (a : Arguments) (s : Settings) (renderer : Renderer) (time : Timestamp)
    (w : World) : Except Failure Summary × World :=
  let prepared := preparePlan a.description renderer ((a.apply s).planOptions time)
  match prepared.result with
  | .error e => (.error e, w.notice prepared.notices)
  | .ok files => (w.notice prepared.notices).deliver a.force (a.base h) files

/-- **The command that generates a resource.** A delivery that fails is not followed by a refresh,
and a refresh that fails does not make the command fail. -/
def generate (h : Host) (a : Arguments) (s : Settings) (renderer : Renderer) (time : Timestamp)
    (w : World) : Except Failure Summary × World :=
  match w.scaffold h a s renderer time with
  | (.error e, w) => (.error e, w)
  | (.ok summary, w) =>
    (.ok summary,
      if (a.apply s).dumpAutoload then w.tryRefresh h (a.apply s) (a.base h) else w)

end World

end Groundwork
