import Groundwork.Disk
import Groundwork.Notice
import Groundwork.Renderer

/-!
# The world of a run

A run works on a disk, reads answers and leaves a history: questions, lines of progress, notices
and the commands it started. All of it is a value, so that a run is a function. It takes place on a
host: its environment gives the home directory and two optional variables, and its search path
gives programs.

* `World`: the disk, the answers not yet read, and the history.
* `Event`: one entry of the history.
* `Failure`: why a run stops, with its chain of causes.
* `Host.configDirectory`, `Host.basePath`: where the settings of the user are, and the project that
  is written into when the command line names none.
* `Programs.standard`: three programs that every host has.
-/

namespace Groundwork

/-! ## Failures -/

/-- **Why a run stops.** -/
inductive Failure where
  | rejected (r : Rejection)
  | unrendered (e : RenderError)
  /-- Input or output fails, in the course of what the context says, the outermost first. -/
  | system (context : List String) (cause : IoError)
  /-- A settings file does not say what it should. -/
  | badSettings (file : Path)
  /-- The refresh command, given in full, ends without success. -/
  | commandFailed (words : List String)
  deriving DecidableEq, Repr

namespace Failure

/-- **The chain of causes**, the outermost first. -/
def chain : Failure → List String
  | .rejected r => [r.message]
  | .unrendered e => [e.message]
  | .system context cause => context ++ [cause.message]
  | .badSettings file => ["Invalid config file " ++ file.text]
  | .commandFailed words => ["`" ++ " ".intercalate words ++ "` failed"]

/-- The outermost cause. -/
def headline (f : Failure) : String := f.chain.headD ""

/-- All causes in one line. -/
def message (f : Failure) : String := ": ".intercalate f.chain

/-- The failure in the course of something larger. -/
def during (context : String) : Failure → Failure
  | .system inner cause => .system (context :: inner) cause
  | f => f

end Failure

/-! ## Events -/

/-- **An entry of the history.** -/
inductive Event where
  /-- A question was put, and the line left open for the answer. -/
  | asked (question : String)
  /-- A line of progress was shown. -/
  | shown (line : String)
  | noted (n : Notice)
  /-- A command was started in a directory. -/
  | started (program : String) (arguments : List String) (directory : Place)
  deriving DecidableEq, Repr

/-- The questions of a history, run together. -/
def Event.questions (history : List Event) : String :=
  String.join (history.filterMap fun
    | .asked q => some q
    | _ => none)

/-- The lines of progress of a history. -/
def Event.progress (history : List Event) : String :=
  String.join (history.filterMap fun
    | .shown l => some (l ++ "\n")
    | _ => none)

/-- The notices of a history. -/
def Event.notices (history : List Event) : List Notice :=
  history.filterMap fun
    | .noted n => some n
    | _ => none

/-! ## Worlds -/

/-- **The world of a run.** -/
structure World where
  disk : Disk
  /-- The answers not yet read. -/
  answers : List UInt8
  history : List Event
  deriving Repr

namespace World

/-- The world after one more entry. -/
def record (w : World) (e : Event) : World := { w with history := w.history ++ [e] }

/-- The world after some notices. -/
def notice (w : World) (ns : List Notice) : World :=
  { w with history := w.history ++ ns.map .noted }

/-- The world with another disk. -/
def withDisk (w : World) (d : Disk) : World := { w with disk := d }

end World

/-! ## Hosts -/

/-- **A program**: by its arguments it tells whether it succeeds and what it makes of the disk,
whose current directory is the one it was started in. -/
abbrev Program := List String → Disk → Bool × Disk

/-- The programs of a search path. -/
abbrev Programs := String → Option Program

/-- **A host.** -/
structure Host where
  home : Path
  /-- The variable that names the user's configuration directory. -/
  configHome : Option String
  /-- The variable that names the project. -/
  projectBase : Option String
  programs : Programs

namespace Host

/-- **The user's configuration directory**: the variable counts only if it is absolute. -/
def configDirectory (h : Host) : Path :=
  match h.configHome with
  | some text => if Path.isAbsolute ⟨text⟩ then ⟨text⟩ else h.home.join ⟨".config"⟩
  | none => h.home.join ⟨".config"⟩

/-- **The project** when the command line names none: the variable, else the current directory. -/
def basePath (h : Host) : Path := ⟨h.projectBase.getD "."⟩

end Host

/-! ## Standard programs -/

namespace Programs

/-- A file is made if nothing of its name is there. -/
def touchFile (d : Disk) (name : String) : Except IoError Disk :=
  if d.holds ⟨name⟩ then .ok d else d.write ⟨name⟩ []

/-- Files are made one after another; one that cannot be made does not stop the others. -/
def touchFiles : List String → Disk → Bool × Disk
  | [], d => (true, d)
  | name :: rest, d =>
    match touchFile d name with
    | .ok d => touchFiles rest d
    | .error _ => (false, (touchFiles rest d).2)

/-- **Three programs that every host has**: one succeeds, one fails, one makes files. -/
def standard : Programs := fun name =>
  if name = "true" then some fun _ d => (true, d)
  else if name = "false" then some fun _ d => (false, d)
  else if name = "touch" then
    some fun arguments d => if arguments = [] then (false, d) else touchFiles arguments d
  else none

end Programs

end Groundwork
