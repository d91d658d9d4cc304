import Groundwork.Notice
import Groundwork.Text.Line
import Groundwork.Text.Ranges
import Groundwork.Toml.Reader
import Groundwork.World

/-!
# Settings

Four settings adapt the generated files to a project: two conventions of its base controller, and
the command that refreshes the autoloader. A document sets some of the four keys; what it leaves
out keeps its standard value, and keys of other names are passed over. The document is looked for
in four directories, in each under two names. The first file that exists is the one that counts,
even if it cannot be read.

* `Settings.standard`: the settings without any file.
* `Settings.program`: the refresh command as a program with arguments.
* `Settings.ofDocument?`, `Settings.line`: the settings of a document, and the line that sets a key.
* `Settings.candidates`: the eight paths, in the order in which they are tried.
* `Settings.read`, `Settings.load`: the settings of a file, and of the first one that exists.
-/

namespace Groundwork

open Text (trim)

/-- **Settings** that adapt the generated files to a project. -/
structure Settings where
  /-- Generated controllers collect the validated attributes themselves. -/
  inlineValidation : Bool
  /-- Generated controllers convert keys themselves. -/
  inlineSnakeCase : Bool
  dumpAutoload : Bool
  autoloadCommand : List String
  deriving DecidableEq, Repr

namespace Settings

/-- **The settings without any file.** -/
def standard : Settings where
  inlineValidation := true
  inlineSnakeCase := true
  dumpAutoload := true
  autoloadCommand := ["composer", "dump-autoload"]

/-- **The refresh command** as a program with arguments. A blank word is no program. -/
def program (s : Settings) : Except Rejection (String × List String) :=
  match s.autoloadCommand with
  | [] => .error .noProgram
  | word :: arguments => if trim word = "" then .error .noProgram else .ok (word, arguments)

end Settings

/-! ## Keys -/

/-- **The keys of a settings document.** -/
inductive Setting where
  | inlineValidation
  | inlineSnakeCase
  | dumpAutoload
  | autoloadCommand
  deriving DecidableEq, Repr

/-- The name of a key. -/
def Setting.key : Setting → String
  | .inlineValidation => "inline_validation"
  | .inlineSnakeCase => "inline_snake_case"
  | .dumpAutoload => "dump_autoload"
  | .autoloadCommand => "autoload_command"

namespace Settings

/-! ## Reading -/

open Toml in
/-- The truth value of a key; without the key it is `standard`. -/
def readFlag? (es : Entries) (key : Setting) (standard : Bool) : Option Bool :=
  match es.get? key.key with
  | none => some standard
  | some (.value (.boolean b)) => some b
  | some _ => none

/-- The text that a value is. -/
def textOf? : Toml.Value → Option String
  | .text t => some t
  | _ => none

open Toml in
/-- The texts of a key; without the key they are `standard`. -/
def readTexts? (es : Entries) (key : Setting) (standard : List String) : Option (List String) :=
  match es.get? key.key with
  | none => some standard
  | some (.value (.array vs)) => vs.mapM textOf?
  | some _ => none

/-- The settings that entries hold. -/
def ofEntries? (es : Toml.Entries) : Option Settings :=
  match readFlag? es .inlineValidation standard.inlineValidation,
      readFlag? es .inlineSnakeCase standard.inlineSnakeCase,
      readFlag? es .dumpAutoload standard.dumpAutoload,
      readTexts? es .autoloadCommand standard.autoloadCommand with
  | some inlineValidation, some inlineSnakeCase, some dumpAutoload, some autoloadCommand =>
    some { inlineValidation, inlineSnakeCase, dumpAutoload, autoloadCommand }
  | _, _, _, _ => none

/-- **The settings of a document**; none when it is malformed or a key has a value of the wrong
kind. -/
def ofDocument? (s : String) : Option Settings := (Toml.readDocument? s).bind ofEntries?

/-! ## Writing -/

/-- A truth value as it is written. -/
def writeFlag (b : Bool) : List Char :=
  if b then ['t', 'r', 'u', 'e'] else ['f', 'a', 'l', 's', 'e']

/-- An array of texts of a document. -/
def writeTexts (ts : List String) : List Char :=
  '[' :: ([',', ' '].intercalate (ts.map fun t => Toml.writeBasic t.toList) ++ [']'])

/-- The value of a key as it is written. -/
def writeValue (s : Settings) : Setting → List Char
  | .inlineValidation => writeFlag s.inlineValidation
  | .inlineSnakeCase => writeFlag s.inlineSnakeCase
  | .dumpAutoload => writeFlag s.dumpAutoload
  | .autoloadCommand => writeTexts s.autoloadCommand

/-- **The line that sets a key.** -/
def line (s : Settings) (key : Setting) : List Char :=
  key.key.toList ++ [' ', '=', ' '] ++ s.writeValue key ++ ['\n']

/-- **The document that sets these keys**, in this order. -/
def document (s : Settings) (keys : List Setting) : String := String.ofList (keys.flatMap s.line)

end Settings

/-! ## Files -/

namespace Settings

/-- **The settings of a file.** -/
def read (d : Disk) (p : Path) : Except Failure Settings :=
  match d.read p with
  | .error e => .error (.system ["Failed to read " ++ p.text] e)
  | .ok bytes =>
    match Text.decode? bytes with
    | none => .error (.system ["Failed to read " ++ p.text] .notText)
    | some text =>
      match ofDocument? text with
      | none => .error (.badSettings p)
      | some s => .ok s

/-- The names of a settings file in a directory. -/
def fileNames : List Path := [⟨".scaffold/config.toml"⟩, ⟨".scaffold.toml"⟩]

/-- The directories in which settings are looked for. -/
def directories (h : Host) : List Path := [⟨"."⟩, ⟨".."⟩, h.configDirectory, h.home]

/-- **The paths of settings files**, in the order in which they are tried. -/
def candidates (h : Host) : List Path :=
  (directories h).flatMap fun dir => fileNames.map dir.join

/-- **The settings of the first file that exists**, and the standard ones without any. -/
def load (h : Host) (d : Disk) : Except Failure Settings :=
  match (candidates h).find? d.holds with
  | none => .ok standard
  | some p => read d p

end Settings

end Groundwork
