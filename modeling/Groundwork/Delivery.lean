import Groundwork.Plan
import Groundwork.Text.LetterCase
import Groundwork.Text.Line
import Groundwork.Text.Ranges
import Groundwork.World

/-!
# Delivery of a plan

The files of a plan are written one after another below a base directory. A file that exists is
replaced only when the answer to a question is `y` or `yes`. Each question reads one line of the
answers; without any line left the answer is no. A declined file is skipped and the next one
follows; the first failure ends the delivery.

* `World.confirm`: the question and its answer.
* `World.writeConfirmed`, `World.append`: the two ways to write a file.
* `World.deliver`: the delivery of a list of files.
* `Summary`: the destinations, by what became of them.
-/

namespace Groundwork

open Text (asciiLower decode? encode takeLine? trim)

/-! ## Confirmed writing -/

/-- **An answer that agrees**, whatever its letter case and the blanks around it. -/
def agrees (answer : String) : Bool :=
  asciiLower (trim answer) = "y" || asciiLower (trim answer) = "yes"

/-- The question before a file is replaced. -/
def overwriteQuestion (p : Path) : String :=
  "File " ++ p.text ++ " already exists. Should I override this file? (Y/N) "

namespace World

/-- **The question and its answer.** An answer that is not text fails, and its line is read all
the same. -/
def confirm (p : Path) (w : World) : Except Failure Bool × World :=
  let asked := w.record (.asked (overwriteQuestion p))
  match takeLine? w.answers with
  | none => (.ok false, asked)
  | some (line, rest) =>
    match decode? line with
    | none => (.error (.system [] .notText), { asked with answers := rest })
    | some answer => (.ok (agrees answer), { asked with answers := rest })

/-- The directory that is to hold a file is made if it is missing. -/
def makeParent (p : Path) (w : World) : Except Failure Unit × World :=
  match p.parent? with
  | none => (.ok (), w)
  | some parent =>
    match w.disk.makeDirectories parent with
    | (d, .ok ()) => (.ok (), w.withDisk d)
    | (d, .error e) =>
      (.error (.system ["Unable to create directory " ++ parent.text] e), w.withDisk d)

/-- Writing a file, whether it exists or not. -/
def overwrite (p : Path) (contents : String) (w : World) : Except Failure Unit × World :=
  match makeParent p w with
  | (.error e, w) => (.error e, w)
  | (.ok (), w) =>
    match w.disk.write p (encode contents) with
    | .error e => (.error (.system ["Could not write to " ++ p.text] e), w)
    | .ok d => (.ok (), w.withDisk d)

/-- **Writing a file that is only replaced with consent**, or by force. The answer tells whether
it was written. -/
def writeConfirmed (force : Bool) (p : Path) (contents : String) (w : World) :
    Except Failure Bool × World :=
  let asks := w.disk.holds p && !force
  match if asks then confirm p w else (.ok true, w) with
  | (.error e, w) => (.error e, w)
  | (.ok false, w) => (.ok false, w)
  | (.ok true, w) =>
    match overwrite p contents w with
    | (.error e, w) => (.error e, w)
    | (.ok (), w) => (.ok true, w)

/-- **Adding to a file**, which is made if it is missing. -/
def append (p : Path) (contents : String) (w : World) : Except Failure Unit × World :=
  match makeParent p w with
  | (.error e, w) => (.error e, w)
  | (.ok (), w) =>
    match w.disk.append p (encode contents) with
    | .error e => (.error (.system ["Failed to open " ++ p.text] e), w)
    | .ok d => (.ok (), w.withDisk d)

end World

/-! ## Files one after another -/

/-- **What became of a file.** -/
inductive Outcome where
  | created
  | skipped
  | appended
  deriving DecidableEq, Repr

/-- The word in front of the destination, in the line of progress. -/
def Outcome.word : Outcome → String
  | .created => "Created:"
  | .skipped => "Skipped:"
  | .appended => "Appended:"

/-- **The destinations of a delivery**, by what became of them. -/
structure Summary where
  created : List Path
  skipped : List Path
  appended : List Path
  deriving DecidableEq, Repr

/-- No destination at all. -/
def Summary.empty : Summary := ⟨[], [], []⟩

/-- The summary with one destination in front. -/
def Summary.cons (o : Outcome) (p : Path) (s : Summary) : Summary :=
  match o with
  | .created => { s with created := p :: s.created }
  | .skipped => { s with skipped := p :: s.skipped }
  | .appended => { s with appended := p :: s.appended }

namespace World

/-- One file is written, or added to the file that stands at its destination. -/
def writeFile (force : Bool) (dest : Path) (a : Artifact) (w : World) :
    Except Failure Outcome × World :=
  match a.mode with
  | .create =>
    match w.writeConfirmed force dest a.contents with
    | (.error e, w) => (.error (e.during ("Failed to write " ++ a.template.title)), w)
    | (.ok written, w) => (.ok (if written then .created else .skipped), w)
  | .append =>
    match w.append dest a.contents with
    | (.error e, w) => (.error (e.during ("Failed to append " ++ a.template.title)), w)
    | (.ok (), w) => (.ok .appended, w)

/-- **The delivery of one file**, with a line that tells what became of it. -/
def deliverFile (force : Bool) (base : Path) (a : Artifact) (w : World) :
    Except Failure Outcome × World :=
  match w.writeFile force (base.join a.path) a with
  | (.error e, w) => (.error e, w)
  | (.ok o, w) => (.ok o, w.record (.shown (o.word ++ " " ++ (base.join a.path).text)))

/-- **The delivery of a list of files**, up to the first failure. -/
def deliver (force : Bool) (base : Path) : List Artifact → World → Except Failure Summary × World
  | [], w => (.ok .empty, w)
  | a :: rest, w =>
    match w.deliverFile force base a with
    | (.error e, w) => (.error e, w)
    | (.ok o, w) =>
      match deliver force base rest w with
      | (.error e, w) => (.error e, w)
      | (.ok s, w) => (.ok (s.cons o (base.join a.path)), w)

end World

end Groundwork
