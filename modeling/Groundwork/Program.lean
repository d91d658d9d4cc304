import Groundwork.CommandLine
import Groundwork.Commands

/-!
# The program

The program reads a command line, runs its command and shows what happened: questions, progress
and notices in the order of the history, then the failure, if any.

* `Event.written`: what an entry of the history shows.
* `runProgram`: exit code, output and world of a command line.
-/

namespace Groundwork

/-- **What an entry of the history shows.** Notices of the lower level need asking for. -/
def Event.written (verbose : Bool) : Event → String
  | .asked question => question
  | .shown line => line ++ "\n"
  | .noted n => if verbose || n.level = .warn then n.line ++ "\n" else ""
  | .started .. => ""

/-- A cause behind its lead; the further lines of a cause stand below the first one. -/
def causeText (lead cause : String) : String :=
  let below := String.ofList ('\n' :: List.replicate lead.length ' ')
  lead ++ below.intercalate ((Text.segments '\n' cause.toList).map String.ofList) ++ "\n"

/-- The lead of a numbered cause: the number in five columns. -/
def numberLead (n : Nat) : String :=
  String.ofList (List.replicate (5 - (toString n).length) ' ') ++ toString n ++ ": "

/-- The numbered causes of a failure, from a number on. -/
def numberedCauses (start : Nat) : List String → List String
  | [] => []
  | cause :: rest => causeText (numberLead start) cause :: numberedCauses (start + 1) rest

/-- **The report of a failure**: its headline and the causes behind it, numbered if there are
several. -/
def Failure.report (f : Failure) : String :=
  "Error: " ++ f.headline ++ "\n"
    ++ match f.chain.drop 1 with
      | [] => ""
      | [cause] => "\nCaused by:\n" ++ causeText "    " cause
      | causes => "\nCaused by:\n" ++ String.join (numberedCauses 0 causes)

/-- **What a run of the program leaves.** -/
structure Report where
  exitCode : Nat
  output : String
  errors : String
  world : World

/-- What is shown of the version. -/
def versionLine : String := "scaffold-cli 0.3.0\n"

/-- What is shown of the usage. -/
def usageText : String :=
  "Usage: scaffold [--verbose] resource [OPTIONS] <NAME> <PLURAL> <FIELDS>...\n"
    ++ "       scaffold [--verbose] info [--soft-deletes] <NAME> <PLURAL> <FIELDS>...\n"

/-- The report on a command line that asks for no command. -/
def usageReport (e : UsageError) (w : World) : Report :=
  match e with
  | .versionWanted => ⟨0, versionLine, "", w⟩
  | .helpWanted => ⟨0, usageText, "", w⟩
  | _ => ⟨2, "", usageText, w⟩

/-- **A request is served**; only generating files reads the settings. -/
def World.serve (h : Host) (time : Timestamp) (q : Request) (w : World) :
    Except Failure Unit × World :=
  match q with
  | .info d => w.outline d
  | .resource a =>
    match Settings.load h w.disk with
    | .error e => (.error e, w)
    | .ok s =>
      match w.generate h a s Renderer.standard time with
      | (.error e, w) => (.error e, w)
      | (.ok _, w) => (.ok (), w)

/-- **A run of the program** on a command line. -/
def runProgram (h : Host) (time : Timestamp) (words : List String) (w : World) : Report :=
  match readCommand words with
  | .error e => usageReport e w
  | .ok c =>
    let (result, after) := w.serve h time c.request
    let shown := String.join (after.history.map (Event.written c.verbose))
    match result with
    | .ok () => ⟨0, "", shown, after⟩
    | .error e => ⟨1, "", shown ++ e.report, after⟩

end Groundwork
