import Groundwork.FileTree
import Groundwork.Program
import Std.Time

/-!
# The command line

The outer layer of the program: it reads the part of the file system that the run can see, lets
`runProgram` compute the run, asks for an answer whenever the run puts a question that has none
yet, and at last writes what changed. It starts no processes; the programs of a refresh are the
standard ones.
-/

namespace Groundwork

/-! ## The file system -/

/-- A place as a path of the file system. -/
def placeText (p : Place) : String := "/" ++ "/".intercalate p

/-- The tree with what the file system has at a place, if its parent is a directory. -/
def loadPlace (t : FileTree) (p : Place) : IO FileTree := do
  if (t.look p).isSome || t.look p.dropLast ≠ some .directory then return t
  match ← (IO.FS.realPath (placeText p)).toBaseIO with
  | .error _ => return t
  | .ok real =>
    if ← real.isDir then return t.put p (.directory [])
    return t.put p (.file (← IO.FS.readBinFile real).data.toList)

/-- The tree with all places that some paths may look at. -/
def loadPaths (d : Disk) (ps : List Path) : IO Disk := do
  let mut root := d.root
  for p in ps do
    for place in p.visits d.current do
      root ← loadPlace root place
  return { d with root }

/-- What stands at a place is written there. -/
def storeLeaf (leaf : Place × Node) : IO Unit := do
  match leaf with
  | (p, .directory) => IO.FS.createDirAll (placeText p)
  | (p, .file contents) =>
    IO.FS.createDirAll (placeText p.dropLast)
    IO.FS.writeBinFile (placeText p) ⟨contents.toArray⟩
  | (_, .device) => return

/-- The paths that a request may look at besides the settings files. -/
def Request.paths (h : Host) (time : Timestamp) (s : Settings) : Request → List Path
  | .info _ => []
  | .resource a =>
    let base := a.base h
    let planned := preparePlan a.description Renderer.standard (s.planOptions time)
    let files := match planned.result with
      | .ok files => files.map fun f => base.join f.path
      | .error _ => []
    base :: files ++ s.autoloadCommand.map fun word => base.join ⟨word⟩

/-! ## Time and answers -/

/-- The local time. -/
def localTime : IO Timestamp := do
  let now ← Std.Time.PlainDateTime.now
  return ⟨now.year, now.month.val.toNat, now.day.val.toNat, now.hour.val.toNat,
    now.minute.val.toNat, now.second.val.toNat⟩

/-- One line of answers; empty at their end. -/
partial def readAnswer (input : IO.FS.Stream) : IO (List UInt8) := do
  match (← input.read 1).data.toList with
  | [10] => return [10]
  | [b] => return b :: (← readAnswer input)
  | _ => return []

/-- The history up to the question that follows the first `n` ones. -/
def untilQuestion : Nat → List Event → Option (List Event)
  | _, [] => none
  | 0, .asked q :: _ => some [.asked q]
  | n + 1, .asked q :: rest => (untilQuestion n rest).map (.asked q :: ·)
  | n, e :: rest => (untilQuestion n rest).map (e :: ·)

/-- The run, repeated with one more answer as long as a question has none; `shown` characters of
its text have been shown. -/
partial def converse (run : List UInt8 → Report) (verbose : Bool) (answers : List UInt8)
    (shown : Nat) : IO (Report × Nat) := do
  let report := run answers
  match untilQuestion (Text.inputLines answers).length report.world.history with
  | none => return (report, shown)
  | some history =>
    let text := String.join (history.map (Event.written verbose))
    let err ← IO.getStderr
    err.putStr (String.ofList (text.toList.drop shown))
    err.flush
    match ← readAnswer (← IO.getStdin) with
    | [] => return (report, text.length)
    | line => converse run verbose (answers ++ line) text.length

end Groundwork

open Groundwork in
/-- **The program.** It reads what the run can see, and writes what the run changed. -/
def main (words : List String) : IO UInt32 := do
  let here ← IO.currentDir
  let host : Host :=
    { home := ⟨(← IO.getEnv "HOME").getD "/"⟩
      configHome := ← IO.getEnv "XDG_CONFIG_HOME"
      projectBase := ← IO.getEnv "SCAFFOLD_BASE_PATH"
      programs := Programs.standard }
  let time ← localTime
  let bare : Disk := ⟨.directory [], Path.pieces ⟨here.toString⟩⟩
  let command := readCommand words
  let settingsDisk ← loadPaths bare (⟨here.toString⟩ :: Settings.candidates host)
  let disk ← match command, Settings.load host settingsDisk with
    | .ok c, .ok s => loadPaths settingsDisk (c.request.paths host time s)
    | _, _ => pure settingsDisk
  let verbose := match command with
    | .ok c => c.verbose
    | .error _ => false
  let run := fun answers => runProgram host time words ⟨disk, answers, []⟩
  let (report, shown) ← converse run verbose [] 0
  for leaf in disk.root.changes report.world.disk.root do
    storeLeaf leaf
  IO.print report.output
  IO.eprint (String.ofList (report.errors.toList.drop shown))
  return report.exitCode.toUInt32
