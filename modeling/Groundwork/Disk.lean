import Groundwork.FileTree
import Groundwork.Path

/-!
# Disks

A disk is a file tree with a current directory. Paths are resolved piece by piece: each piece but
the last has to name a directory, `.` stays and `..` goes up to the directory above. There are no
links, so the directory above is the one that the place names.

* `Disk.find`: the place of what a path names.
* `Disk.makeDirectory`, `Disk.write`, `Disk.append`, `Disk.read`: the operations.
* `Disk.makeDirectories`: a directory and whatever is missing above it.
-/

namespace Groundwork

/-! ## Errors -/

/-- **Why the system refuses an operation.** -/
inductive Errno where
  | notFound
  | permissionDenied
  | exists
  | notDirectory
  | isDirectory
  | nameTooLong
  deriving DecidableEq, Repr

/-- The words of the system. -/
def Errno.message : Errno → String
  | .notFound => "No such file or directory (os error 2)"
  | .permissionDenied => "Permission denied (os error 13)"
  | .exists => "File exists (os error 17)"
  | .notDirectory => "Not a directory (os error 20)"
  | .isDirectory => "Is a directory (os error 21)"
  | .nameTooLong => "File name too long (os error 36)"

/-- **Why input or output fails.** -/
inductive IoError where
  | system (e : Errno)
  /-- What is read is not text. -/
  | notText
  /-- A path holds the null character. -/
  | nullInPath
  /-- A program, an argument or its directory holds the null character. -/
  | nullInCommand
  deriving DecidableEq, Repr

/-- What is said of a failure. -/
def IoError.message : IoError → String
  | .system e => e.message
  | .notText => "stream did not contain valid UTF-8"
  | .nullInPath => "file name contained an unexpected NUL byte"
  | .nullInCommand => "nul byte found in provided data"

/-! ## Resolving a path -/

/-- **A disk**: a tree and the current directory. -/
structure Disk where
  root : FileTree
  current : Place
  deriving Repr

/-- The longest name, in bytes. -/
def longestName : Nat := 255

/-- The longest path, in bytes. -/
def longestPath : Nat := 4095

/-- The name has more bytes than a directory can hold. -/
def isTooLong (name : String) : Bool := longestName < name.utf8ByteSize

/-- **From directory to directory** along the pieces of a path. -/
def FileTree.walk (t : FileTree) (here : Place) : List String → Except Errno Place
  | [] => .ok here
  | piece :: rest =>
    if piece = "." then walk t here rest
    else if piece = ".." then walk t here.dropLast rest
    else if isTooLong piece then .error .nameTooLong
    else
      match t.look (here ++ [piece]) with
      | none => .error .notFound
      | some .directory => walk t (here ++ [piece]) rest
      | some _ => .error .notDirectory

/-- **Where a path leads**: to a directory that it names by `.`, `..` or the root's slash, or to a
name in a directory, perhaps with slashes after it. -/
inductive Spot where
  | directory (place : Place)
  | name (directory : Place) (name : String) (slash : Bool)
  deriving DecidableEq, Repr

namespace Disk

variable (d : Disk)

/-- Where a path begins. -/
def start (p : Path) : Place := if p.isAbsolute then [] else d.current

/-- **Where a path leads.** All pieces but the last have to exist. -/
def locate (p : Path) : Except Errno Spot :=
  if p.text = "" then .error .notFound
  else if longestPath < p.text.utf8ByteSize then .error .nameTooLong
  else
    match p.pieces.getLast? with
    | none => .ok (.directory (d.start p))
    | some last =>
      match d.root.walk (d.start p) p.pieces.dropLast with
      | .error e => .error e
      | .ok place =>
        if last = "." then .ok (.directory place)
        else if last = ".." then .ok (.directory place.dropLast)
        else .ok (.name place last p.endsInSlash)

/-- **The place of what a path names.** Only a directory may have a slash after it. -/
def find (p : Path) : Except Errno Place :=
  match d.locate p with
  | .error e => .error e
  | .ok (.directory place) => .ok place
  | .ok (.name place n slash) =>
    if isTooLong n then .error .nameTooLong
    else
      match d.root.look (place ++ [n]) with
      | none => .error .notFound
      | some .directory => .ok (place ++ [n])
      | some _ => if slash then .error .notDirectory else .ok (place ++ [n])

end Disk

/-- The path holds the null character, which ends a path for the system. -/
def Path.hasNull (p : Path) : Bool := p.text.toList.contains '\x00'

namespace Disk

variable (d : Disk)

/-! ## Questions -/

/-- **The path names something.** -/
def holds (p : Path) : Bool := !p.hasNull && (d.find p).toOption.isSome

/-- What the path names, if anything. -/
def look? (p : Path) : Option Node :=
  if p.hasNull then none else (d.find p).toOption.bind d.root.look

/-- A directory stands at the end of the path. -/
def holdsDirectory (p : Path) : Bool := d.look? p = some .directory

/-! ## Operations -/

/-- The disk with a tree at a place. -/
def put (place : Place) (t : FileTree) : Disk := { d with root := d.root.put place t }

/-- **A new directory.** Its parent has to exist, and nothing of its name. -/
def makeDirectory (p : Path) : Except IoError Disk :=
  if p.hasNull then .error .nullInPath
  else
    match d.locate p with
    | .error e => .error (.system e)
    | .ok (.directory _) => .error (.system .exists)
    | .ok (.name place n _) =>
      if isTooLong n then .error (.system .nameTooLong)
      else if (d.root.look (place ++ [n])).isSome then .error (.system .exists)
      else .ok (d.put (place ++ [n]) (.directory []))

/-- Is the error only that the directory exists already? -/
def standsAlready (p : Path) (e : IoError) : Bool := e = .system .exists && d.holdsDirectory p

/-- The directories of a list of ancestors, the nearest first. The search goes up to the first
that exists or can be made; those passed over are made on the way back. -/
def makeAncestors (d : Disk) : List Path → Disk × Except IoError Unit
  | [] => (d, .ok ())
  | p :: above =>
    if p.text = "" ∨ p.parent? = none then (d, .ok ())
    else
      match d.makeDirectory p with
      | .ok d' => (d', .ok ())
      | .error (.system .notFound) =>
        match makeAncestors d above with
        | (d', .error e) => (d', .error e)
        | (d', .ok ()) =>
          match d'.makeDirectory p with
          | .ok d'' => (d'', .ok ())
          | .error e => (d', if d'.standsAlready p e then .ok () else .error e)
      | .error e => (d, if d.standsAlready p e then .ok () else .error e)

/-- **A directory and whatever is missing above it.** What was made before an error stays. -/
def makeDirectories (p : Path) : Disk × Except IoError Unit := makeAncestors d p.ancestors

/-- **The place of a file that is written to**, whether it exists or not. -/
def target (p : Path) : Except IoError Place :=
  if p.hasNull then .error .nullInPath
  else
    match d.locate p with
    | .error e => .error (.system e)
    | .ok (.directory _) => .error (.system .isDirectory)
    | .ok (.name place n slash) =>
      if slash then .error (.system .isDirectory)
      else if isTooLong n then .error (.system .nameTooLong)
      else if d.root.look (place ++ [n]) = some .directory then .error (.system .isDirectory)
      else .ok (place ++ [n])

/-- The disk after a write that turns the old contents of a place into new ones. A device keeps
nothing. -/
def alterFile (place : Place) (f : List UInt8 → List UInt8) : Disk :=
  match d.root.look place with
  | some .device => d
  | some (.file old) => d.put place (.file (f old))
  | _ => d.put place (.file (f []))

/-- **Writing a file anew.** -/
def write (p : Path) (contents : List UInt8) : Except IoError Disk :=
  match d.target p with
  | .error e => .error e
  | .ok place => .ok (d.alterFile place fun _ => contents)

/-- **Adding to the end of a file**, which is made if it is missing. -/
def append (p : Path) (contents : List UInt8) : Except IoError Disk :=
  match d.target p with
  | .error e => .error e
  | .ok place => .ok (d.alterFile place (· ++ contents))

/-- **The contents of a file.** A device has none. -/
def read (p : Path) : Except IoError (List UInt8) :=
  if p.hasNull then .error .nullInPath
  else
    match d.find p with
    | .error e => .error (.system e)
    | .ok place =>
      match d.root.look place with
      | some (.file contents) => .ok contents
      | some .device => .ok []
      | some .directory => .error (.system .isDirectory)
      | none => .error (.system .notFound)

/-- **The disk with another current directory.** -/
def enter (p : Path) : Except Errno Disk :=
  match d.find p with
  | .error e => .error e
  | .ok place =>
    if d.root.look place = some .directory then .ok { d with current := place }
    else .error .notDirectory

end Disk

/-! ## Places on the way -/

/-- The places on the way along some pieces, in order. -/
def visitsFrom (here : Place) : List String → List Place
  | [] => []
  | piece :: rest =>
    let next :=
      if piece = "." then here else if piece = ".." then here.dropLast else here ++ [piece]
    next :: visitsFrom next rest

/-- **The places that resolving a path may look at**, from a current directory. -/
def Path.visits (current : Place) (p : Path) : List Place :=
  visitsFrom (if p.isAbsolute then [] else current) p.pieces

end Groundwork
