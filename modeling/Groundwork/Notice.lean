import Groundwork.Template
import Groundwork.Text.Quoted

/-!
# Notices and rejections

What a run reports besides its result: each leniency in a field definition, each rendered file,
and how the autoload refresh went. A notice is a value; `Notice.line` is its written form. A
rejection says why a description of a resource, or a refresh command, is refused.

* `Noted`: a result together with the notices that led to it, one way to compose such results.
* `Rejection.message`: the sentence that is shown.
-/

namespace Groundwork

open Text (quoted)

/-! ## Notices -/

/-- How much a notice matters. -/
inductive Level where
  | warn
  | debug
  deriving DecidableEq, Repr

/-- The name of a level. -/
def Level.name : Level → String
  | .warn => "WARN"
  | .debug => "DEBUG"

/-- **A notice.** -/
inductive Notice where
  /-- A definition has no type, so the field is a string. -/
  | emptyType (field : String)
  /-- A modifier that means nothing is passed over. -/
  | unknownModifier (field modifier : String)
  /-- Only integer fields increment; the field is a plain key. -/
  | notIncrementing (field type : String)
  /-- A type outside the known ones is rendered like a string. -/
  | unknownType (field type : String)
  /-- A template has been rendered, to so many bytes. -/
  | rendered (template : Template) (bytes : Nat)
  /-- The refresh command is about to start. -/
  | refreshing (program : String) (arguments : List String) (base : String)
  /-- The refresh command did not succeed. -/
  | refreshFailed (error : String)
  deriving DecidableEq, Repr

/-- **The value of a notice's field**, by the way it is written. -/
inductive Datum where
  | bare (text : String)
  | text (text : String)
  | texts (items : List String)
  | count (n : Nat)
  deriving DecidableEq, Repr

/-- The written form of a value: bare, quoted, or a bracketed list of quoted texts. -/
def Datum.written : Datum → String
  | .bare t => t
  | .text t => quoted t
  | .texts ts => "[" ++ ", ".intercalate (ts.map quoted) ++ "]"
  | .count n => toString n

namespace Notice

/-- The level of a notice. -/
def level : Notice → Level
  | .rendered .. | .refreshing .. => .debug
  | _ => .warn

/-- The part of the program that a notice speaks for. -/
def origin : Notice → String
  | .rendered .. => "scaffold::generate"
  | .refreshing .. => "scaffold::util"
  | .refreshFailed .. => "scaffold::command::resource"
  | _ => "scaffold_core::field"

/-- The sentence of a notice. -/
def message : Notice → String
  | .emptyType .. => "empty field type, treating it as string"
  | .unknownModifier .. => "ignoring unrecognized modifier"
  | .notIncrementing .. => "only integer fields can auto-increment; treating as a plain primary key"
  | .unknownType .. => "unrecognized field type, rendering it string-like"
  | .rendered .. => "rendered artifact"
  | .refreshing .. => "running autoload command"
  | .refreshFailed .. => "autoload refresh failed"

/-- The named values of a notice, in order. -/
def data : Notice → List (String × Datum)
  | .emptyType field => [("field", .text field)]
  | .unknownModifier field modifier => [("field", .bare field), ("modifier", .text modifier)]
  | .notIncrementing field type => [("field", .bare field), ("ty", .bare type)]
  | .unknownType field type => [("field", .bare field), ("ty", .bare type)]
  | .rendered template bytes => [("template", .bare template.title), ("bytes", .count bytes)]
  | .refreshing program arguments base =>
    [("program", .text program), ("args", .texts arguments), ("base", .bare base)]
  | .refreshFailed error => [("error", .bare error)]

/-- **The written form**: the level in five columns, the origin, the sentence and the values. -/
def line (n : Notice) : String :=
  String.ofList (List.replicate (5 - n.level.name.length) ' ') ++ n.level.name ++ " " ++ n.origin
    ++ ": " ++ n.message
    ++ String.join (n.data.map fun (key, value) => " " ++ key ++ "=" ++ value.written)

end Notice

/-! ## Results with notices -/

/-- **A result and the notices given on the way to it.** -/
structure Noted (ε α : Type) where
  notices : List Notice
  result : Except ε α

namespace Noted

variable {ε α β : Type}

/-- A result without notices. -/
def value (a : α) : Noted ε α := ⟨[], .ok a⟩

/-- A failure without notices. -/
def failure (e : ε) : Noted ε α := ⟨[], .error e⟩

/-- One notice, and nothing else. -/
def note (n : Notice) : Noted ε Unit := ⟨[n], .ok ()⟩

/-- **One computation after another**: the notices add up until the first failure. -/
def andThen (x : Noted ε α) (f : α → Noted ε β) : Noted ε β :=
  match x.result with
  | .error e => ⟨x.notices, .error e⟩
  | .ok a => ⟨x.notices ++ (f a).notices, (f a).result⟩

instance : Monad (Noted ε) where
  pure := value
  bind := andThen

/-- The computation on every item in order, up to the first failure. -/
def each (f : α → Noted ε β) : List α → Noted ε (List β)
  | [] => value []
  | a :: rest => (f a).andThen fun b => (each f rest).andThen fun bs => value (b :: bs)

/-- The same result with the failure renamed. -/
def mapFailure {ε' : Type} (f : ε → ε') (x : Noted ε α) : Noted ε' α :=
  ⟨x.notices, x.result.mapError f⟩

@[simp] theorem andThen_ok (ns : List Notice) (a : α) (f : α → Noted ε β) :
    andThen ⟨ns, .ok a⟩ f = ⟨ns ++ (f a).notices, (f a).result⟩ := rfl

@[simp] theorem andThen_error (ns : List Notice) (e : ε) (f : α → Noted ε β) :
    andThen ⟨ns, .error e⟩ f = ⟨ns, .error e⟩ := rfl

end Noted

/-! ## Rejections -/

/-- What is wrong with a field definition. -/
inductive Malformation where
  /-- There is a name but no type segment. -/
  | missingType
  /-- The name is blank. -/
  | emptyName
  deriving DecidableEq, Repr

/-- What the form demands. -/
def Malformation.reason : Malformation → String
  | .missingType => "expected `name:type[:modifier]*`"
  | .emptyName => "field name is empty"

/-- **Why an input is refused.** -/
inductive Rejection where
  /-- A field definition, given in full, does not have the required form. -/
  | malformedField (definition : String) (fault : Malformation)
  /-- Nothing is left of the resource's name. -/
  | emptyName
  /-- Two fields share this name. -/
  | duplicateField (name : String)
  /-- The refresh command does not begin with a program. -/
  | noProgram
  deriving DecidableEq, Repr

/-- **The sentence that is shown.** -/
def Rejection.message : Rejection → String
  | .malformedField definition fault =>
    "Malformed field definition `" ++ definition ++ "`: " ++ fault.reason
  | .emptyName => "Resource name must not be empty"
  | .duplicateField name => "Field `" ++ name ++ "` is defined more than once"
  | .noProgram => "autoload_command must name a program"

end Groundwork
