import Groundwork.Path
import Groundwork.Settings

/-!
# Command lines

Two commands take a name, a plural and at least one field; one shows the resource, the other
generates its files. The words are read from left to right. A word that begins with two hyphens is
an option, one that begins with a single hyphen a cluster of letters, and after `--` every word is
positional. The value of the base path may follow in a word of its own; it is taken over, and
checked, when the next word that is not an option of another name has been read.

* `Arguments`: the positional words, the switches and the base path.
* `UsageError`: what is wrong with a command line.
* `Grammar`, `Scan`: the options that a command has, and what has been read so far.
* `readArguments`: the arguments of a command, or the first thing wrong with them.
* `readCommand`: the command of a command line, or the first thing wrong with it.
* `commandWords`: the command line of options and positional words.
-/

namespace Groundwork

/-! ## Options and arguments -/

/-- **An option without a value.** -/
inductive Switch where
  | softDeletes
  | force
  | noInlineValidation
  | noInlineSnakeCase
  | skipAutoload
  | verbose
  | help
  | version
  deriving DecidableEq, Repr

namespace Switch

/-- All switches. -/
def all : List Switch :=
  [.softDeletes, .force, .noInlineValidation, .noInlineSnakeCase, .skipAutoload, .verbose, .help,
    .version]

/-- The long name of a switch, without its hyphens. -/
def long : Switch → String
  | .softDeletes => "soft-deletes"
  | .force => "force"
  | .noInlineValidation => "no-inline-validation"
  | .noInlineSnakeCase => "no-inline-snake-case"
  | .skipAutoload => "skip-autoload"
  | .verbose => "verbose"
  | .help => "help"
  | .version => "version"

/-- The letter of a switch, if it has one. -/
def short? : Switch → Option Char
  | .force => some 'f'
  | .verbose => some 'v'
  | .help => some 'h'
  | .version => some 'V'
  | _ => none

end Switch

/-- **What is wrong with a command line.** -/
inductive UsageError where
  /-- A positional word is missing. -/
  | missingArgument
  /-- No option has this name. -/
  | unknownOption
  /-- An option occurs twice. -/
  | repeatedOption
  /-- The base path is missing or empty. -/
  | badValue
  /-- A switch is given a value. -/
  | unwantedValue
  /-- There is no such command, or none at all. -/
  | noCommand
  /-- Help is asked for. -/
  | helpWanted
  /-- The version is asked for. -/
  | versionWanted
  deriving DecidableEq, Repr

/-- **The description of a resource** on a command line. -/
structure Description where
  name : String
  plural : String
  fields : List String
  softDeletes : Bool
  deriving DecidableEq, Repr

/-- **What a command line of the generating command asks for.** -/
structure Arguments where
  description : Description
  force : Bool
  noInlineValidation : Bool
  noInlineSnakeCase : Bool
  skipAutoload : Bool
  basePath : Option Path
  deriving DecidableEq, Repr

/-- **The settings with the changes of a command line**: each of its switches turns one off. -/
def Arguments.apply (a : Arguments) (s : Settings) : Settings :=
  { s with
    inlineValidation := s.inlineValidation && !a.noInlineValidation
    inlineSnakeCase := s.inlineSnakeCase && !a.noInlineSnakeCase
    dumpAutoload := s.dumpAutoload && !a.skipAutoload }

/-! ## Grammars -/

/-- **The options of a command.** -/
structure Grammar where
  switches : List Switch
  hasBasePath : Bool
  deriving DecidableEq, Repr

namespace Grammar

/-- The options of the command that shows a resource. -/
def info : Grammar := ⟨[.softDeletes, .help], false⟩

/-- The options of the command that generates files. -/
def resource : Grammar :=
  ⟨[.softDeletes, .force, .noInlineValidation, .noInlineSnakeCase, .skipAutoload, .help], true⟩

/-- The grammar with the switch that both the program and its commands have. -/
def withVerbose (g : Grammar) : Grammar := { g with switches := .verbose :: g.switches }

/-- The options of the program itself. -/
def program : Grammar := ⟨[.verbose, .help, .version], false⟩

/-- The switch of a long name. -/
def long? (g : Grammar) (name : String) : Option Switch := g.switches.find? (·.long = name)

/-- The switch of a letter. -/
def short? (g : Grammar) (c : Char) : Option Switch := g.switches.find? (·.short? = some c)

end Grammar

/-! ## Scanning -/

/-- **What has been read so far**: the switches, the base path, a value of the base path that is
not yet taken over (`some none` while it is still to come), and the positional words in reverse. -/
structure Scan where
  switches : List Switch
  basePath : Option String
  pending : Option (Option String)
  words : List String
  deriving DecidableEq, Repr

/-- Nothing has been read. -/
def Scan.empty : Scan := ⟨[], none, none, []⟩

/-- A long option as a word gives it: its name, and its value after an equals sign. -/
structure LongOption where
  name : String
  value : Option String
  deriving DecidableEq, Repr

/-- **The shapes of a word.** -/
inductive Shape where
  | escape
  | long (option : LongOption)
  | short (letters : List Char)
  | plain
  deriving DecidableEq, Repr

/-- **The shape of a word.** A single hyphen and an empty word are plain. -/
def shape (word : String) : Shape :=
  match word.toList with
  | ['-', '-'] => .escape
  | '-' :: '-' :: option =>
    .long
      { name := String.ofList (option.takeWhile (· ≠ '='))
        value :=
          match option.dropWhile (· ≠ '=') with
          | [] => none
          | _ :: value => some (String.ofList value) }
  | '-' :: c :: letters => .short (c :: letters)
  | _ => .plain

namespace Scan

/-- **Taking over the value of the base path.** It has to be there, for the first time, and not
empty. -/
def settle (s : Scan) : Except UsageError Scan :=
  match s.pending with
  | none => .ok s
  | some none => .error .badValue
  | some (some value) =>
    if s.basePath.isSome then .error .repeatedOption
    else if value = "" then .error .badValue
    else .ok { s with basePath := some value, pending := none }

/-- **One switch more.** Asking for help or the version ends the reading. -/
def addSwitch (s : Scan) (x : Switch) : Except UsageError Scan :=
  match s.settle with
  | .error e => .error e
  | .ok s =>
    if x = .help then .error .helpWanted
    else if x = .version then .error .versionWanted
    else if x ∈ s.switches then .error .repeatedOption
    else .ok { s with switches := x :: s.switches }

/-- A cluster of letters, one switch each. -/
def addLetters (g : Grammar) (s : Scan) : List Char → Except UsageError Scan
  | [] => .ok s
  | c :: rest =>
    match g.short? c with
    | none => .error .unknownOption
    | some x =>
      match s.addSwitch x with
      | .error e => .error e
      | .ok s => addLetters g s rest

/-- **A long option**: the base path, or a switch of this name. -/
def addLong (g : Grammar) (s : Scan) (o : LongOption) : Except UsageError Scan :=
  if g.hasBasePath ∧ o.name = "base-path" then
    match s.settle, o.value with
    | .error e, _ => .error e
    | .ok s, none => .ok { s with pending := some none }
    | .ok s, some value => settle { s with pending := some (some value) }
  else
    match g.long? o.name with
    | none => .error .unknownOption
    | some x => if o.value.isSome then .error .unwantedValue else s.addSwitch x

/-- One positional word more. -/
def addWord (s : Scan) (word : String) : Except UsageError Scan :=
  match s.settle with
  | .error e => .error e
  | .ok s => .ok { s with words := word :: s.words }

/-- A plain word: the value of the base path if that is still to come, else a positional word. -/
def addPlain (s : Scan) (word : String) : Except UsageError Scan :=
  if s.pending = some none then .ok { s with pending := some (some word) } else s.addWord word

/-- Positional words, one after another. -/
def addWords (s : Scan) : List String → Except UsageError Scan
  | [] => .ok s
  | word :: rest =>
    match s.addWord word with
    | .error e => .error e
    | .ok s => addWords s rest

/-- **The words from left to right.** After `--` all are positional. -/
def readWords (g : Grammar) (s : Scan) : List String → Except UsageError Scan
  | [] => s.settle
  | word :: rest =>
    let next :=
      match shape word with
      | .escape => none
      | .long o => some (s.addLong g o)
      | .short letters => some (s.addLetters g letters)
      | .plain => some (s.addPlain word)
    match next with
    | none =>
      match s.addWords rest with
      | .error e => .error e
      | .ok s => s.settle
    | some (.error e) => .error e
    | some (.ok s) => readWords g s rest

/-- The switch has been read. -/
def has (s : Scan) (x : Switch) : Bool := s.switches.contains x

/-- **The arguments that were read**, if no positional word is missing. -/
def toArguments (s : Scan) : Except UsageError Arguments :=
  match s.words.reverse with
  | name :: plural :: field :: fields =>
    .ok
      { description := ⟨name, plural, field :: fields, s.has .softDeletes⟩
        force := s.has .force
        noInlineValidation := s.has .noInlineValidation
        noInlineSnakeCase := s.has .noInlineSnakeCase
        skipAutoload := s.has .skipAutoload
        basePath := s.basePath.map Path.mk }
  | _ => .error .missingArgument

end Scan

/-- **The arguments of a command**, with the scan that gave them. -/
def readScan (g : Grammar) (words : List String) : Except UsageError (Scan × Arguments) :=
  match Scan.empty.readWords g words with
  | .error e => .error e
  | .ok s =>
    match s.toArguments with
    | .error e => .error e
    | .ok a => .ok (s, a)

/-- **The arguments that the generating command is given.** -/
def readArguments (words : List String) : Except UsageError Arguments :=
  (readScan .resource words).map Prod.snd

/-- **The description that the showing command is given.** -/
def readDescription (words : List String) : Except UsageError Description :=
  (readScan .info words).map (·.2.description)

/-! ## The command -/

/-- **What a command line asks for.** -/
inductive Request where
  | info (d : Description)
  | resource (a : Arguments)
  deriving DecidableEq, Repr

/-- **A command**, and whether all notices are to be shown. -/
structure Command where
  request : Request
  verbose : Bool
  deriving DecidableEq, Repr

/-- The command of a name and the words after it. -/
def readNamed (verbose : Bool) (name : String) (words : List String) :
    Except UsageError Command :=
  if name = "info" then
    (readScan Grammar.info.withVerbose words).map fun (s, a) =>
      ⟨.info a.description, verbose || s.has .verbose⟩
  else if name = "resource" then
    (readScan Grammar.resource.withVerbose words).map fun (s, a) =>
      ⟨.resource a, verbose || s.has .verbose⟩
  else if name = "help" ∧ words ∈ [[], ["info"], ["resource"], ["help"]] then
    .error .helpWanted
  else .error .noCommand

/-- The command of the words that follow the options read so far. -/
def readCommandFrom (s : Scan) : List String → Except UsageError Command
  | [] => .error .noCommand
  | word :: rest =>
    let next :=
      match shape word with
      | .long o => some (s.addLong .program o)
      | .short letters => some (s.addLetters .program letters)
      | _ => none
    match next with
    | none => readNamed (s.has .verbose) word rest
    | some (.error e) => .error e
    | some (.ok s) => readCommandFrom s rest

/-- **The command of a command line.** -/
def readCommand (words : List String) : Except UsageError Command := readCommandFrom .empty words

/-! ## Writing -/

/-- **An option with what it needs.** -/
inductive GivenOption where
  | switch (x : Switch)
  /-- A switch by its letter. -/
  | letter (x : Switch)
  | basePath (value : String)
  deriving DecidableEq, Repr

/-- **The word of an option.** A switch without a letter is written in full. -/
def GivenOption.word : GivenOption → String
  | .switch x => "--" ++ x.long
  | .letter x =>
    match x.short? with
    | some c => String.ofList ['-', c]
    | none => "--" ++ x.long
  | .basePath value => "--base-path=" ++ value

/-- **A command line**: the options, `--`, and the positional words. -/
def commandWords (options : List GivenOption) (name plural : String) (fields : List String) :
    List String :=
  options.map GivenOption.word ++ "--" :: name :: plural :: fields

end Groundwork
