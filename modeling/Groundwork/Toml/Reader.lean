import Groundwork.Toml.Basic
import Groundwork.Toml.Quoted

/-!
# Reading a document

A document is a row of expressions: assignments and headers, each on a line of its own, with blank
lines and comments between them. The reader takes them one by one; its fuel is the length of the
text, and every step reads a character.

* `readKey?`: a dotted key.
* `readValue?`: a value.
* `readDocument?`: the entries of a document.
-/

namespace Groundwork.Toml

/-- The deepest nesting of arrays and inline tables, and the longest dotted key. -/
def nestingLimit : Nat := 79

/-! ## Blanks and comments -/

/-- A space or a tab. -/
def isSpace (c : Char) : Bool := c = ' ' || c = '\t'

/-- What follows spaces. -/
def skipSpaces (cs : List Char) : List Char := cs.dropWhile isSpace

/-- What follows a comment, if there is one. -/
def skipComment : List Char → List Char
  | '#' :: rest => rest.dropWhile isPlain
  | cs => cs

/-- What follows spaces and a comment, if the line ends there. -/
def endLine? (cs : List Char) : Option (List Char) :=
  match skipComment (skipSpaces cs) with
  | [] => some []
  | c :: rest => takeNewline? (c :: rest)

/-- What follows spaces, line ends and comments inside an array. -/
def skipBlanks (inComment : Bool) : List Char → List Char
  | [] => []
  | c :: rest =>
    if c = '\n' then skipBlanks false rest
    else if inComment then
      match c, rest with
      | '\r', '\n' :: rest => skipBlanks false rest
      | c, rest => if isPlain c then skipBlanks true rest else c :: rest
    else
      match c, rest with
      | '\r', '\n' :: rest => skipBlanks false rest
      | '#', rest => skipBlanks true rest
      | c, rest => if isSpace c then skipBlanks false rest else c :: rest

/-! ## Keys -/

/-- A character of a bare key. -/
def isBare (c : Char) : Bool :=
  ('a' ≤ c && c ≤ 'z') || ('A' ≤ c && c ≤ 'Z') || isDigit c || c = '_' || c = '-'

/-- One segment of a key: bare, or a string of one line. -/
def readSegment? : List Char → Option (String × List Char)
  | '"' :: rest => (readBasic rest).map fun (s, rest) => (String.ofList s, rest)
  | '\'' :: rest => (readLiteral rest).map fun (s, rest) => (String.ofList s, rest)
  | cs =>
    match cs.takeWhile isBare with
    | [] => none
    | c :: bare => some (String.ofList (c :: bare), cs.dropWhile isBare)

/-- The segments of a dotted key, with spaces around each. -/
def readSegments? : Nat → List Char → Option (List String × List Char)
  | 0, _ => none
  | fuel + 1, cs =>
    match readSegment? (skipSpaces cs) with
    | none => none
    | some (segment, rest) =>
      match skipSpaces rest with
      | '.' :: rest => (readSegments? fuel rest).map fun (more, rest) => (segment :: more, rest)
      | rest => some ([segment], rest)

/-- **A dotted key**: the path and its last segment. -/
def readKey? (cs : List Char) : Option (List String × String × List Char) :=
  match readSegments? nestingLimit cs with
  | none => none
  | some (segments, rest) => segments.getLast?.map fun key => (segments.dropLast, key, rest)

/-! ## Values -/

/-- A character that ends a number, a date or a word. -/
def endsToken (c : Char) : Bool :=
  isSpace c || c = '\n' || c = '\r' || c = ',' || c = ']' || c = '\x7d' || c = '#'

/-- A truth value, a number or a date. A date may be set apart from its time by one space. -/
def readToken? (cs : List Char) : Option (Value × List Char) :=
  let token := cs.takeWhile (!endsToken ·)
  let rest := cs.dropWhile (!endsToken ·)
  if token = ['t', 'r', 'u', 'e'] then some (.boolean true, rest)
  else if token = ['f', 'a', 'l', 's', 'e'] then some (.boolean false, rest)
  else if isDate token then
    let time := (rest.drop 1).takeWhile (!endsToken ·)
    if rest.head? = some ' ' && isTime true time then
      some (.scalar, (rest.drop 1).dropWhile (!endsToken ·))
    else some (.scalar, rest)
  else if isScalar token then some (.scalar, rest)
  else none

mutual

/-- **A value** nested at most so deep. -/
def readValueAt? : Nat → Nat → List Char → Option (Value × List Char)
  | 0, _, _ => none
  | fuel + 1, depth, cs =>
    match cs with
    | [] => none
    | c :: rest =>
      if c = '"' ∨ c = '\'' then
        (readString? (c :: rest)).map fun (s, rest) => (.text (String.ofList s), rest)
      else if c = '[' then
        match depth with
        | 0 => none
        | depth + 1 => (readItems? fuel depth rest).map fun (vs, rest) => (.array vs, rest)
      else if c = '\x7b' then
        match depth with
        | 0 => none
        | depth + 1 =>
          match skipSpaces rest with
          | '\x7d' :: rest => some (.inline, rest)
          | rest => readPairs? fuel depth [] rest
      else readToken? (c :: rest)

/-- The items of an array, up to its closing bracket; a comma may follow the last one. -/
def readItems? : Nat → Nat → List Char → Option (List Value × List Char)
  | 0, _, _ => none
  | fuel + 1, depth, cs =>
    match skipBlanks false cs with
    | ']' :: rest => some ([], rest)
    | cs =>
      match readValueAt? fuel depth cs with
      | none => none
      | some (v, rest) =>
        match skipBlanks false rest with
        | ',' :: rest => (readItems? fuel depth rest).map fun (vs, rest) => (v :: vs, rest)
        | ']' :: rest => some ([v], rest)
        | _ => none

/-- The assignments of an inline table, up to its closing brace; no comma follows the last one. -/
def readPairs? : Nat → Nat → Entries → List Char → Option (Value × List Char)
  | 0, _, _, _ => none
  | fuel + 1, depth, es, cs =>
    match readKey? cs with
    | some (path, key, '=' :: rest) =>
      match readValueAt? fuel depth (skipSpaces rest) with
      | none => none
      | some (v, rest) =>
        match es.assign path key (.value v), skipSpaces rest with
        | some es, ',' :: rest => readPairs? fuel depth es rest
        | some _, '\x7d' :: rest => some (.inline, rest)
        | _, _ => none
    | _ => none

end

/-- **A value**, and what follows it. -/
def readValue? (cs : List Char) : Option (Value × List Char) :=
  readValueAt? (cs.length + 1) nestingLimit cs

/-! ## Expressions -/

/-- An assignment under a header, and what follows its line. -/
def readAssignment? (header : List String) (es : Entries) (cs : List Char) :
    Option (Entries × List Char) :=
  match readKey? cs with
  | some (path, key, '=' :: rest) =>
    match readValue? (skipSpaces rest) with
    | none => none
    | some (v, rest) =>
      match es.assignUnder header path key (.value v), endLine? rest with
      | some es, some rest => some (es, rest)
      | _, _ => none
  | _ => none

/-- A header after its opening bracket, with the change it makes, and what follows its line. -/
def readHeader? (es : Entries) : List Char → Option (List String × Entries × List Char)
  | '[' :: rest =>
    match readKey? rest with
    | some (path, key, ']' :: ']' :: rest) =>
      match es.openMember? path key, endLine? rest with
      | some es, some rest => some (path ++ [key], es, rest)
      | _, _ => none
    | _ => none
  | rest =>
    match readKey? rest with
    | some (path, key, ']' :: rest) =>
      match es.open? path key, endLine? rest with
      | some es, some rest => some (path ++ [key], es, rest)
      | _, _ => none
    | _ => none

/-- The expressions of a document after a header, added to the entries so far. -/
def readExpressions? : Nat → List String → Entries → List Char → Option Entries
  | 0, _, _, _ => none
  | fuel + 1, header, es, cs =>
    match skipSpaces cs with
    | [] => some es
    | c :: rest =>
      if c = '#' then
        match endLine? (c :: rest) with
        | none => none
        | some rest => readExpressions? fuel header es rest
      else if c = '\n' ∨ c = '\r' then
        match takeNewline? (c :: rest) with
        | none => none
        | some rest => readExpressions? fuel header es rest
      else if c = '[' then
        match readHeader? es rest with
        | none => none
        | some (header, es, rest) => readExpressions? fuel header es rest
      else
        match readAssignment? header es (c :: rest) with
        | none => none
        | some (es, rest) => readExpressions? fuel header es rest

/-- What follows a byte order mark. -/
def dropMark : List Char → List Char
  | '\uFEFF' :: rest => rest
  | cs => cs

/-- **The entries of a document.** -/
def readDocument? (s : String) : Option Entries :=
  readExpressions? (s.toList.length + 1) [] [] (dropMark s.toList)

end Groundwork.Toml
