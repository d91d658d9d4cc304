import Groundwork.Toml.Scalar

/-!
# Strings of a document

A string stands between quotes. Between double quotes a backslash begins an escape, between single
ones every character stands for itself; three quotes begin a string of several lines.

* `readBasic`, `readLiteral`: a string of one line, after its opening quote.
* `readLongBasic`, `readLongLiteral`: a string of several lines, after its opening quotes.
* `writeBasic`: a string between double quotes.
-/

namespace Groundwork.Toml

/-! ## Characters -/

/-- A character that may stand in a string or a comment: no control but the tab. -/
def isPlain (c : Char) : Bool := c = '\t' || (0x20 ≤ c.toNat && c.toNat ≠ 0x7F)

/-- The characters of escapes of one letter. -/
def simpleEscape? (c : Char) : Option Char :=
  if c = 'b' then some '\x08'
  else if c = 't' then some '\t'
  else if c = 'n' then some '\n'
  else if c = 'f' then some '\x0c'
  else if c = 'r' then some '\r'
  else if c = '"' then some '"'
  else if c = '\\' then some '\\'
  else none

/-- The character of a code point, if there is one. -/
def charOf? (n : Nat) : Option Char := if n.isValidChar then some (Char.ofNat n) else none

/-- A character in front of what was read. -/
def push (c : Char) : Option (List Char × List Char) → Option (List Char × List Char) :=
  Option.map fun (body, rest) => (c :: body, rest)

/-! ## Strings of one line -/

/-- Where the reader of a basic string stands: in plain text, after a backslash, or in an escape
of which some digits are left. -/
inductive Escape where
  | none
  | begun
  | digits (left value : Nat)
  deriving DecidableEq, Repr

/-- The state after a digit, and the character that it completes. -/
def escapeDigit? (left value : Nat) (c : Char) : Option (Escape × Option Char) :=
  match digitValue? c with
  | Option.none => Option.none
  | some d =>
    if left ≤ 1 then (charOf? (value * 16 + d)).map fun x => (.none, some x)
    else some (.digits (left - 1) (value * 16 + d), Option.none)

/-- The state after the letter of an escape, and the character that it completes. -/
def escapeLetter? (c : Char) : Option (Escape × Option Char) :=
  if c = 'u' then some (.digits 4 0, Option.none)
  else if c = 'U' then some (.digits 8 0, Option.none)
  else (simpleEscape? c).map fun x => (.none, some x)

/-- An optional character in front of what was read. -/
def pushOption (x : Option Char) (r : Option (List Char × List Char)) :
    Option (List Char × List Char) :=
  match x with
  | Option.none => r
  | some c => push c r

/-- The rest of a basic string, up to its closing quote, and what follows. -/
def readBasicFrom (e : Escape) : List Char → Option (List Char × List Char)
  | [] => Option.none
  | c :: rest =>
    match e with
    | .begun =>
      match escapeLetter? c with
      | Option.none => Option.none
      | some (e, x) => pushOption x (readBasicFrom e rest)
    | .digits left value =>
      match escapeDigit? left value c with
      | Option.none => Option.none
      | some (e, x) => pushOption x (readBasicFrom e rest)
    | .none =>
      if c = '"' then some ([], rest)
      else if c = '\\' then readBasicFrom .begun rest
      else if isPlain c then push c (readBasicFrom .none rest)
      else Option.none

/-- **A string between double quotes**, after the first one. -/
def readBasic : List Char → Option (List Char × List Char) := readBasicFrom .none

/-- **A string between single quotes**, after the first one. -/
def readLiteral : List Char → Option (List Char × List Char)
  | [] => Option.none
  | c :: rest =>
    if c = '\'' then some ([], rest)
    else if isPlain c then push c (readLiteral rest)
    else Option.none

/-! ## Strings of several lines -/

/-- A line end at the beginning, and what follows it. -/
def takeNewline? : List Char → Option (List Char)
  | '\n' :: rest => some rest
  | '\r' :: '\n' :: rest => some rest
  | _ => Option.none

/-- What follows a line end that stands directly after the opening quotes. -/
def dropNewline (cs : List Char) : List Char := (takeNewline? cs).getD cs

/-- The end of a long string: three quotes, before which up to two more belong to the string. -/
def closeLong? (q : Char) (cs : List Char) : Option (List Char × List Char) :=
  let quotes := (cs.takeWhile (· = q)).length
  if quotes < 3 then Option.none
  else some (List.replicate (min quotes 5 - 3) q, cs.drop (min quotes 5))

/-- Where the reader of a long basic string stands; after a backslash at the end of a line it
skips blanks, and has to have seen that end. -/
inductive LongEscape where
  | within (e : Escape)
  | skipping (ended : Bool)
  deriving DecidableEq, Repr

/-- The rest of a long basic string. -/
def readLongBasicFrom (e : LongEscape) : List Char → Option (List Char × List Char)
  | [] => Option.none
  | c :: rest =>
    match e with
    | .within .begun =>
      if c = ' ' ∨ c = '\t' then readLongBasicFrom (.skipping false) rest
      else if c = '\n' then readLongBasicFrom (.skipping true) rest
      else if c = '\r' then
        match rest with
        | '\n' :: rest => readLongBasicFrom (.skipping true) rest
        | _ => Option.none
      else
        match escapeLetter? c with
        | Option.none => Option.none
        | some (e, x) => pushOption x (readLongBasicFrom (.within e) rest)
    | .within (.digits left value) =>
      match escapeDigit? left value c with
      | Option.none => Option.none
      | some (e, x) => pushOption x (readLongBasicFrom (.within e) rest)
    | .skipping ended =>
      if c = ' ' ∨ c = '\t' then readLongBasicFrom (.skipping ended) rest
      else if c = '\n' then readLongBasicFrom (.skipping true) rest
      else
        match c, rest with
        | '\r', '\n' :: rest => readLongBasicFrom (.skipping true) rest
        | c, rest =>
          if !ended then Option.none
          else
            match closeLong? '"' (c :: rest) with
            | some closed => some closed
            | Option.none =>
              if c = '\\' then readLongBasicFrom (.within .begun) rest
              else if isPlain c then push c (readLongBasicFrom (.within .none) rest)
              else Option.none
    | .within .none =>
      match closeLong? '"' (c :: rest) with
      | some closed => some closed
      | Option.none =>
        if c = '\\' then readLongBasicFrom (.within .begun) rest
        else if c = '\n' then push '\n' (readLongBasicFrom (.within .none) rest)
        else
          match c, rest with
          | '\r', '\n' :: rest => push '\n' (readLongBasicFrom (.within .none) rest)
          | c, rest =>
            if isPlain c then push c (readLongBasicFrom (.within .none) rest) else Option.none

/-- **A long string between double quotes**, after the opening ones. -/
def readLongBasic (cs : List Char) : Option (List Char × List Char) :=
  readLongBasicFrom (.within .none) (dropNewline cs)

/-- The rest of a long literal string. -/
def readLongLiteralFrom : List Char → Option (List Char × List Char)
  | [] => Option.none
  | c :: rest =>
    match closeLong? '\'' (c :: rest) with
    | some closed => some closed
    | Option.none =>
      if c = '\n' then push '\n' (readLongLiteralFrom rest)
      else
        match c, rest with
        | '\r', '\n' :: rest => push '\n' (readLongLiteralFrom rest)
        | c, rest => if isPlain c then push c (readLongLiteralFrom rest) else Option.none

/-- **A long string between single quotes**, after the opening ones. -/
def readLongLiteral (cs : List Char) : Option (List Char × List Char) :=
  readLongLiteralFrom (dropNewline cs)

/-- **Any string**, with its opening quotes. -/
def readString? : List Char → Option (List Char × List Char)
  | '"' :: '"' :: '"' :: rest => readLongBasic rest
  | '"' :: rest => readBasic rest
  | '\'' :: '\'' :: '\'' :: rest => readLongLiteral rest
  | '\'' :: rest => readLiteral rest
  | _ => Option.none

/-! ## Writing -/

/-- The last hexadecimal digit of a number. -/
def hexDigit (n : Nat) : Char := Nat.digitChar (n % 16)

/-- A character between double quotes: quotes, backslashes and controls are escaped. -/
def writeChar (c : Char) : List Char :=
  if c = '"' then ['\\', '"']
  else if c = '\\' then ['\\', '\\']
  else if isPlain c then [c]
  else ['\\', 'u', '0', '0', hexDigit (c.toNat / 16), hexDigit c.toNat]

/-- **A string between double quotes.** -/
def writeBasic (cs : List Char) : List Char := '"' :: (cs.flatMap writeChar ++ ['"'])

end Groundwork.Toml
