import Groundwork.Text.Cluster
import Groundwork.Text.LetterCase

/-!
# Spellings of an identifier

One name is spelled in several ways: `blog_post`, `blogPost`, `BlogPost`. A name is cut into words
at underscores, hyphens and spaces and where the letter case or a digit begins a new word; the
words are then written in the spelling asked for.

* `words`: the words of a name, each a list of grapheme clusters.
* `camel`, `pascal`, `snake`: the three spellings.
-/

namespace Groundwork.Identifier

open Groundwork.Text

/-- A grapheme cluster, the unit in which a name is read. -/
abbrev Cluster := List Char

/-! ## Words -/

/-- An underscore, a hyphen or a space by itself. -/
def isSeparator (g : Cluster) : Bool := g = ['_'] || g = ['-'] || g = [' ']

/-- A cluster with two cases that stands in upper case. -/
def isUpper (g : Cluster) : Bool := upper g ≠ lower g && g = upper g

/-- A cluster with two cases that stands in lower case. -/
def isLower (g : Cluster) : Bool := upper g ≠ lower g && g = lower g

/-- A cluster of ASCII digits. -/
def isDigit (g : Cluster) : Bool := g.all fun c => '0' ≤ c && c ≤ '9'

/-- **A word ends after `g`**, by the clusters that follow it: where lower case meets upper case,
before the last capital of an acronym, and between letters and digits. -/
def endsWord (g : Cluster) : List Cluster → Bool
  | [] => false
  | h :: rest =>
    (isLower g && isUpper h)
      || (isUpper g && isUpper h && rest.head?.any isLower)
      || ((isLower g || isUpper g) && isDigit h)
      || (isDigit g && (isLower h || isUpper h))

/-- The words of the clusters that follow the unfinished word `word`; empty words are left out. -/
def wordsFrom (word : List Cluster) : List Cluster → List (List Cluster)
  | [] => if word.isEmpty then [] else [word]
  | g :: rest =>
    if isSeparator g then
      if word.isEmpty then wordsFrom [] rest else word :: wordsFrom [] rest
    else if endsWord g rest then (word ++ [g]) :: wordsFrom [] rest
    else wordsFrom (word ++ [g]) rest

/-- **The words of a name.** -/
def words (name : List Char) : List (List Cluster) := wordsFrom [] (clusters name)

/-! ## Spellings -/

/-- A word in lower case. -/
def lowerWord (word : List Cluster) : List Char := lower word.flatten

/-- A word with its first cluster in upper case and the others in lower case. -/
def capitalWord : List Cluster → List Char
  | [] => []
  | g :: rest => upper g ++ lower rest.flatten

/-- The words run together, all but the first capitalised. -/
def camelChars (name : List Char) : List Char :=
  match words name with
  | [] => []
  | first :: others => lowerWord first ++ others.flatMap capitalWord

/-- The characters with the first one in upper case. -/
def upperFirstChars : List Char → List Char
  | [] => []
  | c :: rest => upperChar c ++ rest

/-- **Camel case**: `blogPost`. -/
def camel (name : String) : String := String.ofList (camelChars name.toList)

/-- The text with its first character in upper case. -/
def upperFirst (s : String) : String := String.ofList (upperFirstChars s.toList)

/-- **Pascal case**: camel case with its first character in upper case. -/
def pascal (name : String) : String := upperFirst (camel name)

/-- **Snake case**: the words in lower case, joined by underscores. -/
def snake (name : String) : String :=
  String.ofList (['_'].intercalate ((words name.toList).map lowerWord))

end Groundwork.Identifier
