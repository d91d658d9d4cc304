import Groundwork.Text.Segments

/-!
# Paths

A path is a text whose pieces are separated by slashes. Joining and parents work on the text
alone and normalise nothing but what they have to cut.

* `Path.join`: a path below another one; an absolute path replaces it.
* `Path.parent?`: the path without its last piece.
* **`Path.length_lt_of_parent?`**: a parent is shorter, so `Path.ancestors` ends.
-/

namespace Groundwork

open Text (segments)

/-- **A path**, as it is written. -/
structure Path where
  text : String
  deriving DecidableEq, Repr

namespace Path

/-! ## Pieces -/

/-- The path begins at the root. -/
def isAbsolute (p : Path) : Bool := p.text.toList.head? = some '/'

/-- The last character is a slash. -/
def endsInSlash (p : Path) : Bool := p.text.toList.getLast? = some '/'

/-- **The pieces** between the slashes; empty ones do not count. -/
def pieces (p : Path) : List String :=
  ((segments '/' p.text.toList).filter (· ≠ [])).map String.ofList

/-- The path climbs: one of its pieces is `..`. -/
def climbs (p : Path) : Bool := p.pieces.contains ".."

/-! ## Joining -/

/-- **The path `q` below `p`.** An absolute path stands for itself; between the two stands a
slash, unless `p` is empty or ends in one. -/
def join (p q : Path) : Path :=
  if q.isAbsolute then q
  else if p.text = "" ∨ p.endsInSlash then ⟨p.text ++ q.text⟩
  else ⟨p.text ++ "/" ++ q.text⟩

/-- The segments joined one below the other. -/
def ofSegments (parts : List String) : Path := parts.foldl (fun p s => p.join ⟨s⟩) ⟨""⟩

/-! ## Parents -/

/-- The leading characters that no piece accounts for: the root's slash, or a dot that names the
current directory; and the rest. -/
def splitLead : List Char → List Char × List Char
  | '/' :: rest => (['/'], rest)
  | ['.'] => (['.'], [])
  | '.' :: '/' :: rest => (['.'], '/' :: rest)
  | cs => ([], cs)

/-- Of reversed characters, what is left without the empty and dot pieces in front. -/
def dropIdle : List Char → List Char
  | '/' :: rest => dropIdle rest
  | ['.'] => []
  | '.' :: '/' :: rest => dropIdle rest
  | cs => cs

/-- Of reversed characters, what is left without the piece in front and its slash. -/
def dropPiece (cs : List Char) : List Char := (cs.dropWhile (· ≠ '/')).drop 1

/-- The characters of the parent; a lead that is a single dot has the empty one. -/
def parentChars (cs : List Char) : Option (List Char) :=
  match dropIdle (splitLead cs).2.reverse with
  | [] => if (splitLead cs).1 = ['.'] then some [] else none
  | c :: body => some ((splitLead cs).1 ++ (dropIdle (dropPiece (c :: body))).reverse)

/-- **The path without its last piece.** The root and the empty path have no parent. -/
def parent? (p : Path) : Option Path := (parentChars p.text.toList).map fun cs => ⟨String.ofList cs⟩

theorem length_dropIdle_le (cs : List Char) : (dropIdle cs).length ≤ cs.length := by
  fun_induction dropIdle cs with
  | case1 rest ih => simp; omega
  | case2 => simp
  | case3 rest ih => simp; omega
  | case4 => simp

theorem length_dropPiece_lt {cs : List Char} (h : cs ≠ []) :
    (dropPiece cs).length < cs.length := by
  have hd : (cs.dropWhile (· ≠ '/')).length ≤ cs.length :=
    (List.dropWhile_sublist _).length_le
  have : 0 < cs.length := List.length_pos_iff.2 h
  simp only [dropPiece, List.length_drop]
  omega

theorem length_splitLead (cs : List Char) :
    (splitLead cs).1.length + (splitLead cs).2.length = cs.length := by
  fun_cases splitLead cs <;> simp <;> omega

theorem length_parentChars_lt {cs ds : List Char} (h : parentChars cs = some ds) :
    ds.length < cs.length := by
  have hl := length_splitLead cs
  unfold parentChars at h
  split at h
  · split at h
    · rename_i hd
      obtain rfl := Option.some.inj h
      rw [hd] at hl
      simp at hl ⊢
      omega
    · exact absurd h (by simp)
  · rename_i c body hb
    obtain rfl := Option.some.inj h
    have h1 := length_dropIdle_le (dropPiece (c :: body))
    have h2 := length_dropPiece_lt (List.cons_ne_nil c body)
    have h3 := length_dropIdle_le (splitLead cs).2.reverse
    rw [hb] at h3
    simp only [List.length_append, List.length_reverse] at h3 ⊢
    omega

/-- **A parent is shorter.** -/
theorem length_lt_of_parent? {p q : Path} (h : p.parent? = some q) :
    q.text.toList.length < p.text.toList.length := by
  obtain ⟨cs, hc, rfl⟩ := Option.map_eq_some_iff.1 h
  simpa using length_parentChars_lt hc

/-- **The path, its parent, the parent of that, and so on.** -/
def ancestors (p : Path) : List Path :=
  p :: match _h : p.parent? with
    | none => []
    | some q => ancestors q
termination_by p.text.toList.length
decreasing_by exact length_lt_of_parent? _h

end Path

end Groundwork
