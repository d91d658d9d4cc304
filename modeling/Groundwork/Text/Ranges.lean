/-!
# Sets of code points

Properties of characters are tables over code points. A set is a list of closed ranges
(`Ranges`), a letter-case mapping a list of runs that share one shift (`Run`). The smallest of the
sets is that of the blanks; `trim` cuts them at both ends of a text.

* `Ranges.contains`: membership in a set.
* `Run.image?`: where a run sends a code point.
* `trimmed_head`, `trimmed_getLast`: what `trimChars` returns begins and ends with no blank.
-/

namespace Groundwork.Text

/-! ## Ranges and runs -/

/-- **A set of code points**: disjoint closed ranges in ascending order. -/
abbrev Ranges := List (Nat × Nat)

/-- **Membership.** The scan stops at the first range that begins above the code point. -/
def Ranges.contains : Ranges → Nat → Bool
  | [], _ => false
  | (first, last) :: rest, n => if n < first then false else n ≤ last || Ranges.contains rest n

/-- **A run of a mapping**: from `first` to `last` every `step`-th code point moves by `shift`. -/
structure Run where
  first : Nat
  last : Nat
  step : Nat
  shift : Int

/-- The image of a code point that the run holds. -/
def Run.image? (r : Run) (n : Nat) : Option Nat :=
  if r.first ≤ n ∧ n ≤ r.last ∧ (n - r.first) % r.step = 0 then some (n + r.shift).toNat else none

/-! ## Blanks -/

/-- **White space**: tabs, line ends, the spaces of every width and the two separators. -/
def whiteSpace : Ranges :=
  [(0x9, 0xD), (0x20, 0x20), (0x85, 0x85), (0xA0, 0xA0), (0x1680, 0x1680), (0x2000, 0x200A),
    (0x2028, 0x2029), (0x202F, 0x202F), (0x205F, 0x205F), (0x3000, 0x3000)]

/-- A white-space character. -/
def isBlank (c : Char) : Bool := whiteSpace.contains c.toNat

/-- The characters without the blanks at their end. -/
def trimEnd : List Char → List Char
  | [] => []
  | c :: rest =>
    match trimEnd rest with
    | [] => if isBlank c then [] else [c]
    | d :: more => c :: d :: more

/-- The characters without the blanks at both ends. -/
def trimChars (cs : List Char) : List Char := trimEnd (cs.dropWhile isBlank)

/-- The text without the blanks at both ends. -/
def trim (s : String) : String := String.ofList (trimChars s.toList)

/-- **The last character left is not blank.** -/
theorem trimmed_getLast {cs : List Char} {c : Char} (h : (trimEnd cs).getLast? = some c) :
    isBlank c = false := by
  induction cs generalizing c with
  | nil => simp [trimEnd] at h
  | cons d rest ih =>
    rw [trimEnd] at h
    cases hr : trimEnd rest with
    | cons e more => rw [hr] at h ih; exact ih (by simpa [List.getLast?_cons_cons] using h)
    | nil =>
      rw [hr] at h
      cases hd : isBlank d <;> simp [hd] at h
      exact h ▸ hd

/-- **The first character left is not blank.** -/
theorem trimmed_head {cs : List Char} {c : Char} (h : (trimChars cs).head? = some c) :
    isBlank c = false := by
  unfold trimChars at h
  cases hd : cs.dropWhile isBlank with
  | nil => simp [hd, trimEnd] at h
  | cons d rest =>
    have hb : isBlank d = false := by
      have := List.head?_dropWhile_not isBlank cs
      rw [hd] at this
      simpa using this
    rw [hd, trimEnd] at h
    cases hr : trimEnd rest with
    | cons e more => rw [hr] at h; simp at h; exact h ▸ hb
    | nil => rw [hr] at h; simp [hb] at h; exact h ▸ hb

end Groundwork.Text
