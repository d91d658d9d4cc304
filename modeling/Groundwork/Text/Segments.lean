/-!
# Segments of a text

`segments sep` cuts a text at every `sep`; there is always one segment more than there are
separators.

* **`segments_append_cons`**: a separator sets two texts apart.
* **`intercalate_segments`**: joined again by the separator, the segments are the text.
* `not_mem_of_mem_segments`: no segment holds the separator.
-/

namespace Groundwork.Text

/-- **The segments** of a text between the separators. -/
def segments (sep : Char) : List Char → List (List Char)
  | [] => [[]]
  | c :: rest =>
    if c = sep then [] :: segments sep rest
    else
      match segments sep rest with
      | [] => [[c]]
      | s :: more => (c :: s) :: more

theorem segments_ne_nil (sep : Char) (cs : List Char) : segments sep cs ≠ [] := by
  cases cs with
  | nil => simp [segments]
  | cons c rest =>
    rw [segments]
    split
    · simp
    · split <;> simp

theorem segments_of_not_mem {sep : Char} {cs : List Char} (h : sep ∉ cs) :
    segments sep cs = [cs] := by
  induction cs with
  | nil => rfl
  | cons c rest ih =>
    simp only [List.mem_cons, not_or] at h
    rw [segments, if_neg (Ne.symm h.1), ih h.2]

theorem head?_segments (sep : Char) (cs : List Char) :
    (segments sep cs).head? = some (cs.takeWhile (· ≠ sep)) := by
  induction cs with
  | nil => rfl
  | cons c rest ih =>
    rw [segments]
    by_cases hc : c = sep
    · simp [hc]
    · rw [if_neg hc]
      cases hrest : segments sep rest with
      | nil => exact absurd hrest (segments_ne_nil sep rest)
      | cons s more =>
        rw [hrest, List.head?_cons, Option.some.injEq] at ih
        rw [ih]
        simp [hc]

/-- **A separator sets two texts apart.** -/
theorem segments_append_cons (sep : Char) (as bs : List Char) :
    segments sep (as ++ sep :: bs) = segments sep as ++ segments sep bs := by
  induction as with
  | nil => simp [segments]
  | cons a as ih =>
    rw [List.cons_append, segments, segments, ih]
    split
    · rfl
    · cases h : segments sep as with
      | nil => exact absurd h (segments_ne_nil sep as)
      | cons s more => rfl

/-- **Nothing is lost.** -/
theorem intercalate_segments (sep : Char) (cs : List Char) :
    [sep].intercalate (segments sep cs) = cs := by
  induction cs with
  | nil => rfl
  | cons c rest ih =>
    rw [segments]
    cases h : segments sep rest with
    | nil => exact absurd h (segments_ne_nil sep rest)
    | cons s more =>
      rw [h] at ih
      by_cases hc : c = sep
      · simp [hc, List.intercalate] at ih ⊢; exact ih
      · cases more <;> simp [hc, List.intercalate] at ih ⊢ <;> exact ih

theorem not_mem_of_mem_segments {sep : Char} {cs s : List Char} (h : s ∈ segments sep cs) :
    sep ∉ s := by
  induction cs generalizing s with
  | nil => simp [segments] at h; simp [h]
  | cons c rest ih =>
    rw [segments] at h
    split at h
    · rcases List.mem_cons.1 h with rfl | h
      · simp
      · exact ih h
    · rename_i hc
      cases hr : segments sep rest with
      | nil => exact absurd hr (segments_ne_nil sep rest)
      | cons s' more =>
        rw [hr] at h
        rcases List.mem_cons.1 h with rfl | h
        · have := ih (s := s') (by simp [hr])
          simp only [List.mem_cons, not_or]
          exact ⟨fun e => hc e.symm, this⟩
        · exact ih (by simp [hr, h])

end Groundwork.Text
