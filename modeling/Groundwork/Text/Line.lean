/-!
# Lines of input

Input is a row of bytes, read line by line. A line ends with its line feed; the last one may lack
it.

* `takeLine?`: the first line and what follows it.
* `inputLines`: all lines.
* **`inputLines_cons`**: reading one line after another gives the lines in order.
* **`isLines_inputLines`**: these are the lines that the line feeds make of the input.
* `decode?`: the text of bytes, if they are UTF-8.
-/

namespace Groundwork.Text

/-- The bytes up to and with the first line feed, and the rest. -/
def splitLine : List UInt8 → List UInt8 × List UInt8
  | [] => ([], [])
  | b :: rest =>
    if b = 10 then ([b], rest)
    else ((b :: (splitLine rest).1), (splitLine rest).2)

/-- **The first line** and what follows it; none at the end of the input. -/
def takeLine? (input : List UInt8) : Option (List UInt8 × List UInt8) :=
  if input = [] then none else some (splitLine input)

theorem length_splitLine_lt (b : UInt8) (rest : List UInt8) :
    (splitLine (b :: rest)).2.length < (b :: rest).length := by
  have h : ∀ bs : List UInt8, (splitLine bs).2.length ≤ bs.length := by
    intro bs
    induction bs with
    | nil => simp [splitLine]
    | cons c cs ih => rw [splitLine]; split <;> simp; omega
  rw [splitLine]
  split
  · simp
  · have := h rest
    simp only [List.length_cons]
    omega

/-- **The lines of an input**, each with its line feed. -/
def inputLines : List UInt8 → List (List UInt8)
  | [] => []
  | b :: rest => (splitLine (b :: rest)).1 :: inputLines (splitLine (b :: rest)).2
termination_by bs => bs.length
decreasing_by exact length_splitLine_lt b rest

/-- **Reading one line after another gives the lines in order.** -/
theorem inputLines_cons {input line rest : List UInt8} (h : takeLine? input = some (line, rest)) :
    inputLines input = line :: inputLines rest := by
  cases input with
  | nil => simp [takeLine?] at h
  | cons b bs =>
    simp only [takeLine?, reduceCtorEq, if_false, Option.some.injEq] at h
    rw [inputLines, h]

theorem inputLines_of_takeLine?_none {input : List UInt8} (h : takeLine? input = none) :
    inputLines input = [] := by
  cases input with
  | nil => simp [inputLines]
  | cons b bs => simp [takeLine?] at h

theorem splitLine_cases (input : List UInt8) :
    (∃ body, 10 ∉ body ∧ input = body ++ 10 :: (splitLine input).2 ∧
      (splitLine input).1 = body ++ [10]) ∨ 10 ∉ input ∧ splitLine input = (input, []) := by
  induction input with
  | nil => exact .inr ⟨by simp, rfl⟩
  | cons b rest ih =>
    rw [splitLine]
    by_cases hb : b = 10
    · subst hb
      exact .inl ⟨[], by simp, by simp, by simp⟩
    · have hne : (10 : UInt8) ≠ b := fun h => hb h.symm
      rw [if_neg hb]
      rcases ih with ⟨body, hbody, hrest, hline⟩ | ⟨hrest, hline⟩
      · refine .inl ⟨b :: body, by simp [hne, hbody], ?_, by simp [hline]⟩
        simpa using hrest
      · exact .inr ⟨by simp [hne, hrest], by simp [hline]⟩

/-- **The lines of an input.** Each is ended by its only line feed; the last one may lack it, if
there is anything in it. -/
inductive IsLines : List UInt8 → List (List UInt8) → Prop
  | nil : IsLines [] []
  | last {body : List UInt8} (some : body ≠ []) (open_ : 10 ∉ body) : IsLines body [body]
  | cons {body rest : List UInt8} {lines : List (List UInt8)} (open_ : 10 ∉ body)
      (more : IsLines rest lines) : IsLines (body ++ 10 :: rest) ((body ++ [10]) :: lines)

theorem IsLines.flatten {input : List UInt8} {lines : List (List UInt8)}
    (h : IsLines input lines) : lines.flatten = input := by
  induction h with
  | nil => rfl
  | last => simp
  | cons _ _ ih => simp [ih]

/-- **These are the lines that the line feeds make of the input.** -/
theorem isLines_inputLines (input : List UInt8) : IsLines input (inputLines input) := by
  induction input using inputLines.induct with
  | case1 =>
    rw [inputLines]
    exact .nil
  | case2 b rest ih =>
    rw [inputLines]
    rcases splitLine_cases (b :: rest) with ⟨body, hbody, hinput, hline⟩ | ⟨hopen, hline⟩
    · have hlines := IsLines.cons hbody ih
      rwa [← hinput, ← hline] at hlines
    · rw [hline, inputLines]
      exact .last (List.cons_ne_nil b rest) hopen

/-- **The text of bytes**, if they are UTF-8. -/
def decode? (bytes : List UInt8) : Option String := String.fromUTF8? ⟨bytes.toArray⟩

/-- The bytes of a text. -/
def encode (s : String) : List UInt8 := s.toUTF8.data.toList

end Groundwork.Text
