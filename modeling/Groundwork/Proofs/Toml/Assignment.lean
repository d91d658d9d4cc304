import Groundwork.Proofs.Toml.Spelling
import Groundwork.Toml.Reader

/-!
# Reading an assignment

An assignment of a document is a key, an equals sign and a value. Of values there are truth values
and arrays of texts; the texts of an array are set apart by commas with any spaces around them.

* `IsItems`: the ways to write the items of an array of texts, with its closing bracket.
* **`IsItems.readItems?`**: the items are read back.
* `readKey?_bare`, `assignUnder_of_fresh`: a key without quotes, and an assignment to a new key.
* **`readExpressions?_line`**: a line that assigns a value to a new key.
-/

namespace Groundwork.Toml

variable {cs rest written gap : List Char} {c : Char} {ts : List String}

/-! ## Gaps -/

/-- **A gap**: nothing but spaces. -/
def IsGap (gap : List Char) : Prop := ∀ c ∈ gap, isSpace c = true

theorem isSpace_iff : isSpace c = true ↔ c = ' ' ∨ c = '\t' := by
  simp [isSpace]

theorem skipBlanks_gap (hgap : IsGap gap) (hc : c ∈ ['"', ',', ']']) (rest : List Char) :
    skipBlanks false (gap ++ c :: rest) = c :: rest := by
  induction gap with
  | nil =>
    simp only [List.mem_cons, List.not_mem_nil, or_false] at hc
    rw [List.nil_append]
    rcases hc with rfl | rfl | rfl <;> simp [skipBlanks, isSpace]
  | cons g gap ih =>
    obtain ⟨hg, hgap⟩ := List.forall_mem_cons.1 hgap
    have hrest := ih hgap
    rw [List.cons_append]
    rcases isSpace_iff.1 hg with rfl | rfl <;> simpa [skipBlanks, isSpace] using hrest

/-! ## Arrays of texts -/

/-- **The ways to write the items** of an array of texts, up to its closing bracket. A comma may
follow the last one. -/
inductive IsItems : List String → List Char → Prop
  | nil {gap : List Char} (blank : IsGap gap) : IsItems [] (gap ++ [']'])
  | last {t : String} {before written after : List Char} (blankBefore : IsGap before)
      (text : IsQuoted t.toList written) (blankAfter : IsGap after) :
      IsItems [t] (before ++ (written ++ (after ++ [']'])))
  | cons {t : String} {ts : List String} {before written after more : List Char}
      (blankBefore : IsGap before) (text : IsQuoted t.toList written) (blankAfter : IsGap after)
      (items : IsItems ts more) :
      IsItems (t :: ts) (before ++ (written ++ (after ++ ',' :: more)))

theorem readValueAt?_text {t : String} (h : IsQuoted t.toList written)
    (hrest : rest.head? ≠ some '"') (fuel depth : Nat) :
    readValueAt? (fuel + 1) depth (written ++ rest) = some (.text t, rest) := by
  obtain ⟨more, hmore⟩ := isQuoted_cons_quote h
  have hread := h.readString? hrest
  rw [hmore, List.cons_append] at hread ⊢
  unfold readValueAt?
  simp only [true_or, if_true, hread, Option.map_some, String.ofList_toList]

theorem readItems?_item {t : String} {before : List Char} (hbefore : IsGap before)
    (h : IsQuoted t.toList written) (hrest : rest.head? ≠ some '"') (fuel depth : Nat) :
    readItems? (fuel + 2) depth (before ++ (written ++ rest)) =
      match skipBlanks false rest with
      | ',' :: rest => (readItems? (fuel + 1) depth rest).map fun (vs, rest) => (.text t :: vs, rest)
      | ']' :: rest => some ([.text t], rest)
      | _ => none := by
  have hvalue := readValueAt?_text h hrest fuel depth
  obtain ⟨more, hmore⟩ := isQuoted_cons_quote h
  rw [hmore, List.cons_append] at hvalue ⊢
  rw [readItems?, skipBlanks_gap hbefore (by decide)]
  cases hskip : skipBlanks false rest with
  | nil => simp [hvalue, hskip]
  | cons c rest =>
    by_cases hcomma : c = ','
    · simp [hvalue, hskip, hcomma]
    by_cases hclose : c = ']'
    · simp [hvalue, hskip, hclose]
    · simp [hvalue, hskip, hcomma, hclose]

theorem head?_gap_ne_quote (hgap : IsGap gap) (hc : c ≠ '"') :
    (gap ++ c :: rest).head? ≠ some '"' := by
  cases gap with
  | nil => simpa using hc
  | cons g gap =>
    rcases isSpace_iff.1 (hgap g List.mem_cons_self) with rfl | rfl <;> simp

/-- **The items are read back.** -/
theorem IsItems.readItems? (h : IsItems ts cs) {fuel : Nat} (hfuel : cs.length < fuel)
    (depth : Nat) (rest : List Char) :
    readItems? fuel depth (cs ++ rest) = some (ts.map .text, rest) := by
  induction h generalizing fuel with
  | nil blank =>
    obtain ⟨fuel, rfl⟩ := Nat.exists_eq_succ_of_ne_zero (Nat.ne_zero_of_lt hfuel)
    rw [List.append_assoc, List.singleton_append, Toml.readItems?,
      skipBlanks_gap blank (by decide)]
    rfl
  | @last t before written after blankBefore text blankAfter =>
    obtain ⟨fuel, rfl⟩ : ∃ n, fuel = n + 2 := by
      simp only [List.length_append, List.length_singleton] at hfuel
      exact ⟨fuel - 2, by omega⟩
    rw [List.append_assoc, List.append_assoc, List.append_assoc, List.singleton_append,
      readItems?_item blankBefore text (head?_gap_ne_quote blankAfter (by decide)),
      skipBlanks_gap blankAfter (by decide)]
    rfl
  | @cons t ts before written after more blankBefore text blankAfter _ ih =>
    simp only [List.length_append, List.length_cons] at hfuel
    obtain ⟨fuel, rfl⟩ : ∃ n, fuel = n + 2 := ⟨fuel - 2, by omega⟩
    rw [List.append_assoc, List.append_assoc, List.append_assoc, List.cons_append,
      readItems?_item blankBefore text (head?_gap_ne_quote blankAfter (by decide)),
      skipBlanks_gap blankAfter (by decide)]
    simp only [ih (by omega : more.length < fuel + 1), Option.map_some, List.map_cons]

theorem IsItems.readValue? (h : IsItems ts cs) (rest : List Char) :
    readValue? ('[' :: (cs ++ rest)) = some (.array (ts.map .text), rest) := by
  have hitems := h.readItems? (by omega : cs.length < cs.length + rest.length + 1) 78 rest
  rw [Toml.readValue?, nestingLimit, List.length_cons, List.length_append]
  unfold readValueAt?
  simp [hitems]

/-! ## Keys and line ends -/

theorem isSpace_eq_false_of_isBare (h : isBare c = true) : isSpace c = false := by
  rw [← Bool.not_eq_true, isSpace_iff]
  rintro (rfl | rfl) <;> exact absurd h (by decide)

theorem readSegment?_bare (hne : cs ≠ []) (hbare : ∀ c ∈ cs, isBare c = true) (rest : List Char) :
    readSegment? (cs ++ ' ' :: rest) = some (String.ofList cs, ' ' :: rest) := by
  obtain ⟨c, more, rfl⟩ := List.exists_cons_of_ne_nil hne
  have htake : ((c :: more) ++ ' ' :: rest).takeWhile isBare = c :: more := by
    rw [List.takeWhile_append_of_pos hbare, List.takeWhile_cons_of_neg (by decide), List.append_nil]
  have hdrop : ((c :: more) ++ ' ' :: rest).dropWhile isBare = ' ' :: rest := by
    rw [List.dropWhile_append_of_pos hbare, List.dropWhile_cons_of_neg (by decide)]
  have hc := hbare c List.mem_cons_self
  unfold readSegment?
  split
  · rename_i heq
    rw [(List.cons.inj heq).1] at hc
    exact absurd hc (by decide)
  · rename_i heq
    rw [(List.cons.inj heq).1] at hc
    exact absurd hc (by decide)
  · rw [htake, hdrop]

/-- **A key without quotes** that a space sets apart from its equals sign. -/
theorem readKey?_bare (hne : cs ≠ []) (hbare : ∀ c ∈ cs, isBare c = true) (rest : List Char) :
    readKey? (cs ++ ' ' :: '=' :: rest) = some ([], String.ofList cs, '=' :: rest) := by
  have hskip : skipSpaces (cs ++ ' ' :: '=' :: rest) = cs ++ ' ' :: '=' :: rest := by
    obtain ⟨c, more, rfl⟩ := List.exists_cons_of_ne_nil hne
    have hc := isSpace_eq_false_of_isBare (hbare c List.mem_cons_self)
    rw [List.cons_append, skipSpaces, List.dropWhile_cons_of_neg (by simp [hc])]
  have hequals : skipSpaces (' ' :: '=' :: rest) = '=' :: rest := by simp [skipSpaces, isSpace]
  have hsegments : readSegments? nestingLimit (cs ++ ' ' :: '=' :: rest) =
      some ([String.ofList cs], '=' :: rest) := by
    rw [nestingLimit, readSegments?, hskip, readSegment?_bare hne hbare]
    simp [hequals]
  rw [readKey?, hsegments]
  rfl

/-- **An assignment to a new key** sets it. -/
theorem assignUnder_of_fresh {es : Entries} {key : String} (x : Item) (h : es.get? key = none) :
    es.assignUnder [] [] key x = some (es.set key x) := by
  simp [Entries.assignUnder, Entries.assign, Entries.edit, h]

theorem endLine?_newline (rest : List Char) : endLine? ('\n' :: rest) = some rest := by
  simp [endLine?, skipSpaces, isSpace, skipComment, takeNewline?]

variable {es : Entries} {v : Value}

theorem readAssignment?_line (hne : cs ≠ []) (hbare : ∀ c ∈ cs, isBare c = true)
    (hfresh : es.get? (String.ofList cs) = none) (hspace : ∀ c ∈ written.head?, isSpace c = false)
    (hvalue : readValue? (written ++ '\n' :: rest) = some (v, '\n' :: rest)) :
    readAssignment? [] es (cs ++ ' ' :: '=' :: ' ' :: (written ++ '\n' :: rest)) =
      some (es.set (String.ofList cs) (.value v), rest) := by
  have hskip : skipSpaces (' ' :: (written ++ '\n' :: rest)) = written ++ '\n' :: rest := by
    cases written with
    | nil => simp [skipSpaces, isSpace]
    | cons c more =>
      have hc : isSpace c = false := hspace c rfl
      have hblank : isSpace ' ' = true := rfl
      simp [skipSpaces, hblank, hc]
  unfold readAssignment?
  simp only [readKey?_bare hne hbare, hskip, hvalue, assignUnder_of_fresh _ hfresh,
    endLine?_newline]

/-- After a line that assigns a value to a new key, **the reading goes on** with the key set. -/
theorem readExpressions?_line (hne : cs ≠ []) (hbare : ∀ c ∈ cs, isBare c = true)
    (hfresh : es.get? (String.ofList cs) = none) (hspace : ∀ c ∈ written.head?, isSpace c = false)
    (hvalue : readValue? (written ++ '\n' :: rest) = some (v, '\n' :: rest)) (fuel : Nat) :
    readExpressions? (fuel + 1) [] es (cs ++ ' ' :: '=' :: ' ' :: (written ++ '\n' :: rest)) =
      readExpressions? fuel [] (es.set (String.ofList cs) (.value v)) rest := by
  have hline := readAssignment?_line hne hbare hfresh hspace hvalue
  obtain ⟨c, more, rfl⟩ := List.exists_cons_of_ne_nil hne
  have hc := hbare c List.mem_cons_self
  have hother : c ≠ '#' ∧ c ≠ '\n' ∧ c ≠ '\r' ∧ c ≠ '[' := by
    refine ⟨?_, ?_, ?_, ?_⟩ <;> rintro rfl <;> exact absurd hc (by decide)
  have hskip : skipSpaces (c :: (more ++ ' ' :: '=' :: ' ' :: (written ++ '\n' :: rest))) =
      c :: (more ++ ' ' :: '=' :: ' ' :: (written ++ '\n' :: rest)) := by
    rw [skipSpaces, List.dropWhile_cons_of_neg (by simp [isSpace_eq_false_of_isBare hc])]
  rw [List.cons_append] at hline ⊢
  rw [readExpressions?, hskip]
  simp [hother, hline]

end Groundwork.Toml
