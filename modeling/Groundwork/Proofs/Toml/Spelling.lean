import Groundwork.Toml.Quoted
import Mathlib.Data.List.Forall2

/-!
# Ways to write a text

Between double quotes a character is written as it is, by the letter of an escape, or by the digits
of its code point. Quotes, backslashes and controls have to be escaped, a tab may be. However a text
is written, it is read back.

* `Spells`, `IsQuoted`: the ways to write a character and a text.
* **`Spells.readBasicFrom`**, **`IsQuoted.readString?`**: what is written is read back.
* `isQuoted_writeBasic`: one of the ways.
-/

namespace Groundwork.Toml

/-! ## Characters -/

/-- **The ways to write a character** between double quotes. -/
inductive Spells (c : Char) : List Char → Prop
  | plain (plain : isPlain c = true) (quote : c ≠ '"') (backslash : c ≠ '\\') : Spells c [c]
  | letter {x : Char} (escape : simpleEscape? x = some c) : Spells c ['\\', x]
  | short {ds : List Char} (length : ds.length = 4) (digits : ∀ x ∈ ds, isDigitOf 16 x = true)
      (value : digitsValue 16 ds = c.toNat) : Spells c ('\\' :: 'u' :: ds)
  | long {ds : List Char} (length : ds.length = 8) (digits : ∀ x ∈ ds, isDigitOf 16 x = true)
      (value : digitsValue 16 ds = c.toNat) : Spells c ('\\' :: 'U' :: ds)

theorem isDigitOf_iff {base : Nat} {x : Char} :
    isDigitOf base x = true ↔ ∃ v, digitValue? x = some v ∧ v < base := by
  unfold isDigitOf
  cases digitValue? x <;> simp

/-- The number that digits spell after a number that was read before them. -/
def digitsFrom (n : Nat) (ds : List Char) : Nat :=
  (ds.filterMap digitValue?).foldl (fun n d => n * 16 + d) n

theorem digitsFrom_cons {n v : Nat} {x : Char} {ds : List Char} (h : digitValue? x = some v) :
    digitsFrom n (x :: ds) = digitsFrom (n * 16 + v) ds := by
  rw [digitsFrom, List.filterMap_cons_some h]
  rfl

theorem escapeDigit?_last {n v : Nat} {x c : Char} (hx : digitValue? x = some v)
    (hc : n * 16 + v = c.toNat) : escapeDigit? 1 n x = some (.none, some c) := by
  have hchar : charOf? c.toNat = some c := by
    rw [charOf?, if_pos (show c.toNat.isValidChar from c.valid), Char.ofNat_toNat]
  simp [escapeDigit?, hx, hc, hchar]

theorem escapeDigit?_more {left n v : Nat} {x : Char} (hx : digitValue? x = some v) :
    escapeDigit? (left + 2) n x = some (.digits (left + 1) (n * 16 + v), none) := by
  simp [escapeDigit?, hx]

theorem readBasicFrom_digits {k : Nat} {ds : List Char} (hlength : ds.length = k + 1)
    (hdigits : ∀ x ∈ ds, isDigitOf 16 x = true) (n : Nat) {c : Char} (rest : List Char)
    (hvalue : digitsFrom n ds = c.toNat) :
    readBasicFrom (.digits (k + 1) n) (ds ++ rest) = push c (readBasicFrom .none rest) := by
  induction k generalizing ds n with
  | zero =>
    obtain ⟨x, rfl⟩ := List.length_eq_one_iff.1 hlength
    obtain ⟨v, hv, -⟩ := isDigitOf_iff.1 (hdigits x List.mem_cons_self)
    rw [digitsFrom_cons hv] at hvalue
    rw [List.singleton_append, readBasicFrom]
    simp only [escapeDigit?_last hv hvalue, pushOption]
  | succ k ih =>
    obtain ⟨x, ds, rfl⟩ := List.exists_cons_of_length_eq_add_one hlength
    obtain ⟨hx, hdigits⟩ := List.forall_mem_cons.1 hdigits
    obtain ⟨v, hv, -⟩ := isDigitOf_iff.1 hx
    rw [digitsFrom_cons hv] at hvalue
    rw [List.cons_append, readBasicFrom]
    simp only [escapeDigit?_more hv, pushOption]
    exact ih (Nat.succ.inj hlength) hdigits _ hvalue

/-- **However a character is written**, it is read back. -/
theorem Spells.readBasicFrom {c : Char} {cs : List Char} (h : Spells c cs) (rest : List Char) :
    readBasicFrom .none (cs ++ rest) = push c (readBasicFrom .none rest) := by
  cases h with
  | plain plain quote backslash => simp [Toml.readBasicFrom, plain, quote, backslash]
  | @letter x escape =>
    have hu : x ≠ 'u' := fun h => by rw [h] at escape; cases escape
    have hU : x ≠ 'U' := fun h => by rw [h] at escape; cases escape
    simp [Toml.readBasicFrom, escapeLetter?, hu, hU, escape, pushOption]
  | short length digits value =>
    have hread := readBasicFrom_digits length digits 0 rest value
    simpa [Toml.readBasicFrom, escapeLetter?, pushOption] using hread
  | long length digits value =>
    have hread := readBasicFrom_digits length digits 0 rest value
    simpa [Toml.readBasicFrom, escapeLetter?, pushOption] using hread

/-! ## Strings -/

/-- **The ways to write a text** between double quotes, character by character. -/
def IsQuoted (cs written : List Char) : Prop :=
  ∃ parts, List.Forall₂ Spells cs parts ∧ written = '"' :: (parts.flatten ++ ['"'])

variable {cs written rest : List Char} {parts : List (List Char)}

theorem readBasic_flatten (h : List.Forall₂ Spells cs parts) (rest : List Char) :
    readBasic (parts.flatten ++ '"' :: rest) = some (cs, rest) := by
  induction h with
  | nil => simp [readBasic, readBasicFrom]
  | cons hfirst _ ih =>
    rw [List.flatten_cons, List.append_assoc, readBasic, hfirst.readBasicFrom]
    rw [readBasic] at ih
    rw [ih]
    rfl

theorem Spells.exists_cons {c : Char} (h : Spells c cs) : ∃ d more, cs = d :: more ∧ d ≠ '"' := by
  cases h with
  | plain plain quote backslash => exact ⟨c, [], rfl, quote⟩
  | letter escape => exact ⟨_, _, rfl, by decide⟩
  | short length digits value => exact ⟨_, _, rfl, by decide⟩
  | long length digits value => exact ⟨_, _, rfl, by decide⟩

/-- **However a text is written**, it is read back, unless another quote follows. -/
theorem IsQuoted.readString? (h : IsQuoted cs written) (hrest : rest.head? ≠ some '"') :
    readString? (written ++ rest) = some (cs, rest) := by
  obtain ⟨parts, hparts, rfl⟩ := h
  have hbasic := readBasic_flatten hparts rest
  rw [List.cons_append, List.append_assoc, List.singleton_append]
  cases hparts with
  | nil =>
    -- Two quotes: a third one would begin a string of several lines.
    cases rest with
    | nil => rfl
    | cons d more =>
      have hd : d ≠ '"' := fun h => hrest (by rw [h]; rfl)
      rw [List.flatten_nil, List.nil_append] at hbasic ⊢
      simp [Toml.readString?, hd, hbasic]
  | cons hfirst hmore =>
    obtain ⟨d, more, hcons, hd⟩ := hfirst.exists_cons
    rw [List.flatten_cons, hcons, List.cons_append, List.cons_append] at hbasic ⊢
    simpa [Toml.readString?, hd] using hbasic

theorem isQuoted_cons_quote (h : IsQuoted cs written) : ∃ more, written = '"' :: more := by
  obtain ⟨parts, -, rfl⟩ := h
  exact ⟨_, rfl⟩

/-! ## One way -/

theorem toNat_lt_of_not_isPlain {c : Char} (h : isPlain c = false) : c.toNat < 128 := by
  simp only [isPlain, Bool.or_eq_false_iff, Bool.and_eq_false_iff, decide_eq_false_iff_not] at h
  omega

theorem digitValue?_hexDigit (n : Nat) : digitValue? (hexDigit n) = some (n % 16) := by
  have hdigits : ∀ d : Fin 16, digitValue? (Nat.digitChar d) = some d := by decide
  exact hdigits ⟨n % 16, Nat.mod_lt n (by decide)⟩

theorem isDigitOf_hexDigit (n : Nat) : isDigitOf 16 (hexDigit n) = true :=
  isDigitOf_iff.2 ⟨_, digitValue?_hexDigit n, Nat.mod_lt n (by decide)⟩

theorem spells_writeChar (c : Char) : Spells c (writeChar c) := by
  unfold writeChar
  split_ifs with hquote hbackslash hplain
  · subst hquote
    exact .letter rfl
  · subst hbackslash
    exact .letter rfl
  · exact .plain hplain hquote hbackslash
  · have hlt := toNat_lt_of_not_isPlain (by simpa using hplain)
    have hzero : digitValue? '0' = some 0 := rfl
    have hdigits : ∀ x ∈ ['0', '0', hexDigit (c.toNat / 16), hexDigit c.toNat],
        isDigitOf 16 x = true := by
      have hdigit : isDigitOf 16 '0' = true := rfl
      simp [isDigitOf_hexDigit, hdigit]
    have hvalue : digitsFrom 0 ['0', '0', hexDigit (c.toNat / 16), hexDigit c.toNat] = c.toNat := by
      simp only [digitsFrom_cons hzero, digitsFrom_cons (digitValue?_hexDigit _)]
      change (0 * 16 + c.toNat / 16 % 16) * 16 + c.toNat % 16 = c.toNat
      omega
    exact .short rfl hdigits hvalue

theorem isQuoted_writeBasic (cs : List Char) : IsQuoted cs (writeBasic cs) := by
  refine ⟨cs.map writeChar, ?_, by rw [writeBasic, List.flatMap_def]⟩
  rw [List.forall₂_map_right_iff, List.forall₂_same]
  exact fun c _ => spells_writeChar c

end Groundwork.Toml
