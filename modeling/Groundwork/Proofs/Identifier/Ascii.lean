import Groundwork.Proofs.Identifier.Words
import Mathlib.Data.List.Basic

/-!
# ASCII names

What holds of an ASCII character is checked on the 128 of them. Each is a cluster of its own, but
for a line feed after a carriage return, and has one upper and one lower case, so that a name of
ASCII characters is read character by character.

* `Text.forall_isAscii`, `Text.facts_of_isAscii`: how a property of ASCII characters is checked, and
  those that are needed.
* **`Text.clusters_of_isAscii`**: the clusters of an ASCII text.
* `Text.upper_of_isAscii`, `Text.lower_of_isAscii`: its letter case.
* `Identifier.kinds_singleton`: what a single ASCII character is.
-/

namespace Groundwork

namespace Text

variable {c : Char} {cs : List Char}

/-- **A property of ASCII characters** is checked on all of them. -/
@[elab_as_elim]
theorem forall_isAscii {p : Char → Prop} {c : Char} (hc : isAscii c = true)
    (h : ∀ n < 128, p (Char.ofNat n)) : p c := by
  have hlt : c.toNat < 128 := of_decide_eq_true hc
  simpa only [Char.ofNat_toNat] using h c.toNat hlt

theorem isAlpha_iff : c.isAlpha = true ↔ c.isUpper = true ∨ c.isLower = true :=
  Bool.or_eq_true_iff

theorem isAlphanum_iff : c.isAlphanum = true ↔ c.isAlpha = true ∨ c.isDigit = true :=
  Bool.or_eq_true_iff

theorem isAscii_of_isAlphanum (h : c.isAlphanum = true) : isAscii c = true := by
  have hbelow (d : Char) (hd : d.toNat < 128) (h : c.val ≤ d.val) : isAscii c = true :=
    decide_eq_true (Nat.lt_of_le_of_lt (UInt32.le_iff_toNat_le.1 h) hd)
  rcases isAlphanum_iff.1 h with halpha | hdigit
  · rcases isAlpha_iff.1 halpha with hupper | hlower
    · exact hbelow 'Z' (by decide) (of_decide_eq_true hupper).2
    · exact hbelow 'z' (by decide) (of_decide_eq_true (Bool.and_eq_true_iff.1 hlower).2)
  · exact hbelow '9' (by decide) (of_decide_eq_true (Bool.and_eq_true_iff.1 hdigit).2)

theorem isAscii_of_isAlpha (h : c.isAlpha = true) : isAscii c = true :=
  isAscii_of_isAlphanum (isAlphanum_iff.2 (.inl h))

theorem isAscii_of_isLower (h : c.isLower = true) : isAscii c = true :=
  isAscii_of_isAlpha (isAlpha_iff.2 (.inr h))

theorem isAscii_of_isDigit (h : c.isDigit = true) : isAscii c = true :=
  isAscii_of_isAlphanum (isAlphanum_iff.2 (.inr h))

/-! ## Facts -/

/-- The classes of the ASCII characters but the carriage return. -/
def IsPlainClass (k : ClusterClass) : Prop := k = .other ∨ k = .control ∨ k = .lineFeed

instance (k : ClusterClass) : Decidable (IsPlainClass k) := inferInstanceAs (Decidable (_ ∨ _ ∨ _))

/-- **What the reading of a name relies on**, checked on all ASCII characters at once: their
clusters, then their letter case. -/
theorem facts_of_isAscii (hc : isAscii c = true) :
    (c ≠ '\r' → IsPlainClass (clusterClass c)) ∧ conjunctConsonant.contains c.toNat = false ∧
      asciiUpperChar (asciiLowerChar c) = asciiUpperChar c ∧
      (c.isUpper = true → c.isLower = false) ∧
      (c.isAlpha = true → c.isDigit = false ∧ (asciiLowerChar c).isLower = true) ∧
      (c.isLower = true → (asciiUpperChar c).isUpper = true ∧
        asciiLowerChar (asciiUpperChar c) = c ∧ asciiLowerChar c = c) ∧
      (c.isDigit = true → c.isLower = false ∧ asciiUpperChar c = c ∧ asciiLowerChar c = c) :=
  forall_isAscii hc (by decide +kernel)

theorem asciiUpperChar_asciiLowerChar (hc : isAscii c = true) :
    asciiUpperChar (asciiLowerChar c) = asciiUpperChar c :=
  (facts_of_isAscii hc).2.2.1

theorem isLower_asciiLowerChar (h : c.isAlpha = true) :
    c.isDigit = false ∧ (asciiLowerChar c).isLower = true :=
  (facts_of_isAscii (isAscii_of_isAlpha h)).2.2.2.2.1 h

theorem asciiUpperChar_of_isLower (h : c.isLower = true) : (asciiUpperChar c).isUpper = true ∧
    asciiLowerChar (asciiUpperChar c) = c ∧ asciiLowerChar c = c :=
  (facts_of_isAscii (isAscii_of_isLower h)).2.2.2.2.2.1 h

theorem asciiUpperChar_of_isDigit (h : c.isDigit = true) :
    c.isLower = false ∧ asciiUpperChar c = c ∧ asciiLowerChar c = c :=
  (facts_of_isAscii (isAscii_of_isDigit h)).2.2.2.2.2.2 h

theorem isDigit_eq_false_of_isLower (h : c.isLower = true) : c.isDigit = false :=
  (isLower_asciiLowerChar (isAlpha_iff.2 (.inr h))).1

theorem isLower_eq_false_of_isUpper (h : c.isUpper = true) :
    c.isLower = false ∧ c.isDigit = false := by
  have halpha : c.isAlpha = true := isAlpha_iff.2 (.inl h)
  exact ⟨(facts_of_isAscii (isAscii_of_isAlpha halpha)).2.2.2.1 h,
    (isLower_asciiLowerChar halpha).1⟩

/-! ## Clusters -/

theorem Tail.joins_eq_false {t : Tail} (ht : IsPlainClass t.last) (hc : isAscii c = true)
    (hr : c ≠ '\r') : t.joins c = false := by
  obtain ⟨hplain, hconsonant, -⟩ := facts_of_isAscii hc
  unfold Tail.joins
  rcases ht with hlast | hlast | hlast <;> rcases hplain hr with hclass | hclass | hclass <;>
    simp [hlast, hclass, hconsonant, ClusterClass.isBreak]

theorem clustersFrom_start (h : ∀ d ∈ c :: cs, isAscii d = true) (hr : '\r' ∉ c :: cs) :
    clustersFrom (.start c) [c] cs = (c :: cs).map fun d => [d] := by
  induction cs generalizing c with
  | nil => rfl
  | cons d rest ih =>
    obtain ⟨hc, hrest⟩ := List.forall_mem_cons.1 h
    obtain ⟨hne, hrrest⟩ := not_or.1 (mt List.mem_cons.2 hr)
    have hd : d ≠ '\r' := fun heq => hrrest (heq ▸ List.mem_cons_self)
    have hjoins : (Tail.start c).joins d = false :=
      Tail.joins_eq_false ((facts_of_isAscii hc).1 (Ne.symm hne)) (hrest d List.mem_cons_self) hd
    rw [clustersFrom, if_neg (by simp [hjoins]), ih hrest hrrest]
    rfl

/-- **Each ASCII character is a cluster of its own** where there is no carriage return. -/
theorem clusters_of_isAscii (h : ∀ c ∈ cs, isAscii c = true) (hr : '\r' ∉ cs) :
    clusters cs = cs.map fun c => [c] := by
  cases cs with
  | nil => rfl
  | cons c rest => exact clustersFrom_start h hr

/-! ## Letter case -/

theorem upper_of_isAscii (h : ∀ c ∈ cs, isAscii c = true) : upper cs = cs.map asciiUpperChar := by
  have hone : ∀ c ∈ cs, upperChar c = [asciiUpperChar c] := fun c hc => if_pos (h c hc)
  rw [upper, List.flatMap_congr hone, List.map_eq_flatMap]

theorem lower_of_isAscii (h : ∀ c ∈ cs, isAscii c = true) : lower cs = cs.map asciiLowerChar := by
  have hsigma : 'Σ' ∉ cs := fun hmem => absurd (h _ hmem) (by decide)
  have hone : ∀ c ∈ cs, lowerChar c = [asciiLowerChar c] := fun c hc => if_pos (h c hc)
  rw [lower_of_not_mem_sigma hsigma, List.flatMap_congr hone, List.map_eq_flatMap]

end Text

open Text

namespace Identifier

variable {c : Char}

/-- **What a single character is** as a cluster. -/
theorem kinds_singleton (hc : isAscii c = true) :
    isUpper [c] = c.isUpper ∧ isLower [c] = c.isLower ∧ isDigit [c] = c.isDigit :=
  forall_isAscii hc (by decide +kernel)

end Identifier

end Groundwork
