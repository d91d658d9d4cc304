import Groundwork.Identifier
import Mathlib.Tactic.SplitIfs

/-!
# The words of a name

The words of a name are runs of its clusters, none of them empty and none with a separator in it.
Changing the letter case of a word leaves something of it, so a name is lost in camel case only
when it has no words.

* `Identifier.ne_nil_of_mem_words`, `Identifier.mem_of_mem_words`: what words are made of.
* **`Identifier.words_eq_nil_iff`**: a name without words is made of separators.
* **`Identifier.camel_eq_empty_iff`**: only of such a name nothing is left in camel case.
-/

namespace Groundwork

/-! ## Letter case -/

namespace Text

theorem mapCase_ne_nil {expansions : List (Nat × List Nat)} (h : ∀ e ∈ expansions, e.2 ≠ [])
    (runs : List Run) (n : Nat) : mapCase expansions runs n ≠ [] := by
  unfold mapCase
  split
  · rename_i ns hlookup
    obtain ⟨before, after, rfl, -⟩ := List.lookup_eq_some_iff.1 hlookup
    have hns : ns ≠ [] := h (n, ns) (by simp)
    simpa using hns
  · exact List.cons_ne_nil _ _

theorem lowerChar_ne_nil (c : Char) : lowerChar c ≠ [] := by
  unfold lowerChar
  split_ifs
  · exact List.cons_ne_nil _ _
  · exact mapCase_ne_nil (by decide) _ _

theorem lower_eq_nil_iff {cs : List Char} : lower cs = [] ↔ cs = [] := by
  cases cs with
  | nil => simp [lower, lowerAfter]
  | cons c rest =>
    unfold lower
    rw [lowerAfter]
    split_ifs <;> simp [lowerChar_ne_nil]

end Text

open Text

namespace Identifier

variable {word : List Cluster} {gs : List Cluster} {w : List Cluster} {g : Cluster}

/-! ## Words -/

theorem ne_nil_of_mem_wordsFrom (h : w ∈ wordsFrom word gs) : w ≠ [] := by
  induction gs generalizing word with
  | nil =>
    rw [wordsFrom] at h
    split_ifs at h with hword
    · cases h
    · obtain rfl := List.mem_singleton.1 h
      simpa using hword
  | cons g rest ih =>
    rw [wordsFrom] at h
    split_ifs at h with hsep hword hends
    · exact ih h
    · rcases List.mem_cons.1 h with rfl | h
      · simpa using hword
      · exact ih h
    · rcases List.mem_cons.1 h with rfl | h
      · simp
      · exact ih h
    · exact ih h

/-- **No word is empty.** -/
theorem ne_nil_of_mem_words {name : List Char} (h : w ∈ words name) : w ≠ [] :=
  ne_nil_of_mem_wordsFrom h

theorem mem_of_mem_wordsFrom (h : w ∈ wordsFrom word gs) (hg : g ∈ w) :
    g ∈ word ∨ g ∈ gs ∧ isSeparator g = false := by
  induction gs generalizing word with
  | nil =>
    rw [wordsFrom] at h
    split_ifs at h with hword
    · cases h
    · exact .inl (List.mem_singleton.1 h ▸ hg)
  | cons d rest ih =>
    have hlater {word : List Cluster} (h : w ∈ wordsFrom word rest) :
        g ∈ word ∨ g ∈ d :: rest ∧ isSeparator g = false :=
      (ih h).imp_right fun ⟨hg, hsep⟩ => ⟨List.mem_cons_of_mem _ hg, hsep⟩
    have hjoined (hsep : ¬ isSeparator d = true) (h : g ∈ word ++ [d]) :
        g ∈ word ∨ g ∈ d :: rest ∧ isSeparator g = false := by
      rcases List.mem_append.1 h with h | h
      · exact .inl h
      · obtain rfl := List.mem_singleton.1 h
        exact .inr ⟨List.mem_cons_self, by simpa using hsep⟩
    rw [wordsFrom] at h
    split_ifs at h with hsep hword hends
    · exact .inr ((hlater h).resolve_left List.not_mem_nil)
    · rcases List.mem_cons.1 h with rfl | h
      · exact .inl hg
      · exact .inr ((hlater h).resolve_left List.not_mem_nil)
    · rcases List.mem_cons.1 h with rfl | h
      · exact hjoined hsep hg
      · exact .inr ((hlater h).resolve_left List.not_mem_nil)
    · exact (hlater h).elim (hjoined hsep) .inr

/-- **A word is made of clusters of the name**, none of them a separator. -/
theorem mem_of_mem_words {name : List Char} (h : w ∈ words name) (hg : g ∈ w) :
    g ∈ clusters name ∧ isSeparator g = false :=
  (mem_of_mem_wordsFrom h hg).resolve_left List.not_mem_nil

theorem wordsFrom_eq_nil_iff :
    wordsFrom word gs = [] ↔ word = [] ∧ ∀ g ∈ gs, isSeparator g = true := by
  induction gs generalizing word with
  | nil => simp [wordsFrom]
  | cons g rest ih =>
    rw [wordsFrom, List.forall_mem_cons]
    split_ifs with hsep hword hends
    · simp_all
    · simp_all
    · simp_all
    · simp [ih, hsep]

/-- **A name without words is made of separators.** -/
theorem words_eq_nil_iff {name : List Char} :
    words name = [] ↔ ∀ g ∈ clusters name, isSeparator g = true :=
  wordsFrom_eq_nil_iff.trans (and_iff_right rfl)

/-! ## Camel case -/

theorem lowerWord_ne_nil {name : List Char} (h : w ∈ words name) : lowerWord w ≠ [] := by
  obtain ⟨g, rest, rfl⟩ := List.exists_cons_of_ne_nil (ne_nil_of_mem_words h)
  have hg : g ≠ [] :=
    ne_nil_of_mem_clusters (mem_of_mem_words h List.mem_cons_self).1
  unfold lowerWord
  rw [Ne, lower_eq_nil_iff, List.flatten_cons, List.append_eq_nil_iff]
  exact fun hnil => hg hnil.1

theorem camelChars_eq_nil_iff {name : List Char} : camelChars name = [] ↔ words name = [] := by
  unfold camelChars
  split
  · rename_i h
    simp [h]
  · rename_i first others h
    have hfirst : lowerWord first ≠ [] := lowerWord_ne_nil (h ▸ List.mem_cons_self)
    simp [h, hfirst]

/-- **Nothing is left of a name in camel case** exactly when it is made of separators. -/
theorem camel_eq_empty_iff {name : String} :
    camel name = "" ↔ ∀ g ∈ clusters name.toList, isSeparator g = true := by
  rw [camel, String.ofList_eq_empty_iff, camelChars_eq_nil_iff, words_eq_nil_iff]

end Identifier

end Groundwork
