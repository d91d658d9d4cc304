import Groundwork.Proofs.Identifier.Ascii

/-!
# What letter case keeps

A property of characters that upper and lower case keep holds of every spelling of a name whose
characters have it, for a spelling leaves out characters and changes letter case, and does nothing
else. A name without a line feed, a slash or a dot has none in camel case.

* `Text.KeptByCase`: a property that letter case keeps.
* **`Identifier.forall_mem_camelChars`**: it holds of camel case.
* **`Text.keptByCase_ne`**: no letter case brings in a character that comes before the letters.
-/

namespace Groundwork

namespace Text

variable {p : Char → Prop} {cs : List Char}

/-- **Letter case keeps the property**; the two small sigmas come of a capital one. -/
structure KeptByCase (p : Char → Prop) : Prop where
  upper : ∀ c, p c → ∀ d ∈ upperChar c, p d
  lower : ∀ c, p c → ∀ d ∈ lowerChar c, p d
  sigma : p 'σ'
  finalSigma : p 'ς'

namespace KeptByCase

variable (hp : KeptByCase p)

include hp

theorem forall_mem_upper (h : ∀ c ∈ cs, p c) : ∀ d ∈ Text.upper cs, p d := by
  intro d hd
  obtain ⟨c, hc, hd⟩ := List.mem_flatMap.1 hd
  exact hp.upper c (h c hc) d hd

theorem forall_mem_lowerAfter (before : List Char) (h : ∀ c ∈ cs, p c) :
    ∀ d ∈ lowerAfter before cs, p d := by
  induction cs generalizing before with
  | nil => exact List.forall_mem_nil p
  | cons c rest ih =>
    obtain ⟨hc, hrest⟩ := List.forall_mem_cons.1 h
    rw [lowerAfter, List.forall_mem_append]
    refine ⟨?_, ih (c :: before) hrest⟩
    split_ifs
    · exact List.forall_mem_singleton.2 hp.finalSigma
    · exact List.forall_mem_singleton.2 hp.sigma
    · exact hp.lower c hc

theorem forall_mem_lower (h : ∀ c ∈ cs, p c) : ∀ d ∈ Text.lower cs, p d :=
  hp.forall_mem_lowerAfter [] h

end KeptByCase

end Text

/-! ## Spellings -/

namespace Identifier

open Text

variable {p : Char → Prop} (hp : KeptByCase p) {name : List Char}

theorem mem_of_mem_flatten {w : List Cluster} {c : Char} (hw : w ∈ words name)
    (hc : c ∈ w.flatten) : c ∈ name := by
  obtain ⟨g, hg, hc⟩ := List.mem_flatten.1 hc
  rw [← clusters_flatten name]
  exact List.mem_flatten_of_mem (mem_of_mem_words hw hg).1 hc

include hp

theorem forall_mem_upperFirstChars (h : ∀ c ∈ name, p c) : ∀ d ∈ upperFirstChars name, p d := by
  cases name with
  | nil => exact List.forall_mem_nil p
  | cons c rest =>
    obtain ⟨hc, hrest⟩ := List.forall_mem_cons.1 h
    rw [upperFirstChars, List.forall_mem_append]
    exact ⟨hp.upper c hc, hrest⟩

theorem forall_mem_capitalWord {w : List Cluster} (h : ∀ c ∈ w.flatten, p c) :
    ∀ d ∈ capitalWord w, p d := by
  cases w with
  | nil => exact List.forall_mem_nil p
  | cons g rest =>
    rw [List.flatten_cons, List.forall_mem_append] at h
    rw [capitalWord, List.forall_mem_append]
    exact ⟨hp.forall_mem_upper h.1, hp.forall_mem_lower h.2⟩

/-- **What letter case keeps holds of camel case.** -/
theorem forall_mem_camelChars (h : ∀ c ∈ name, p c) : ∀ d ∈ camelChars name, p d := by
  have hword : ∀ w ∈ words name, ∀ c ∈ w.flatten, p c :=
    fun w hw c hc => h c (mem_of_mem_flatten hw hc)
  unfold camelChars
  split
  · exact List.forall_mem_nil p
  · rename_i first others hwords
    rw [hwords, List.forall_mem_cons] at hword
    rw [List.forall_mem_append]
    refine ⟨hp.forall_mem_lower hword.1, fun d hd => ?_⟩
    obtain ⟨w, hw, hd⟩ := List.mem_flatMap.1 hd
    exact forall_mem_capitalWord hp (hword.2 w hw) d hd

theorem forall_mem_snakeChars (hunderscore : p '_') (h : ∀ c ∈ name, p c) :
    ∀ d ∈ ['_'].intercalate ((words name).map lowerWord), p d := by
  have hword : ∀ w ∈ words name, ∀ d ∈ lowerWord w, p d := fun w hw =>
    hp.forall_mem_lower fun c hc => h c (mem_of_mem_flatten hw hc)
  generalize words name = ws at hword ⊢
  induction ws with
  | nil => exact List.forall_mem_nil p
  | cons w rest ih =>
    obtain ⟨hw, hrest⟩ := List.forall_mem_cons.1 hword
    cases rest with
    | nil => simpa using hw
    | cons w' more =>
      rw [List.map_cons, List.map_cons, List.intercalate_cons_cons, List.forall_mem_append,
        List.forall_mem_append]
      exact ⟨⟨hw, List.forall_mem_singleton.2 hunderscore⟩, ih hrest⟩

end Identifier

/-! ## Characters before the letters -/

namespace Text

/-- Only one number is that of a character, but for the null, which stands for what is no code
point. -/
theorem eq_toNat_of_ofNat {n : Nat} {c : Char} (hc : c ≠ '\x00') (h : Char.ofNat n = c) :
    n = c.toNat := by
  by_cases hvalid : n.isValidChar
  · rw [← h, Char.ofNat, dif_pos hvalid]
    rfl
  · rw [Char.ofNat, dif_neg hvalid] at h
    exact absurd h.symm hc

/-- **A mapping brings in nothing that comes before the letters** when none of its runs begins as
low and none of its expansions holds anything as low. -/
theorem mapCase_ne {expansions : List (Nat × List Nat)} {runs : List Run}
    (hexpansions : ∀ e ∈ expansions, ∀ m ∈ e.2, 65 ≤ m)
    (hruns : ∀ run ∈ runs, 65 ≤ (run.first : Int) + run.shift) {c : Char} (hnull : c ≠ '\x00')
    (hlow : c.toNat < 65) {n : Nat} (hn : n ≠ c.toNat) :
    ∀ d ∈ mapCase expansions runs n, d ≠ c := by
  unfold mapCase
  split
  · rename_i ns hlookup
    obtain ⟨before, after, rfl, -⟩ := List.lookup_eq_some_iff.1 hlookup
    intro d hd hc
    obtain ⟨m, hm, rfl⟩ := List.mem_map.1 hd
    have hletter : 65 ≤ m := hexpansions (n, ns) (by simp) m hm
    have himage := eq_toNat_of_ofNat hnull hc
    omega
  · rw [List.forall_mem_singleton]
    intro hc
    have himage := eq_toNat_of_ofNat hnull hc
    cases hrun : runs.findSome? (Run.image? · n) with
    | none =>
      rw [hrun] at himage
      exact hn himage
    | some m =>
      obtain ⟨run, hmem, hm⟩ := List.exists_of_findSome?_eq_some hrun
      have hletter := hruns run hmem
      rw [hrun, Option.getD_some] at himage
      unfold Run.image? at hm
      split_ifs at hm with hin
      have hshift : (n + run.shift : Int).toNat = m := Option.some.inj hm
      omega

theorem asciiCase_cases {c : Char} (hc : isAscii c = true) :
    (asciiUpperChar c = c ∨ 65 ≤ (asciiUpperChar c).toNat) ∧
      (asciiLowerChar c = c ∨ 65 ≤ (asciiLowerChar c).toNat) :=
  forall_isAscii hc (by decide)

/-- **No letter case brings in a character that comes before the letters.** -/
theorem keptByCase_ne {c : Char} (hnull : c ≠ '\x00') (hlow : c.toNat < 65) :
    KeptByCase (· ≠ c) := by
  have hascii {d e : Char} (hd : d ≠ c) (he : e = d ∨ 65 ≤ e.toNat) : e ≠ c := by
    rintro rfl
    rcases he with rfl | he
    · exact hd rfl
    · omega
  have hnat {d : Char} (hd : d ≠ c) : d.toNat ≠ c.toNat := fun h => hd (Char.toNat_inj.1 h)
  have hsigma {d : Char} (hd : 65 ≤ d.toNat) : d ≠ c := fun h => by
    rw [h] at hd
    omega
  refine ⟨fun d hd => ?_, fun d hd => ?_, hsigma (by decide), hsigma (by decide)⟩
  · unfold upperChar
    split_ifs with h
    · exact List.forall_mem_singleton.2 (hascii hd (asciiCase_cases h).1)
    · exact mapCase_ne (by decide) (by decide +kernel) hnull hlow (hnat hd)
  · unfold lowerChar
    split_ifs with h
    · exact List.forall_mem_singleton.2 (hascii hd (asciiCase_cases h).2)
    · exact mapCase_ne (by decide) (by decide +kernel) hnull hlow (hnat hd)

theorem keptByCase_ne_lineFeed : KeptByCase (· ≠ '\n') := keptByCase_ne (by decide) (by decide)

end Text

end Groundwork
