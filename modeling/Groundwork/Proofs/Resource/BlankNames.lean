import Groundwork.Proofs.Identifier.Slashes
import Groundwork.Proofs.Refusal

/-!
# Blank names

A name is refused when it is blank, and when nothing is left of it without its separators. A name
whose blanks stand between separators is neither, and yet it is spelled with blanks alone, for
letter case turns no blank into anything else and nothing else into a blank.

* `Text.Avoids`: a case mapping that leaves a set of characters to itself.
* `Text.SameInk`: characters that are blank exactly if another one is.
* **`Identifier.visible_camelChars`**: camel case shows something exactly if the bare name does.
* **`Resource.build_visible_iff`**: the names of which a resource gets a blank one.
-/

namespace Groundwork

namespace Text

variable {c : Char} {cs ds : List Char} {rs : Ranges} {n : Nat}

/-! ## Blanks and case mappings -/

theorem Ranges.exists_of_contains (h : rs.contains n = true) : ∃ r ∈ rs, r.1 ≤ n ∧ n ≤ r.2 := by
  induction rs with
  | nil => cases h
  | cons r rest ih =>
    obtain ⟨first, last⟩ := r
    rw [Ranges.contains] at h
    split_ifs at h with hbelow
    rcases Bool.or_eq_true_iff.1 h with hlast | hrest
    · exact ⟨(first, last), List.mem_cons_self, Nat.le_of_not_lt hbelow, of_decide_eq_true hlast⟩
    · obtain ⟨r, hr, hn⟩ := ih hrest
      exact ⟨r, List.mem_cons_of_mem _ hr, hn⟩

/-- **A case mapping avoids a set** when it sends nothing out of the set and nothing into it. -/
structure Avoids (expansions : List (Nat × List Nat)) (runs : List Run) (rs : Ranges) : Prop where
  expansions : ∀ e ∈ expansions, rs.contains e.1 = false ∧ ∀ m ∈ e.2, rs.contains m = false
  source : ∀ run ∈ runs, ∀ r ∈ rs, run.last < r.1 ∨ r.2 < run.first
  target : ∀ run ∈ runs, ∀ r ∈ rs, run.last + run.shift < r.1 ∨ r.2 < run.first + run.shift

theorem avoids_upper : Avoids upperExpansions upperRuns whiteSpace :=
  ⟨by decide +kernel, by decide +kernel, by decide +kernel⟩

theorem avoids_lower : Avoids lowerExpansions lowerRuns whiteSpace :=
  ⟨by decide +kernel, by decide +kernel, by decide +kernel⟩

theorem contains_of_isBlank_ofNat (h : isBlank (Char.ofNat n) = true) :
    whiteSpace.contains n = true := by
  unfold isBlank at h
  by_cases hvalid : n.isValidChar
  · rw [Char.ofNat, dif_pos hvalid] at h
    exact h
  · rw [Char.ofNat, dif_neg hvalid] at h
    exact absurd h (by decide)

/-- **Characters stand for one that is as blank as they are**, and there is one at least. -/
structure SameInk (c : Char) (es : List Char) : Prop where
  some : es ≠ []
  same : ∀ e ∈ es, isBlank e = isBlank c

theorem Avoids.sameInk {expansions : List (Nat × List Nat)} {runs : List Run}
    (h : Avoids expansions runs whiteSpace) (hsome : ∀ e ∈ expansions, e.2 ≠ []) (c : Char) :
    SameInk c (mapCase expansions runs c.toNat) := by
  refine ⟨mapCase_ne_nil hsome runs c.toNat, ?_⟩
  have hvisible {m : Nat} (hm : whiteSpace.contains m = false) :
      isBlank (Char.ofNat m) = false := by
    rw [Bool.eq_false_iff]
    intro hblank
    rw [contains_of_isBlank_ofNat hblank] at hm
    cases hm
  unfold mapCase
  split
  · rename_i ns hlookup
    obtain ⟨before, after, rfl, -⟩ := List.lookup_eq_some_iff.1 hlookup
    obtain ⟨hc, hns⟩ := h.expansions (c.toNat, ns) (by simp)
    refine List.forall_mem_map.2 fun m hm => ?_
    rw [hvisible (hns m hm)]
    exact hc.symm
  · rw [List.forall_mem_singleton]
    cases hrun : runs.findSome? (Run.image? · c.toNat) with
    | none => rw [Option.getD_none, Char.ofNat_toNat]
    | some m =>
      obtain ⟨run, hmem, hm⟩ := List.exists_of_findSome?_eq_some hrun
      unfold Run.image? at hm
      split_ifs at hm with hin
      have hshift : (c.toNat + run.shift : Int).toNat = m := Option.some.inj hm
      -- Neither the character nor its image is in a range that the run keeps away from.
      have hsource : isBlank c = false := by
        rw [Bool.eq_false_iff]
        intro hblank
        obtain ⟨r, hr, hlow, hhigh⟩ := Ranges.exists_of_contains hblank
        have haway := h.source run hmem r hr
        omega
      have htarget : whiteSpace.contains m = false := by
        rw [Bool.eq_false_iff]
        intro hblank
        obtain ⟨r, hr, hlow, hhigh⟩ := Ranges.exists_of_contains hblank
        have haway := h.target run hmem r hr
        have hpositive : ∀ r ∈ whiteSpace, 0 < r.1 := by decide
        have hfirst := hpositive r hr
        omega
      rw [Option.getD_some, hvisible htarget, hsource]

theorem isBlank_of_isAscii (hc : isAscii c = true) :
    isBlank (asciiUpperChar c) = isBlank c ∧ isBlank (asciiLowerChar c) = isBlank c :=
  forall_isAscii hc (by decide +kernel)

theorem sameInk_upperChar (c : Char) : SameInk c (upperChar c) := by
  unfold upperChar
  split
  · rename_i hc
    exact ⟨List.cons_ne_nil _ _, List.forall_mem_singleton.2 (isBlank_of_isAscii hc).1⟩
  · exact avoids_upper.sameInk (by decide) c

theorem sameInk_lowerChar (c : Char) : SameInk c (lowerChar c) := by
  unfold lowerChar
  split
  · rename_i hc
    exact ⟨List.cons_ne_nil _ _, List.forall_mem_singleton.2 (isBlank_of_isAscii hc).2⟩
  · exact avoids_lower.sameInk (by decide) c

/-! ## Visible texts -/

/-- **The text shows something**: not all of it is blank. -/
def Visible (cs : List Char) : Prop := ∃ c ∈ cs, isBlank c = false

instance (cs : List Char) : Decidable (Visible cs) :=
  decidable_of_iff (cs.any fun c => !isBlank c) (by simp [Visible])

theorem visible_append : Visible (cs ++ ds) ↔ Visible cs ∨ Visible ds := by
  simp only [Visible, List.mem_append, or_and_right, exists_or]

theorem visible_cons : Visible (c :: cs) ↔ isBlank c = false ∨ Visible cs := by
  simp only [Visible, List.mem_cons, or_and_right, exists_or, exists_eq_left]

theorem SameInk.visible_iff {es : List Char} (h : SameInk c es) :
    Visible es ↔ isBlank c = false := by
  constructor
  · rintro ⟨e, he, hblank⟩
    rw [← h.same e he, hblank]
  · intro hc
    obtain ⟨e, rest, rfl⟩ := List.exists_cons_of_ne_nil h.some
    exact ⟨e, List.mem_cons_self, (h.same e List.mem_cons_self).trans hc⟩

theorem visible_upper (cs : List Char) : Visible (upper cs) ↔ Visible cs := by
  induction cs with
  | nil => exact Iff.rfl
  | cons c rest ih =>
    rw [upper, List.flatMap_cons, visible_append, (sameInk_upperChar c).visible_iff, visible_cons]
    exact or_congr_right ih

theorem visible_lowerAfter (before cs : List Char) :
    Visible (lowerAfter before cs) ↔ Visible cs := by
  induction cs generalizing before with
  | nil => exact Iff.rfl
  | cons c rest ih =>
    have hink : SameInk c (if c = 'Σ' then
        [if meetsCased before && !meetsCased rest then 'ς' else 'σ'] else lowerChar c) := by
      split_ifs with hsigma
      · exact hsigma ▸ ⟨List.cons_ne_nil _ _, List.forall_mem_singleton.2 (by decide)⟩
      · exact hsigma ▸ ⟨List.cons_ne_nil _ _, List.forall_mem_singleton.2 (by decide)⟩
      · exact sameInk_lowerChar c
    rw [lowerAfter, visible_append, hink.visible_iff, ih, visible_cons]

theorem visible_lower (cs : List Char) : Visible (lower cs) ↔ Visible cs := visible_lowerAfter [] cs

end Text

/-! ## Spellings -/

namespace Identifier

open Text

theorem visible_capitalWord (word : List Cluster) :
    Visible (capitalWord word) ↔ Visible word.flatten := by
  cases word with
  | nil => exact Iff.rfl
  | cons g rest =>
    rw [capitalWord, List.flatten_cons, visible_append, visible_append, visible_upper,
      visible_lower]

theorem visible_flatMap_capitalWord (ws : List (List Cluster)) :
    Visible (ws.flatMap capitalWord) ↔ Visible ws.flatten.flatten := by
  induction ws with
  | nil => exact Iff.rfl
  | cons w rest ih =>
    rw [List.flatMap_cons, List.flatten_cons, List.flatten_append, visible_append, visible_append,
      visible_capitalWord, ih]

/-- **Camel case shows something** exactly if the name does without its separators. -/
theorem visible_camelChars (name : List Char) :
    Visible (camelChars name) ↔ Visible (bare name) := by
  rw [← flatten_words, camelChars]
  cases words name with
  | nil => exact Iff.rfl
  | cons first others =>
    rw [List.flatten_cons, List.flatten_append, visible_append, visible_append,
      visible_flatMap_capitalWord]
    exact or_congr_left (visible_lower first.flatten)

theorem visible_upperFirstChars (cs : List Char) : Visible (upperFirstChars cs) ↔ Visible cs := by
  cases cs with
  | nil => exact Iff.rfl
  | cons c rest =>
    rw [upperFirstChars, visible_append, (sameInk_upperChar c).visible_iff, visible_cons]

end Identifier

/-! ## Names of resources -/

namespace Resource

open Text

/-- **The names of a resource show something** exactly if the name that it was given does without
its separators. Being accepted says less: that the name shows something, and has more than
separators. -/
theorem build_visible_iff {name plural : String} {fields : List Field} {softDeletes : Bool}
    {r : Resource} (h : build name plural fields softDeletes = .ok r) :
    (Visible r.name.toList ↔ Visible (Identifier.bare name.toList)) ∧
      (Visible r.pascalName.toList ↔ Visible (Identifier.bare name.toList)) := by
  have hname : r.name.toList = Identifier.camelChars name.toList := by
    rw [(build_eq_ok_iff.1 h).2.1, Identifier.camel, String.toList_ofList]
  have hpascal : r.pascalName.toList = Identifier.upperFirstChars r.name.toList := by
    rw [pascalName, Identifier.upperFirst, String.toList_ofList]
  rw [hpascal, Identifier.visible_upperFirstChars, hname]
  exact ⟨Identifier.visible_camelChars _, Identifier.visible_camelChars _⟩

/-- Blanks stay, beside the letters of the name. -/
theorem build_visible_beside_blanks :
    let r : Resource := ⟨"\tCat\u00a0", "cats", [], false, by decide, by decide⟩
    build "_\t-cat_\u00a0_" "cats" [] false = .ok r ∧
      Visible (Identifier.bare "_\t-cat_\u00a0_".toList) ∧ Visible r.name.toList ∧
        Visible r.pascalName.toList := by
  intro r
  have hbuild : build "_\t-cat_\u00a0_" "cats" [] false = .ok r := by decide +kernel
  have hbare : Visible (Identifier.bare "_\t-cat_\u00a0_".toList) := by decide +kernel
  obtain ⟨hname, hpascal⟩ := build_visible_iff hbuild
  exact ⟨hbuild, hbare, hname.2 hbare, hpascal.2 hbare⟩

/-- **A tab between underscores is accepted as a name**, and nothing of it is left to be seen. -/
theorem exists_blank_name : ∃ r, build "_\t_" "tabs" [] false = .ok r ∧
    ¬ Visible r.name.toList ∧ ¬ Visible r.pascalName.toList := by
  let r : Resource := ⟨"\t", "tabs", [], false, by decide, by decide⟩
  have hbuild : build "_\t_" "tabs" [] false = .ok r := by decide +kernel
  exact ⟨r, hbuild, by decide, by decide +kernel⟩

end Resource

end Groundwork
