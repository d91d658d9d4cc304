import Groundwork.Proofs.Identifier.Casing
import Groundwork.Text.Segments
import Mathlib.Data.List.Forall2

/-!
# Slashes and dots in a spelling

A name is spelled by leaving out its separators and changing letter case. That keeps every slash and
every dot, and turns nothing else into one. So whether a spelling begins at the root or climbs, when
it is taken for a path, can be told from the name as it was given.

* `Text.Rooted`, `Text.Climbs`: what makes a text dangerous in a path.
* `Text.Respelled`: texts that differ in neither slashes nor dots.
* `Identifier.bare`: a name without its separators.
* **`Identifier.dangers_pascal`**: a name in Pascal case is the bare name respelled.
-/

namespace Groundwork

namespace Text

/-! ## Segments -/

theorem segments_append_of_not_mem {sep : Char} {as : List Char} (h : sep ∉ as) (bs : List Char) :
    segments sep (as ++ bs) = (segments sep bs).modifyHead (as ++ ·) := by
  induction as with
  | nil =>
    rw [List.nil_append]
    cases segments sep bs <;> rfl
  | cons a rest ih =>
    obtain ⟨hne, hrest⟩ := not_or.1 (mt List.mem_cons.2 h)
    rw [List.cons_append, segments, if_neg (Ne.symm hne), ih hrest]
    cases hbs : segments sep bs with
    | nil => exact absurd hbs (segments_ne_nil sep bs)
    | cons s more => rfl

theorem exists_segments_append (sep : Char) (as : List Char) :
    ∃ before last, ∀ bs, sep ∉ bs → segments sep (as ++ bs) = before ++ [last ++ bs] := by
  induction as with
  | nil => exact ⟨[], [], fun bs h => segments_of_not_mem h⟩
  | cons a rest ih =>
    obtain ⟨before, last, hrest⟩ := ih
    by_cases ha : a = sep
    · refine ⟨[] :: before, last, fun bs h => ?_⟩
      rw [List.cons_append, segments, if_pos ha, hrest bs h, List.cons_append]
    · cases before with
      | nil =>
        refine ⟨[], a :: last, fun bs h => ?_⟩
        rw [List.cons_append, segments, if_neg ha, hrest bs h]
        rfl
      | cons first more =>
        refine ⟨(a :: first) :: more, last, fun bs h => ?_⟩
        rw [List.cons_append, segments, if_neg ha, hrest bs h]
        rfl

theorem segments_append_of_not_mem_right {sep : Char} {bs : List Char} (h : sep ∉ bs)
    (as : List Char) : ∃ s, segments sep (as ++ bs) = (segments sep as).dropLast ++ [s ++ bs] := by
  obtain ⟨before, last, hall⟩ := exists_segments_append sep as
  have hown := hall [] List.not_mem_nil
  rw [List.append_nil] at hown
  exact ⟨last, by rw [hall bs h, hown, List.dropLast_concat]⟩

/-! ## Dangerous texts -/

/-- The text begins with a slash, so that a path that it begins is absolute. -/
def Rooted (cs : List Char) : Prop := cs.head? = some '/'

/-- **The text climbs**: a slash ends a segment of two dots. -/
def Climbs (cs : List Char) : Prop := ['.', '.'] ∈ (segments '/' cs).dropLast

instance (cs : List Char) : Decidable (Rooted cs) := inferInstanceAs (Decidable (_ = _))

instance (cs : List Char) : Decidable (Climbs cs) := inferInstanceAs (Decidable (_ ∈ _))

/-! ## Respelled texts -/

/-- A slash or a dot. -/
def IsMark (c : Char) : Prop := c = '/' ∨ c = '.'

instance (c : Char) : Decidable (IsMark c) := inferInstanceAs (Decidable (_ ∨ _))

/-- **A text is respelled**: slashes and dots stay, and each other character becomes characters that
are neither. -/
inductive Respelled : List Char → List Char → Prop
  | nil : Respelled [] []
  | mark {c : Char} {cs ds : List Char} (stays : IsMark c) (rest : Respelled cs ds) :
      Respelled (c :: cs) (c :: ds)
  | letter {c : Char} {es cs ds : List Char} (free : ¬ IsMark c) (some : es ≠ [])
      (plain : ∀ e ∈ es, ¬ IsMark e) (rest : Respelled cs ds) : Respelled (c :: cs) (es ++ ds)

namespace Respelled

variable {c : Char} {cs ds cs' ds' es : List Char}

theorem refl (cs : List Char) : Respelled cs cs := by
  induction cs with
  | nil => exact .nil
  | cons c rest ih =>
    by_cases hc : IsMark c
    · exact .mark hc ih
    · exact .letter hc (List.cons_ne_nil c []) (List.forall_mem_singleton.2 hc) ih

theorem append (h : Respelled cs ds) (h' : Respelled cs' ds') :
    Respelled (cs ++ cs') (ds ++ ds') := by
  induction h with
  | nil => exact h'
  | mark hc _ ih => exact .mark hc ih
  | letter hc hsome hplain _ ih =>
    rw [List.cons_append, List.append_assoc]
    exact .letter hc hsome hplain ih

theorem cons_left_iff (hc : IsMark c) :
    Respelled (c :: cs) ds ↔ ∃ ds', ds = c :: ds' ∧ Respelled cs ds' := by
  constructor
  · intro h
    cases h with
    | mark _ rest => exact ⟨_, rfl, rest⟩
    | letter hfree => exact absurd hc hfree
  · rintro ⟨ds', rfl, h⟩
    exact .mark hc h

theorem cons_right_iff (hc : IsMark c) :
    Respelled cs (c :: ds) ↔ ∃ cs', cs = c :: cs' ∧ Respelled cs' ds := by
  constructor
  · intro h
    generalize hds : c :: ds = all at h
    cases h with
    | nil => cases hds
    | mark _ rest =>
      obtain ⟨rfl, rfl⟩ := List.cons.inj hds
      exact ⟨_, rfl, rest⟩
    | @letter _ es _ _ _ hsome hplain _ =>
      obtain ⟨e, more, rfl⟩ := List.exists_cons_of_ne_nil hsome
      obtain ⟨rfl, -⟩ := List.cons.inj hds
      exact absurd hc (hplain c List.mem_cons_self)
  · rintro ⟨cs', rfl, h⟩
    exact .mark hc h

theorem nil_left_iff : Respelled [] ds ↔ ds = [] :=
  ⟨fun h => by cases h; rfl, fun h => h ▸ .nil⟩

theorem nil_right_iff : Respelled cs [] ↔ cs = [] := by
  constructor
  · intro h
    generalize hds : ([] : List Char) = all at h
    cases h with
    | nil => rfl
    | mark => cases hds
    | letter _ hsome => exact absurd (List.append_eq_nil_iff.1 hds.symm).1 hsome
  · rintro rfl
    exact .nil

theorem eq_dots_iff (h : Respelled cs ds) : cs = ['.', '.'] ↔ ds = ['.', '.'] := by
  have hdot : IsMark '.' := .inr rfl
  constructor
  · rintro rfl
    obtain ⟨one, rfl, hone⟩ := (cons_left_iff hdot).1 h
    obtain ⟨two, rfl, htwo⟩ := (cons_left_iff hdot).1 hone
    rw [nil_left_iff.1 htwo]
  · rintro rfl
    obtain ⟨one, rfl, hone⟩ := (cons_right_iff hdot).1 h
    obtain ⟨two, rfl, htwo⟩ := (cons_right_iff hdot).1 hone
    rw [nil_right_iff.1 htwo]

theorem rooted_iff (h : Respelled cs ds) : Rooted cs ↔ Rooted ds := by
  have hslash : IsMark '/' := .inl rfl
  unfold Rooted
  rw [List.head?_eq_some_iff, List.head?_eq_some_iff]
  constructor
  · rintro ⟨rest, rfl⟩
    obtain ⟨ds', rfl, -⟩ := (cons_left_iff hslash).1 h
    exact ⟨ds', rfl⟩
  · rintro ⟨rest, rfl⟩
    obtain ⟨cs', rfl, -⟩ := (cons_right_iff hslash).1 h
    exact ⟨cs', rfl⟩

theorem modifyHead {l l' : List (List Char)} (h : List.Forall₂ Respelled l l')
    (hes : Respelled es cs) :
    List.Forall₂ Respelled (l.modifyHead (es ++ ·)) (l'.modifyHead (cs ++ ·)) := by
  cases h with
  | nil => exact .nil
  | cons hfirst hrest => exact .cons (hes.append hfirst) hrest

theorem segments (h : Respelled cs ds) :
    List.Forall₂ Respelled (Text.segments '/' cs) (Text.segments '/' ds) := by
  induction h with
  | nil => exact .cons .nil .nil
  | @mark c cs ds hc _ ih =>
    by_cases hslash : c = '/'
    · rw [Text.segments, Text.segments, if_pos hslash, if_pos hslash]
      exact .cons .nil ih
    · have hfree : '/' ∉ [c] := fun hmem => hslash (List.mem_singleton.1 hmem).symm
      have hsplit (xs : List Char) : Text.segments '/' (c :: xs) =
          (Text.segments '/' xs).modifyHead ([c] ++ ·) := segments_append_of_not_mem hfree xs
      rw [hsplit, hsplit]
      exact modifyHead ih (refl [c])
  | @letter c es cs ds hc hsome hplain _ ih =>
    have hfree : '/' ∉ [c] := fun hmem => hc (.inl (List.mem_singleton.1 hmem).symm)
    have hfree' : '/' ∉ es := fun hmem => hplain _ hmem (.inl rfl)
    have hone : Respelled [c] es := List.append_nil es ▸ .letter hc hsome hplain .nil
    rw [← List.singleton_append, segments_append_of_not_mem hfree,
      segments_append_of_not_mem hfree']
    exact modifyHead ih hone

theorem mem_iff {l l' : List (List Char)} (h : List.Forall₂ Respelled l l') :
    ['.', '.'] ∈ l ↔ ['.', '.'] ∈ l' := by
  induction h with
  | nil => exact Iff.rfl
  | cons hfirst _ ih =>
    rw [List.mem_cons, List.mem_cons, ih, eq_comm, hfirst.eq_dots_iff, eq_comm]

theorem climbs_iff (h : Respelled cs ds) : Climbs cs ↔ Climbs ds := by
  have hsegments := h.segments
  unfold Climbs
  rw [List.dropLast_eq_take, List.dropLast_eq_take, hsegments.length_eq]
  exact mem_iff (List.forall₂_take _ hsegments)

end Respelled

/-! ## Letter case -/

/-- **What becomes of a character** in another letter case. -/
structure CaseOf (c : Char) (es : List Char) : Prop where
  mark : IsMark c → es = [c]
  letter : ¬ IsMark c → es ≠ [] ∧ ∀ e ∈ es, ¬ IsMark e

theorem CaseOf.respelled {c : Char} {es cs ds : List Char} (h : CaseOf c es)
    (hrest : Respelled cs ds) : Respelled (c :: cs) (es ++ ds) := by
  by_cases hc : IsMark c
  · rw [h.mark hc]
    exact .mark hc hrest
  · obtain ⟨hsome, hplain⟩ := h.letter hc
    exact .letter hc hsome hplain hrest

theorem upperChar_ne_nil (c : Char) : upperChar c ≠ [] := by
  unfold upperChar
  split
  · exact List.cons_ne_nil _ _
  · exact mapCase_ne_nil (by decide) _ _

theorem keptByCase_not_isMark : KeptByCase fun c => ¬ IsMark c := by
  have hslash : KeptByCase (· ≠ '/') := keptByCase_ne (by decide) (by decide)
  have hdot : KeptByCase (· ≠ '.') := keptByCase_ne (by decide) (by decide)
  refine ⟨fun c hc d hd => ?_, fun c hc d hd => ?_, by decide, by decide⟩
  · obtain ⟨hc, hc'⟩ := not_or.1 hc
    exact not_or.2 ⟨hslash.upper c hc d hd, hdot.upper c hc' d hd⟩
  · obtain ⟨hc, hc'⟩ := not_or.1 hc
    exact not_or.2 ⟨hslash.lower c hc d hd, hdot.lower c hc' d hd⟩

theorem caseOf_upperChar (c : Char) : CaseOf c (upperChar c) := by
  refine ⟨?_, fun hc => ⟨upperChar_ne_nil c, keptByCase_not_isMark.upper c hc⟩⟩
  rintro (rfl | rfl) <;> decide

theorem caseOf_lowerChar (c : Char) : CaseOf c (lowerChar c) := by
  refine ⟨?_, fun hc => ⟨lowerChar_ne_nil c, keptByCase_not_isMark.lower c hc⟩⟩
  rintro (rfl | rfl) <;> decide

theorem respelled_upper (cs : List Char) : Respelled cs (upper cs) := by
  induction cs with
  | nil => exact .nil
  | cons c rest ih => exact (caseOf_upperChar c).respelled ih

theorem caseOf_singleton {c e : Char} (hc : ¬ IsMark c) (he : ¬ IsMark e) : CaseOf c [e] where
  mark := fun hmark => absurd hmark hc
  letter := fun _ => ⟨List.cons_ne_nil e [], List.forall_mem_singleton.2 he⟩

theorem respelled_lowerAfter (before cs : List Char) : Respelled cs (lowerAfter before cs) := by
  induction cs generalizing before with
  | nil => exact .nil
  | cons c rest ih =>
    rw [lowerAfter]
    refine CaseOf.respelled ?_ (ih (c :: before))
    -- Whichever small sigma a capital one becomes, neither is a mark.
    split_ifs with hsigma
    · rw [hsigma]
      exact caseOf_singleton (by decide +kernel) (by decide +kernel)
    · rw [hsigma]
      exact caseOf_singleton (by decide +kernel) (by decide +kernel)
    · exact caseOf_lowerChar c

theorem respelled_lower (cs : List Char) : Respelled cs (lower cs) := respelled_lowerAfter [] cs

end Text

/-! ## Spellings of a name -/

namespace Identifier

open Text

/-- **A name without its separators.** -/
def bare (name : List Char) : List Char :=
  ((clusters name).filter fun g => !isSeparator g).flatten

theorem flatten_wordsFrom (word gs : List Cluster) :
    (wordsFrom word gs).flatten = word ++ gs.filter fun g => !isSeparator g := by
  induction gs generalizing word with
  | nil => cases word <;> simp [wordsFrom]
  | cons g rest ih =>
    rw [wordsFrom]
    split_ifs with hsep hword hends
    · rw [ih, List.isEmpty_iff.1 hword, List.filter_cons_of_neg (by simp [hsep])]
    · rw [List.flatten_cons, ih, List.nil_append, List.filter_cons_of_neg (by simp [hsep])]
    · rw [List.flatten_cons, ih, List.filter_cons_of_pos (by simp [hsep])]
      simp
    · rw [ih, List.filter_cons_of_pos (by simp [hsep])]
      simp

theorem flatten_words (name : List Char) : (words name).flatten.flatten = bare name := by
  rw [words, flatten_wordsFrom, List.nil_append, bare]

theorem respelled_capitalWord (word : List Cluster) :
    Respelled word.flatten (capitalWord word) := by
  cases word with
  | nil => exact .nil
  | cons g rest =>
    rw [List.flatten_cons]
    exact (respelled_upper g).append (respelled_lower rest.flatten)

theorem respelled_flatMap_capitalWord (ws : List (List Cluster)) :
    Respelled ws.flatten.flatten (ws.flatMap capitalWord) := by
  induction ws with
  | nil => exact .nil
  | cons w rest ih =>
    rw [List.flatten_cons, List.flatten_append, List.flatMap_cons]
    exact (respelled_capitalWord w).append ih

theorem respelled_camelChars (name : List Char) : Respelled (bare name) (camelChars name) := by
  rw [← flatten_words, camelChars]
  cases words name with
  | nil => exact .nil
  | cons first others =>
    rw [List.flatten_cons, List.flatten_append]
    exact (respelled_lower first.flatten).append (respelled_flatMap_capitalWord others)

theorem respelled_upperFirstChars (cs : List Char) : Respelled cs (upperFirstChars cs) := by
  cases cs with
  | nil => exact .nil
  | cons c rest => exact (caseOf_upperChar c).respelled (.refl rest)

/-- **A name in Pascal case** begins at the root or climbs exactly if the bare name does. -/
theorem dangers_pascal (name : String) :
    (Rooted (pascal name).toList ↔ Rooted (bare name.toList)) ∧
      (Climbs (pascal name).toList ↔ Climbs (bare name.toList)) := by
  have hcamel := respelled_camelChars name.toList
  have hfirst := respelled_upperFirstChars (camelChars name.toList)
  rw [pascal, upperFirst, camel, String.toList_ofList, String.toList_ofList]
  exact ⟨(hcamel.rooted_iff.trans hfirst.rooted_iff).symm,
    (hcamel.climbs_iff.trans hfirst.climbs_iff).symm⟩

end Identifier

end Groundwork
