import Groundwork.Proofs.Field.Grammar

/-!
# The fields that can be read

A token always gives a field of a certain form, whatever its modifiers are: blanks are cut off its
name and its type, and only an integer key increments. Every field of this form is given by some
token, for its canonical token is read back as it is.

* `Text.trim_trim`, `Text.mem_of_mem_trim`: cutting blanks off leaves nothing more to cut off.
* `Field.FillsSegment`, `Field.Readable`: the texts that stand in a token as they are, and the form
  of a field that was read.
* **`Field.Readable.parse_definition`**: a canonical token is read back.
* **`Field.parse_image`**: the fields that can be read are those that their canonical tokens give.
-/

namespace Groundwork

open Text (asciiLower trim)

/-! ## Trimmed texts -/

namespace Text

theorem isPrefix_trimEnd (cs : List Char) : trimEnd cs <+: cs := by
  induction cs with
  | nil => exact List.prefix_rfl
  | cons c rest ih =>
    rw [trimEnd]
    cases h : trimEnd rest with
    | nil =>
      dsimp only
      split_ifs
      · exact List.nil_prefix
      · exact List.cons_prefix_cons.2 ⟨rfl, List.nil_prefix⟩
    | cons d more =>
      rw [h] at ih
      exact List.cons_prefix_cons.2 ⟨rfl, ih⟩

theorem trimEnd_eq_self {cs : List Char} (h : ∀ c, cs.getLast? = some c → isBlank c = false) :
    trimEnd cs = cs := by
  induction cs with
  | nil => rfl
  | cons c rest ih =>
    rw [trimEnd]
    cases rest with
    | nil =>
      have hc : isBlank c = false := h c rfl
      simp [trimEnd, hc]
    | cons d more =>
      have hrest : trimEnd (d :: more) = d :: more := by
        apply ih
        intro e he
        exact h e (by rw [List.getLast?_cons_cons, he])
      rw [hrest]

theorem trimChars_trimChars (cs : List Char) : trimChars (trimChars cs) = trimChars cs := by
  have hfront : (trimChars cs).dropWhile isBlank = trimChars cs := by
    cases h : trimChars cs with
    | nil => rfl
    | cons c rest =>
      have hhead : (trimChars cs).head? = some c := by rw [h, List.head?_cons]
      have hc : isBlank c = false := trimmed_head hhead
      exact List.dropWhile_cons_of_neg (by simp [hc])
  conv_lhs => rw [trimChars, hfront]
  exact trimEnd_eq_self fun c hc => trimmed_getLast hc

/-- **A trimmed text is trimmed already.** -/
theorem trim_trim (s : String) : trim (trim s) = trim s := by
  rw [trim, trim, String.toList_ofList, trimChars_trimChars]

/-- Trimming adds no character. -/
theorem mem_of_mem_trim {s : String} {c : Char} (h : c ∈ (trim s).toList) : c ∈ s.toList := by
  rw [trim, String.toList_ofList] at h
  exact (List.dropWhile_sublist _).subset ((isPrefix_trimEnd _).subset h)

end Text

/-! ## Fields of the form -/

namespace Field

/-- **The text fills a segment** of a token as it is: there is something, no colon, and no blank at
either end. -/
structure FillsSegment (s : String) : Prop where
  ne_empty : s ≠ ""
  apart : ':' ∉ s.toList
  trimmed : trim s = s

theorem fillsSegment_trim {s : String} (hne : trim s ≠ "") (h : ':' ∉ s.toList) :
    FillsSegment (trim s) :=
  ⟨hne, fun hcolon => h (Text.mem_of_mem_trim hcolon), Text.trim_trim s⟩

theorem fillsSegment_text {k : FieldType} (hk : k.isKnown = true) : FillsSegment k.text := by
  cases k with
  | other t => cases hk
  | _ => exact ⟨by decide, by decide, by decide⟩

/-- **The form of a field that was read.** A type outside the known ones has a text of its own. -/
structure Readable (f : Field) : Prop where
  name : FillsSegment f.name
  type : ∀ t, f.type = .other t →
    FillsSegment t ∧ ∀ k : FieldType, k.isKnown = true → asciiLower t ≠ asciiLower k.text
  incrementing : f.isIncrementing = true → f.isKey = true ∧ f.type = .integer

variable {f : Field} {token : String}

/-! ## What is read has the form -/

theorem exists_segmented_of_parse (h : (parse token).result = .ok f) : ∃ name type ms,
    Segmented token (name :: type :: ms) ∧ trim name ≠ "" ∧ Means name type ms f := by
  unfold parse at h
  split at h
  · rename_i name type ms hsegs
    have hseg : Segmented token (name :: type :: ms) := segmented_iff.2 hsegs
    split_ifs at h with hname
    · cases h
    · exact ⟨name, type, ms, hseg, hname, means_of_ofSegments h⟩
  · cases h

theorem readable_of_parse (h : (parse token).result = .ok f) : f.Readable := by
  obtain ⟨name, type, ms, hseg, hname, hmeans⟩ := exists_segmented_of_parse h
  obtain ⟨happart, hrest⟩ := List.forall_mem_cons.1 hseg.apart
  refine ⟨?_, ?_, ?_⟩
  · rw [hmeans.name]
    exact fillsSegment_trim hname happart
  · intro t ht
    have hdenotes : FieldType.Denotes (trim type) (.other t) := ht ▸ hmeans.type
    have hapart : ':' ∉ type.toList := hrest type List.mem_cons_self
    generalize htrim : trim type = s at hdenotes
    cases hdenotes with
    | known hk => cases hk
    | other hne hunknown =>
      subst htrim
      exact ⟨fillsSegment_trim hne hapart, hunknown⟩
  · intro hinc
    obtain ⟨hinteger, m, hm, hword⟩ := hmeans.incrementing.1 hinc
    exact ⟨hmeans.key.2 ⟨m, hm, List.mem_cons_of_mem _ hword⟩, hinteger⟩

/-! ## What has the form is read -/

/-- **The modifiers of the canonical token.** -/
def modifiers (f : Field) : List String :=
  f.keyModifiers ++ if f.isNullable then ["nullable"] else []

theorem colon_not_mem_modifiers (f : Field) : ∀ m ∈ f.modifiers, ':' ∉ m.toList := by
  unfold modifiers keyModifiers
  cases f.isIncrementing <;> cases f.isKey <;> cases f.isNullable <;> decide

theorem modifierNotices_modifiers (f : Field) :
    modifierNotices f.name (f.modifiers.map Modifier.ofSegment) = [] := by
  unfold modifiers keyModifiers
  cases f.isIncrementing <;> cases f.isKey <;> cases f.isNullable <;> rfl

namespace Readable

variable (h : f.Readable)

include h

theorem exists_other (hk : f.type.isKnown = false) : ∃ t, f.type = .other t ∧
    FillsSegment t ∧ ∀ k : FieldType, k.isKnown = true → asciiLower t ≠ asciiLower k.text := by
  cases htype : f.type with
  | other t => exact ⟨t, rfl, h.type t htype⟩
  | _ =>
    rw [htype] at hk
    cases hk

theorem fillsSegment_type : FillsSegment f.type.text := by
  cases hk : f.type.isKnown with
  | true => exact fillsSegment_text hk
  | false =>
    obtain ⟨t, htype, hfills, -⟩ := h.exists_other hk
    rw [htype]
    exact hfills

theorem ofText_type : FieldType.ofText f.type.text = f.type := by
  cases hk : f.type.isKnown with
  | true => exact FieldType.ofText_text hk
  | false =>
    obtain ⟨t, htype, -, hunknown⟩ := h.exists_other hk
    rw [htype]
    exact FieldType.ofText_eq_other hunknown

theorem typeOfSegment_type (field : String) : typeOfSegment field f.type.text = (f.type, []) := by
  have htrim : trim f.type.text ≠ "" := by
    rw [h.fillsSegment_type.trimmed]
    exact h.fillsSegment_type.ne_empty
  rw [typeOfSegment, if_neg htrim, h.fillsSegment_type.trimmed, h.ofText_type]

theorem ofModifiers_modifiers : Marks.ofModifiers (f.modifiers.map Modifier.ofSegment)
    = ⟨f.isKey, f.isIncrementing, f.isNullable⟩ := by
  have hkey : f.isIncrementing = true → f.isKey = true := fun hinc => (h.incrementing hinc).1
  unfold modifiers keyModifiers
  cases hinc : f.isIncrementing with
  | true =>
    rw [hkey hinc]
    cases f.isNullable <;> decide
  | false => cases f.isKey <;> cases f.isNullable <;> decide

theorem segmented_definition : Segmented f.definition (f.name :: f.type.text :: f.modifiers) := by
  refine ⟨List.cons_ne_nil _ _, rfl, ?_⟩
  rw [List.forall_mem_cons, List.forall_mem_cons]
  exact ⟨h.name.apart, h.fillsSegment_type.apart, f.colon_not_mem_modifiers⟩

/-- **The canonical token is read back**, and nothing about it is noticed but a type outside the
known ones. -/
theorem parse_definition : parse f.definition
    = ⟨if f.type.isKnown then [] else [.unknownType f.name f.type.text], .ok f⟩ := by
  have hname : trim f.name ≠ "" := by
    rw [h.name.trimmed]
    exact h.name.ne_empty
  have hnotices : ¬ (f.isIncrementing = true ∧ f.type ≠ .integer) := fun hboth =>
    hboth.2 (h.incrementing hboth.1).2
  have hcounts : (f.isIncrementing && decide (f.type = .integer)) = f.isIncrementing := by
    rw [Bool.and_eq_left_iff_imp, decide_eq_true_iff]
    intro hinc
    exact (h.incrementing hinc).2
  rw [parse_of_segmented h.segmented_definition hname, h.name.trimmed]
  unfold ofSegments
  simp only [h.typeOfSegment_type, h.ofModifiers_modifiers, modifierNotices_modifiers, typeNotices,
    if_neg hnotices, hcounts, List.nil_append]

end Readable

/-- **The fields that can be read** are those of the form, and those are the ones that their
canonical tokens give. -/
theorem parse_image (f : Field) :
    ((∃ token, (parse token).result = .ok f) ↔ f.Readable) ∧
      (f.Readable ↔ parse f.definition
        = ⟨if f.type.isKnown then [] else [.unknownType f.name f.type.text], .ok f⟩) := by
  refine ⟨⟨?_, ?_⟩, Readable.parse_definition, ?_⟩
  · rintro ⟨token, h⟩
    exact readable_of_parse h
  · intro h
    exact ⟨f.definition, by rw [h.parse_definition]⟩
  · intro h
    have hresult : (parse f.definition).result = .ok f := by rw [h]
    exact readable_of_parse hresult

end Field

end Groundwork
