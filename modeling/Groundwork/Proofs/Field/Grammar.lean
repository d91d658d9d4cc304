import Groundwork.Proofs.FirstFailure

/-!
# The grammar of field definitions

A token is cut at its colons into a name, a type and modifiers. What it means is said here segment
by segment: each mark asks for some modifier among the segments, so neither their order nor their
number matters, and what is no modifier does not matter at all.

* `Field.Segmented`: the segments of a token, the only texts without a colon that join to it.
* `FieldType.Denotes`, `Field.Means`: what a type segment and a whole token mean.
* `Marks.mark_ofModifiers_iff`: a mark is set exactly when some segment has a word that sets it.
* **`Field.parse_grammar`**: a token without a type or a name is refused, and any other is read as
  the field that it means.
-/

namespace Groundwork

open Text (asciiLower segments trim)

/-! ## Segments -/

namespace Text

theorem segments_intercalate {sep : Char} {ss : List (List Char)} (hne : ss ≠ [])
    (h : ∀ s ∈ ss, sep ∉ s) : segments sep ([sep].intercalate ss) = ss := by
  induction ss with
  | nil => exact absurd rfl hne
  | cons s rest ih =>
    obtain ⟨hs, hrest⟩ := List.forall_mem_cons.1 h
    cases rest with
    | nil => rw [List.intercalate_singleton, segments_of_not_mem hs]
    | cons s' more =>
      rw [List.intercalate_cons_cons, List.append_assoc, List.singleton_append,
        segments_append_cons, segments_of_not_mem hs, ih (List.cons_ne_nil _ _) hrest,
        List.singleton_append]

end Text

namespace Field

/-- **The segments of a token**: one or more texts without a colon, which colons join to it. -/
structure Segmented (token : String) (ss : List String) : Prop where
  ne_nil : ss ≠ []
  joined : ":".intercalate ss = token
  apart : ∀ s ∈ ss, ':' ∉ s.toList

theorem segmented_iff {token : String} {ss : List String} :
    Segmented token ss ↔ (segments ':' token.toList).map String.ofList = ss := by
  have hcolon : ":".toList = [':'] := rfl
  constructor
  · rintro ⟨hne, rfl, hapart⟩
    rw [String.toList_intercalate, hcolon,
      Text.segments_intercalate (by simpa using hne) (by simpa using hapart), List.map_map]
    exact (List.map_congr_left fun s _ => String.ofList_toList).trans (List.map_id ss)
  · rintro rfl
    refine ⟨?_, ?_, ?_⟩
    · simpa using Text.segments_ne_nil ':' token.toList
    · have hlists : ((segments ':' token.toList).map String.ofList).map String.toList
          = segments ':' token.toList := by simp [List.map_map, Function.comp_def]
      rw [← String.toList_inj, String.toList_intercalate, hcolon, hlists,
        Text.intercalate_segments]
    · rw [List.forall_mem_map]
      intro s hs
      rw [String.toList_ofList]
      exact Text.not_mem_of_mem_segments hs

end Field

/-! ## Types -/

namespace FieldType

/-- **What the text of a type denotes.** An empty text means a string; the name of a known type
denotes it in any letter case; any other text is a type of its own. -/
inductive Denotes : String → FieldType → Prop where
  | empty : Denotes "" .string
  | known {t : String} {k : FieldType} (hk : k.isKnown = true)
      (h : asciiLower t = asciiLower k.text) : Denotes t k
  | other {t : String} (hne : t ≠ "")
      (h : ∀ k : FieldType, k.isKnown = true → asciiLower t ≠ asciiLower k.text) :
      Denotes t (.other t)

theorem asciiLower_text {k : FieldType} (hk : k.isKnown = true) : asciiLower k.text = k.text := by
  cases k with
  | other t => cases hk
  | _ => decide

theorem text_ne_empty {k : FieldType} (hk : k.isKnown = true) : k.text ≠ "" := by
  cases k with
  | other t => cases hk
  | _ => decide

theorem ofText_eq_iff {t : String} {k : FieldType} (hk : k.isKnown = true) :
    ofText t = k ↔ asciiLower t = asciiLower k.text := by
  rw [asciiLower_text hk]
  constructor
  · rintro rfl
    unfold ofText at hk ⊢
    simp only at hk ⊢
    split_ifs at hk ⊢ <;> first | assumption | cases hk
  · intro h
    unfold ofText
    rw [h]
    cases k with
    | other t => cases hk
    | _ => rfl

theorem ofText_eq_other {t : String}
    (h : ∀ k : FieldType, k.isKnown = true → asciiLower t ≠ asciiLower k.text) :
    ofText t = .other t := by
  have hk : (ofText t).isKnown ≠ true := fun hk => h _ hk ((ofText_eq_iff hk).1 rfl)
  unfold ofText at hk ⊢
  simp only at hk ⊢
  split_ifs at hk ⊢ <;> first | rfl | exact absurd rfl hk

theorem denotes_iff {t : String} {k : FieldType} :
    Denotes t k ↔ k = if t = "" then .string else ofText t := by
  constructor
  · intro h
    cases h with
    | empty => rfl
    | known hk h =>
      have hne : t ≠ "" := by
        rintro rfl
        rw [asciiLower_text hk] at h
        exact text_ne_empty hk h.symm
      rw [if_neg hne, (ofText_eq_iff hk).2 h]
    | other hne h => rw [if_neg hne, ofText_eq_other h]
  · rintro rfl
    split_ifs with hempty
    · exact hempty ▸ .empty
    · cases hk : (ofText t).isKnown with
      | true => exact .known hk ((ofText_eq_iff hk).1 rfl)
      | false =>
        have hnone : ∀ k : FieldType, k.isKnown = true → asciiLower t ≠ asciiLower k.text := by
          intro k hk' h
          rw [(ofText_eq_iff hk').2 h, hk'] at hk
          cases hk
        rw [ofText_eq_other hnone]
        exact .other hempty hnone

end FieldType

/-! ## Modifiers -/

/-- **The word of a modifier segment**: without the blanks around it, in lower case. -/
def Modifier.word (segment : String) : String := asciiLower (trim segment)

namespace Marks

variable {mark : Marks → Bool} {words : List String}

/-- **A mark is set exactly when it was set or some segment has a word that sets it**, whichever
mark it is. -/
theorem foldl_ofSegment_iff
    (hadd : ∀ m w, mark (add m (.ofWord w)) = true ↔ mark m = true ∨ w ∈ words) (m : Marks)
    (segments : List String) :
    mark ((segments.map Modifier.ofSegment).foldl add m) = true ↔
      mark m = true ∨ ∃ s ∈ segments, Modifier.word s ∈ words := by
  induction segments generalizing m with
  | nil => simp
  | cons s rest ih =>
    have hone : mark (add m (.ofSegment s)) = true ↔ mark m = true ∨ Modifier.word s ∈ words :=
      hadd m (Modifier.word s)
    rw [List.map_cons, List.foldl_cons, ih, hone, or_assoc, List.exists_mem_cons_iff]

/-- **The marks that segments ask for** are those that a word of them sets. -/
theorem mark_ofModifiers_iff (hnone : mark none = false)
    (hadd : ∀ m w, mark (add m (.ofWord w)) = true ↔ mark m = true ∨ w ∈ words)
    (segments : List String) :
    mark (ofModifiers (segments.map Modifier.ofSegment)) = true ↔
      ∃ s ∈ segments, Modifier.word s ∈ words := by
  rw [ofModifiers, foldl_ofSegment_iff hadd, hnone]
  simp only [Bool.false_eq_true, false_or]

theorem key_ofModifiers_iff (segments : List String) :
    (ofModifiers (segments.map Modifier.ofSegment)).key = true ↔
      ∃ s ∈ segments, Modifier.word s ∈ ["primary", "increments", "autoincrement"] := by
  refine mark_ofModifiers_iff rfl (fun m w => ?_) segments
  unfold Modifier.ofWord
  split_ifs <;> grind [add]

theorem increments_ofModifiers_iff (segments : List String) :
    (ofModifiers (segments.map Modifier.ofSegment)).increments = true ↔
      ∃ s ∈ segments, Modifier.word s ∈ ["increments", "autoincrement"] := by
  refine mark_ofModifiers_iff rfl (fun m w => ?_) segments
  unfold Modifier.ofWord
  split_ifs <;> grind [add]

theorem nullable_ofModifiers_iff (segments : List String) :
    (ofModifiers (segments.map Modifier.ofSegment)).nullable = true ↔
      ∃ s ∈ segments, Modifier.word s ∈ ["nullable"] := by
  refine mark_ofModifiers_iff rfl (fun m w => ?_) segments
  unfold Modifier.ofWord
  split_ifs <;> grind [add]

end Marks

/-! ## Tokens -/

namespace Field

theorem typeOfSegment_fst (field segment : String) :
    (typeOfSegment field segment).1
      = if trim segment = "" then .string else .ofText (trim segment) := by
  unfold typeOfSegment
  by_cases h : trim segment = ""
  · rw [if_pos h, if_pos h]
  · rw [if_neg h, if_neg h]

/-- **What a well-formed token means**: the field of its name, its type and its modifiers. -/
structure Means (name type : String) (modifiers : List String) (f : Field) : Prop where
  name : f.name = trim name
  type : FieldType.Denotes (trim type) f.type
  key : f.isKey = true ↔
    ∃ m ∈ modifiers, Modifier.word m ∈ ["primary", "increments", "autoincrement"]
  incrementing : f.isIncrementing = true ↔ f.type = .integer ∧
    ∃ m ∈ modifiers, Modifier.word m ∈ ["increments", "autoincrement"]
  nullable : f.isNullable = true ↔ ∃ m ∈ modifiers, Modifier.word m ∈ ["nullable"]

theorem means_of_ofSegments {name type : String} {modifiers : List String} {f : Field}
    (h : (ofSegments (trim name) type (modifiers.map Modifier.ofSegment)).result = .ok f) :
    Means name type modifiers f := by
  simp only [ofSegments, Except.ok.injEq] at h
  subst h
  refine ⟨rfl, ?_, Marks.key_ofModifiers_iff _, ?_, Marks.nullable_ofModifiers_iff _⟩
  · exact FieldType.denotes_iff.2 (typeOfSegment_fst _ _)
  · rw [Bool.and_eq_true, decide_eq_true_iff, and_comm, Marks.increments_ofModifiers_iff]

/-- The words that mean something as a modifier. -/
def modifierWords : List String := ["primary", "increments", "autoincrement", "nullable"]

theorem Means.congr {name type name' type' : String} {ms ms' : List String} {f f' : Field}
    (h : Means name type ms f) (h' : Means name' type' ms' f') (hname : trim name' = trim name)
    (htype : trim type' = trim type)
    (hwords : ∀ w ∈ modifierWords,
      (∃ m ∈ ms', Modifier.word m = w) ↔ ∃ m ∈ ms, Modifier.word m = w) : f' = f := by
  have hmark {words : List String} (hsub : words ⊆ modifierWords) :
      (∃ m ∈ ms', Modifier.word m ∈ words) ↔ ∃ m ∈ ms, Modifier.word m ∈ words := by
    constructor
    · rintro ⟨m, hm, hw⟩
      obtain ⟨m', hm', heq⟩ := (hwords _ (hsub hw)).1 ⟨m, hm, rfl⟩
      exact ⟨m', hm', heq.symm ▸ hw⟩
    · rintro ⟨m, hm, hw⟩
      obtain ⟨m', hm', heq⟩ := (hwords _ (hsub hw)).2 ⟨m, hm, rfl⟩
      exact ⟨m', hm', heq.symm ▸ hw⟩
  have hkind : f'.type = f.type := by
    rw [FieldType.denotes_iff.1 h.type, FieldType.denotes_iff.1 h'.type, htype]
  have hkey : f'.isKey = f.isKey := by
    rw [Bool.eq_iff_iff, h.key, h'.key]
    exact hmark (by simp [modifierWords])
  have hinc : f'.isIncrementing = f.isIncrementing := by
    rw [Bool.eq_iff_iff, h.incrementing, h'.incrementing, hkind]
    exact and_congr_right fun _ => hmark (by simp [modifierWords])
  have hnull : f'.isNullable = f.isNullable := by
    rw [Bool.eq_iff_iff, h.nullable, h'.nullable]
    exact hmark (by simp [modifierWords])
  have hname' : f'.name = f.name := by rw [h'.name, h.name, hname]
  cases f
  cases f'
  simp only at hname' hkind hkey hinc hnull
  rw [hname', hkind, hkey, hinc, hnull]

theorem parse_of_segmented {token name type : String} {ms : List String}
    (h : Segmented token (name :: type :: ms)) (hname : trim name ≠ "") :
    parse token = ofSegments (trim name) type (ms.map Modifier.ofSegment) := by
  unfold parse
  rw [segmented_iff.1 h]
  exact if_neg hname

theorem exists_parse_of_segmented {token name type : String} {ms : List String}
    (h : Segmented token (name :: type :: ms)) (hname : trim name ≠ "") :
    ∃ f, (parse token).result = .ok f ∧ Means name type ms f := by
  rw [parse_of_segmented h hname]
  exact ⟨_, rfl, means_of_ofSegments rfl⟩

/-- **A token is read as what its segments mean.** It is refused when there is no type or no name,
and nothing else about it is wrong; which words its modifiers have is all that matters of them. -/
theorem parse_grammar (token : String) : ∃ name rest,
    (∀ ss, Segmented token ss ↔ ss = name :: rest) ∧
    (∀ r, (parse token).result = .error r ↔
      (rest = [] ∧ r = .malformedField token .missingType) ∨
      (rest ≠ [] ∧ trim name = "" ∧ r = .malformedField token .emptyName)) ∧
    (∀ type ms, rest = type :: ms → trim name ≠ "" →
      ∃ f, (parse token).result = .ok f ∧ Means name type ms f ∧
        ∀ token' name' type' ms', Segmented token' (name' :: type' :: ms') →
          trim name' = trim name → trim type' = trim type →
          (∀ w ∈ modifierWords,
            (∃ m ∈ ms', Modifier.word m = w) ↔ ∃ m ∈ ms, Modifier.word m = w) →
          (parse token').result = .ok f) := by
  have hsegs : Segmented token _ := segmented_iff.2 rfl
  obtain ⟨name, rest, hseg⟩ := List.exists_cons_of_ne_nil hsegs.ne_nil
  have hss (ss : List String) : Segmented token ss ↔ ss = name :: rest := by
    rw [segmented_iff, hseg, eq_comm]
  refine ⟨name, rest, hss, fun r => ?_, ?_⟩
  · cases rest with
    | nil =>
      have hparse : (parse token).result = .error (.malformedField token .missingType) := by
        unfold parse
        rw [hseg]
        rfl
      simp [hparse, eq_comm (a := r)]
    | cons type ms =>
      by_cases hname : trim name = ""
      · have hparse : (parse token).result = .error (.malformedField token .emptyName) := by
          unfold parse
          rw [hseg]
          simp [hname, Noted.failure]
        simp [hparse, hname, eq_comm (a := r)]
      · obtain ⟨f, hf, -⟩ := exists_parse_of_segmented ((hss _).2 rfl) hname
        simp only [hf, reduceCtorEq, hname, false_and, and_false, or_self]
  · rintro type ms rfl hname
    obtain ⟨f, hf, hmeans⟩ := exists_parse_of_segmented ((hss _).2 rfl) hname
    refine ⟨f, hf, hmeans, fun token' name' type' ms' hseg' hname' htype hwords => ?_⟩
    obtain ⟨f', hf', hmeans'⟩ := exists_parse_of_segmented hseg' (hname' ▸ hname)
    rw [hf', hmeans.congr hmeans' hname' htype hwords]

example : (parse " n : INTEGER :: Increments : unique").result
    = .ok ⟨"n", .integer, true, true, false⟩ := by decide +kernel

end Field

end Groundwork
