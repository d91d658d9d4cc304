import Groundwork.Proofs.Field.Image

/-!
# The leniencies of reading

A token is read although its type is blank or not known, although a modifier means nothing, and
although a field that cannot increment is meant to. Each leniency gives rise to a warning, in the
order of the token, but for one: of an empty modifier nothing is noticed.

* `Leniency`, `Field.leniencies`: what is passed over when a token is read.
* **`Field.parse_notices`**: what is noticed of it, and that only empty modifiers are missing.
* **`Field.parse_silent_of_empty_modifier`**: a token whose only leniency is not noticed.
-/

namespace Groundwork

open Text (asciiLower trim)

/-! ## Leniencies -/

/-- **What is passed over** when a token is read. -/
inductive Leniency where
  /-- A blank type means a string. -/
  | emptyType
  /-- A segment whose word is no modifier's, if it has one, means nothing. -/
  | modifier (word : String)
  /-- A field that is no integer is only a key where it is meant to increment. -/
  | notIncrementing
  /-- A type outside the known ones is kept. -/
  | unknownType
  deriving DecidableEq, Repr

/-- The notice of a leniency towards a field. -/
def Leniency.notice (f : Field) : Leniency → Notice
  | .emptyType => .emptyType f.name
  | .modifier word => .unknownModifier f.name word
  | .notIncrementing => .notIncrementing f.name f.type.text
  | .unknownType => .unknownType f.name f.type.text

theorem Leniency.level_notice (f : Field) (l : Leniency) : (l.notice f).level = .warn := by
  cases l <;> rfl

namespace Field

/-- **The leniencies towards a field** with these segments after its name, in the order of a token:
its type, its modifiers one by one, and then how the two go together. -/
def leniencies (f : Field) (type : String) (modifiers : List String) : List Leniency :=
  (if trim type = "" then [.emptyType] else [])
    ++ ((modifiers.map Modifier.word).filter (· ∉ modifierWords)).map .modifier
    ++ (if (∃ m ∈ modifiers, Modifier.word m ∈ ["increments", "autoincrement"]) ∧ f.type ≠ .integer
      then [.notIncrementing] else [])
    ++ if f.type.isKnown then [] else [.unknownType]

/-! ## Notices -/

theorem word_eq_empty_iff {segment : String} : Modifier.word segment = "" ↔ trim segment = "" := by
  rw [Modifier.word, asciiLower, String.ofList_eq_empty_iff, List.map_eq_nil_iff,
    String.toList_eq_nil_iff]

theorem typeOfSegment_snd (field segment : String) : (typeOfSegment field segment).2
    = if trim segment = "" then [.emptyType field] else [] := by
  unfold typeOfSegment
  split <;> rfl

theorem ofWord_eq_unknown_iff {word w : String} :
    Modifier.ofWord word = .unknown w ↔ (word ∉ modifierWords ∧ word ≠ "") ∧ word = w := by
  unfold Modifier.ofWord
  split_ifs <;> grind [modifierWords]

theorem modifierNotices_map_ofSegment (field : String) (modifiers : List String) :
    modifierNotices field (modifiers.map Modifier.ofSegment)
      = (((modifiers.map Modifier.word).filter (· ∉ modifierWords)).filter (· ≠ "")).map
        (.unknownModifier field) := by
  conv_rhs =>
    rw [List.filter_filter, ← List.filterMap_eq_map, List.filterMap_filter, List.filterMap_map]
  rw [modifierNotices, List.filterMap_map]
  refine List.filterMap_congr fun m _ => ?_
  have hword (w : String) : Modifier.ofSegment m = .unknown w ↔ _ := ofWord_eq_unknown_iff
  simp only [Function.comp_apply, Bool.and_eq_true, decide_eq_true_iff, and_comm (b := _ ∉ _)]
  split_ifs with h
  · rw [(hword _).2 ⟨h, rfl⟩]
    rfl
  · split
    · rename_i w hw
      exact absurd ((hword w).1 hw).1 h
    · rfl

theorem notices_ofSegments {name type : String} {modifiers : List String} {f : Field}
    (h : (ofSegments name type (modifiers.map Modifier.ofSegment)).result = .ok f) :
    (ofSegments name type (modifiers.map Modifier.ofSegment)).notices
      = ((f.leniencies type modifiers).filter (· ≠ .modifier "")).map (Leniency.notice f) := by
  simp only [ofSegments, Except.ok.injEq] at h
  have hname : f.name = name := by rw [← h]
  have hnotices : (ofSegments name type (modifiers.map Modifier.ofSegment)).notices
      = (typeOfSegment name type).2 ++ modifierNotices name (modifiers.map Modifier.ofSegment)
        ++ typeNotices name f.type
          (Marks.ofModifiers (modifiers.map Modifier.ofSegment)).increments := by
    rw [← h]
    rfl
  have hwords (ws : List String) :
      ((ws.map Leniency.modifier).filter (· ≠ .modifier "")).map (Leniency.notice f)
        = (ws.filter (· ≠ "")).map (.unknownModifier f.name) := by
    have hne : (fun l => decide (l ≠ Leniency.modifier "")) ∘ Leniency.modifier
        = fun w => decide (w ≠ "") := by
      funext w
      simp
    rw [List.filter_map, List.map_map, hne]
    rfl
  rw [hnotices, typeOfSegment_snd, modifierNotices_map_ofSegment, typeNotices, leniencies, ← hname]
  simp only [Marks.increments_ofModifiers_iff, List.filter_append, List.map_append, hwords,
    apply_ite (List.filter _), apply_ite (List.map _), List.append_assoc]
  rfl

theorem empty_mem_leniencies_iff {f : Field} {type : String} {modifiers : List String} :
    .modifier "" ∈ f.leniencies type modifiers ↔ ∃ m ∈ modifiers, trim m = "" := by
  have hempty : "" ∉ modifierWords := by decide
  simp [leniencies, hempty, word_eq_empty_iff, List.mem_ite_nil_left, List.mem_ite_nil_right]

/-- **What is noticed of a token** is each leniency, in its order, but for empty modifiers: where
one stands, a warning is missing. -/
theorem parse_notices {token : String} {f : Field} (h : (parse token).result = .ok f) :
    ∃ name type ms, Segmented token (name :: type :: ms) ∧ Means name type ms f ∧
      (parse token).notices
        = ((f.leniencies type ms).filter (· ≠ .modifier "")).map (Leniency.notice f) ∧
      (∀ n ∈ (parse token).notices, n.level = .warn) ∧
      ((parse token).notices = (f.leniencies type ms).map (Leniency.notice f) ↔
        ∀ m ∈ ms, trim m ≠ "") ∧
      ((parse token).notices.length = (f.leniencies type ms).length ↔ ∀ m ∈ ms, trim m ≠ "") := by
  obtain ⟨name, type, ms, hseg, hname, hmeans⟩ := exists_segmented_of_parse h
  have hparse := parse_of_segmented hseg hname
  have hnotices : (parse token).notices
      = ((f.leniencies type ms).filter (· ≠ .modifier "")).map (Leniency.notice f) := by
    rw [hparse] at h ⊢
    exact notices_ofSegments h
  have hall : (∀ l ∈ f.leniencies type ms, decide (l ≠ .modifier "") = true) ↔
      ∀ m ∈ ms, trim m ≠ "" := by
    constructor
    · intro h m hm hempty
      exact of_decide_eq_true (h _ (empty_mem_leniencies_iff.2 ⟨m, hm, hempty⟩)) rfl
    · intro h l hl
      refine decide_eq_true ?_
      rintro rfl
      obtain ⟨m, hm, hempty⟩ := empty_mem_leniencies_iff.1 hl
      exact h m hm hempty
  have hnumber : (parse token).notices.length = (f.leniencies type ms).length ↔
      ∀ m ∈ ms, trim m ≠ "" := by
    rw [hnotices, List.length_map, List.length_filter_eq_length_iff, hall]
  refine ⟨name, type, ms, hseg, hmeans, hnotices, ?_, ⟨fun heq => ?_, fun hwords => ?_⟩, hnumber⟩
  · rw [hnotices, List.forall_mem_map]
    exact fun l _ => l.level_notice f
  · exact hnumber.1 (by rw [heq, List.length_map])
  · rw [hnotices, List.filter_eq_self.2 (hall.2 hwords)]

/-- Three leniencies are noticed, and the empty modifier before them is not. -/
theorem parse_notices_of_serial :
    let token := "n: Serial :increments: :PRIMARY:Unique"
    let f : Field := ⟨"n", .other "Serial", true, false, false⟩
    (parse token).result = .ok f ∧ (parse token).notices = [.unknownModifier "n" "unique",
      .notIncrementing "n" "Serial", .unknownType "n" "Serial"] ∧
      ∃ name type ms, Segmented token (name :: type :: ms) ∧
        (parse token).notices.length ≠ (f.leniencies type ms).length := by
  intro token f
  have h : (parse token).result = .ok f := by decide +kernel
  obtain ⟨name, type, ms, hseg, -, -, -, -, hnumber⟩ := parse_notices h
  have hms : name :: type :: ms = ["n", " Serial ", "increments", " ", "PRIMARY", "Unique"] := by
    rw [← segmented_iff.1 hseg]
    decide +kernel
  obtain ⟨-, -, rfl⟩ : name = "n" ∧ type = " Serial " ∧ ms = _ := by simpa using hms
  exact ⟨h, by decide +kernel, name, type, _, hseg, mt hnumber.1 (by decide)⟩

/-- **Of an empty modifier nothing is noticed**, though it is passed over like an unknown one. -/
theorem parse_silent_of_empty_modifier :
    let f : Field := ⟨"title", .string, false, false, false⟩
    Segmented "title:string:" ["title", "string", ""] ∧ (parse "title:string:").result = .ok f ∧
      f.leniencies "string" [""] = [.modifier ""] ∧ (parse "title:string:").notices = [] := by
  refine ⟨segmented_iff.2 ?_, ?_, ?_, ?_⟩ <;> decide +kernel

end Field

end Groundwork
