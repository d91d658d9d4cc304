import Groundwork.Proofs.Field.Image
import Groundwork.Proofs.Resource.Derivation

/-!
# Reading definitions

The definitions of a resource are read one after another. The first malformed one ends the reading
with its own fault, whatever the name of the resource and the other fields are, and what was noticed
by then comes from the definitions before it. Without a malformed one every definition is read, and
what can still go wrong is the name of the resource and then a repeated field.

* `Field.log`, `Field.nameOf`: the notices of tokens, and the name that a token gives its field.
* `Field.Reads`: how a reading ends.
* **`Resource.ofDefinitions_reads`**: what definitions come to, and in which order they are refused.
-/

namespace Groundwork

open Text (segments trim)

/-! ## Names -/

namespace Field

variable {f : Field} {token : String} {tokens before after : List String} {fields : List Field}

/-- **The name that a token gives its field**: what stands before the first colon, without the
blanks around it. -/
def nameOf (token : String) : String := trim (String.ofList (token.toList.takeWhile (· ≠ ':')))

theorem name_of_parse (h : (parse token).result = .ok f) : f.name = nameOf token := by
  obtain ⟨name, type, ms, hseg, -, hmeans⟩ := exists_segmented_of_parse h
  have hhead : ((segments ':' token.toList).map String.ofList).head? = some name := by
    rw [segmented_iff.1 hseg]
    rfl
  rw [List.head?_map, Text.head?_segments, Option.map_some, Option.some.injEq] at hhead
  rw [hmeans.name, nameOf, hhead]

theorem map_name_of_read (h : List.Forall₂ (fun t f => (parse t).result = .ok f) tokens fields) :
    fields.map (·.name) = tokens.map nameOf := by
  induction h with
  | nil => rfl
  | cons hparse _ ih => rw [List.map_cons, List.map_cons, name_of_parse hparse, ih]

/-! ## Notices -/

/-- **The notices of tokens**, one token after another. -/
def log (tokens : List String) : List Notice := tokens.flatMap fun t => (parse t).notices

theorem parse_of_fault? {fault : Malformation} (h : fault? token = some fault) :
    parse token = ⟨[], .error (.malformedField token fault)⟩ := by
  have hresult := result_parse_eq_error_iff.2 ⟨fault, h, rfl⟩
  have hnotices : (parse token).notices = [] := by
    unfold parse at hresult ⊢
    split at hresult
    · split_ifs at hresult ⊢
      · rfl
      · cases hresult
    · rfl
  rw [← hnotices, ← hresult]

/-! ## How a reading ends -/

/-- **How a reading ends**, where `make` is what is made of the fields. The first malformed token
stops it with its fault and the notices of those before it; otherwise each token has given its
field, and there are the notices of all. -/
inductive Reads {α : Type} (make : List Field → Except Rejection α) :
    List String → Noted Rejection α → Prop
  | stopped {before after : List String} {token : String} {fault : Malformation}
      (sound : ∀ t ∈ before, fault? t = none) (found : fault? token = some fault) :
      Reads make (before ++ token :: after) ⟨log before, .error (.malformedField token fault)⟩
  | complete {tokens : List String} {fields : List Field}
      (read : List.Forall₂ (fun t f => (parse t).result = .ok f) tokens fields) :
      Reads make tokens ⟨log tokens, make fields⟩

theorem exists_read_iff :
    (∃ fields, List.Forall₂ (fun t f => (parse t).result = .ok f) tokens fields) ↔
      ∀ t ∈ tokens, fault? t = none := by
  simp only [← exists_result_parseAll_iff, parseAll, Noted.result_each_eq_ok_iff]

theorem forall₂_parse (h : List.Forall₂ (fun t f => (parse t).result = .ok f) tokens fields) :
    List.Forall₂ (fun t f => parse t = ⟨(parse t).notices, .ok f⟩) tokens fields :=
  h.imp fun _ _ hparse => by rw [← hparse]

theorem parseAll_of_read (h : List.Forall₂ (fun t f => (parse t).result = .ok f) tokens fields) :
    parseAll tokens = ⟨log tokens, .ok fields⟩ :=
  Noted.each_eq_ok (forall₂_parse h)

theorem parseAll_of_fault? {fault : Malformation} (hsound : ∀ t ∈ before, fault? t = none)
    (hfault : fault? token = some fault) : parseAll (before ++ token :: after)
      = ⟨log before, .error (.malformedField token fault)⟩ := by
  obtain ⟨fields, hread⟩ := exists_read_iff.2 hsound
  rw [parseAll, Noted.each_append_eq_error (forall₂_parse hread) (parse_of_fault? hfault),
    List.append_nil, log]

variable {α : Type} {make : List Field → Except Rejection α} {x : Noted Rejection α}

theorem reads_parseAll (make : List Field → Except Rejection α) (tokens : List String) :
    Reads make tokens ((parseAll tokens).andThen fun fields => ⟨[], make fields⟩) := by
  cases h : (parseAll tokens).result with
  | ok fields =>
    have hread := Noted.result_each_eq_ok_iff.1 h
    rw [parseAll_of_read hread, Noted.andThen_ok, List.append_nil]
    exact .complete hread
  | error e =>
    obtain ⟨before, token, after, fault, rfl, hsound, hfault, -⟩ := result_parseAll_eq_error_iff.1 h
    rw [parseAll_of_fault? hsound hfault, Noted.andThen_error]
    exact .stopped hsound hfault

theorem andThen_parseAll_eq_iff :
    ((parseAll tokens).andThen fun fields => ⟨[], make fields⟩) = x ↔ Reads make tokens x := by
  constructor
  · rintro rfl
    exact reads_parseAll make tokens
  · intro h
    cases h with
    | stopped hsound hfault => rw [parseAll_of_fault? hsound hfault, Noted.andThen_error]
    | complete hread => rw [parseAll_of_read hread, Noted.andThen_ok, List.append_nil]

end Field

/-! ## Resources -/

namespace Resource

open Groundwork.Field (fault? nameOf parse parseAll Reads)

variable {name plural : String} {definitions : List String} {softDeletes : Bool}

/-- **An empty name is refused** once no definition is malformed, whatever fields are repeated. -/
theorem result_ofDefinitions_eq_emptyName_iff :
    (ofDefinitions name plural definitions softDeletes).result = .error .emptyName ↔
      (∀ t ∈ definitions, fault? t = none) ∧ Nameless name := by
  refine (Description.result_resource_eq_error_iff
    (d := ⟨name, plural, definitions, softDeletes⟩)).trans ⟨fun h => ?_, ?_⟩
  · cases h with
    | name hsound hname => exact ⟨hsound, hname⟩
  · rintro ⟨hsound, hname⟩
    exact .name hsound hname

/-- **A repeated field is refused** last of all. Names are compared without the blanks around
them. -/
theorem result_ofDefinitions_eq_duplicateField_iff {n : String} :
    (ofDefinitions name plural definitions softDeletes).result = .error (.duplicateField n) ↔
      (∀ t ∈ definitions, fault? t = none) ∧ ¬ Nameless name ∧ ∃ before t after,
        definitions = before ++ t :: after ∧ (before.map nameOf).Nodup ∧
          nameOf t ∈ before.map nameOf ∧ n = nameOf t := by
  rw [← firstRepeat?_map_eq_some_iff]
  refine (Description.result_resource_eq_error_iff
    (d := ⟨name, plural, definitions, softDeletes⟩)).trans ⟨fun h => ?_, ?_⟩
  · cases h with
    | field hread hnamed hsplit hdistinct hagain =>
      have hfields := Noted.result_each_eq_ok_iff.1 hread
      rw [← Field.map_name_of_read hfields]
      exact ⟨Field.exists_read_iff.1 ⟨_, hfields⟩, hnamed,
        firstRepeat?_eq_some_iff.2 ⟨_, _, hsplit, hdistinct, hagain⟩⟩
  · rintro ⟨hsound, hnamed, hrepeat⟩
    obtain ⟨fields, hfields⟩ := Field.exists_read_iff.2 hsound
    rw [← Field.map_name_of_read hfields] at hrepeat
    obtain ⟨before, after, hsplit, hdistinct, hagain⟩ := firstRepeat?_eq_some_iff.1 hrepeat
    exact .field (Noted.result_each_eq_ok_iff.2 hfields) hnamed hsplit hdistinct hagain

/-- **What definitions come to.** The first malformed one is refused, with the notices of those
before it and none of its own. Otherwise the resource is built of what all of them give, with the
notices of all; then an empty name is refused before a repeated field. Definitions are read part by
part. -/
theorem ofDefinitions_reads (name plural : String) (definitions : List String)
    (softDeletes : Bool) :
    (∀ x, ofDefinitions name plural definitions softDeletes = x ↔
      Reads (build name plural · softDeletes) definitions x) ∧
    (∀ token fault, fault? token = some fault →
      parse token = ⟨[], .error (.malformedField token fault)⟩) ∧
    ((ofDefinitions name plural definitions softDeletes).result = .error .emptyName ↔
      (∀ t ∈ definitions, fault? t = none) ∧ Nameless name) ∧
    (∀ n, (ofDefinitions name plural definitions softDeletes).result = .error (.duplicateField n) ↔
      (∀ t ∈ definitions, fault? t = none) ∧ ¬ Nameless name ∧ ∃ before t after,
        definitions = before ++ t :: after ∧ (before.map nameOf).Nodup ∧
          nameOf t ∈ before.map nameOf ∧ n = nameOf t) ∧
    ∀ before after, parseAll (before ++ after)
      = (parseAll before).andThen fun xs => (parseAll after).andThen fun ys => .value (xs ++ ys) :=
  ⟨fun _ => Field.andThen_parseAll_eq_iff, fun _ _ => Field.parse_of_fault?,
    result_ofDefinitions_eq_emptyName_iff, fun _ => result_ofDefinitions_eq_duplicateField_iff,
    Noted.each_append parse⟩

end Resource

end Groundwork
