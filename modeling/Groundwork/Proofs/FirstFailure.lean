import Groundwork.Commands
import Mathlib.Data.List.Forall2
import Mathlib.Data.List.TakeWhile

/-!
# The first failure

Tokens are read and templates rendered one after another, up to the first failure. What that
failure is can be said without the notices on the way to it; those are the notices of the items
that were gone through.

* **`Noted.result_each_eq_error_iff`**: the failure of a list is that of its first failing item.
* **`Noted.each_append`**: a list is gone through part by part.
* `Noted.each_eq_ok`, `Noted.each_append_eq_error`: the notices of a list.
* `Field.fault?`: what is wrong with a token, if anything.
* **`Field.result_parse_eq_error_iff`**: a token is refused exactly for its fault.
-/

namespace Groundwork

namespace Noted

variable {ε ε' α β γ : Type}

theorem result_andThen (x : Noted ε α) (f : α → Noted ε β) :
    (x.andThen f).result = x.result.bind fun a => (f a).result := by
  obtain ⟨ns, e | a⟩ := x <;> rfl

theorem result_andThen_eq_ok_iff {x : Noted ε α} {f : α → Noted ε β} {b : β} :
    (x.andThen f).result = .ok b ↔ ∃ a, x.result = .ok a ∧ (f a).result = .ok b := by
  rw [result_andThen]
  cases x.result <;> simp [Except.bind]

theorem result_andThen_eq_error_iff {x : Noted ε α} {f : α → Noted ε β} {e : ε} :
    (x.andThen f).result = .error e ↔
      x.result = .error e ∨ ∃ a, x.result = .ok a ∧ (f a).result = .error e := by
  rw [result_andThen]
  cases x.result <;> simp [Except.bind]

theorem result_mapFailure_eq_ok_iff {g : ε → ε'} {x : Noted ε α} {a : α} :
    (x.mapFailure g).result = .ok a ↔ x.result = .ok a := by
  obtain ⟨ns, e | b⟩ := x <;> simp [mapFailure, Except.mapError]

theorem result_mapFailure_eq_error_iff {g : ε → ε'} {x : Noted ε α} {e : ε'} :
    (x.mapFailure g).result = .error e ↔ ∃ e₀, x.result = .error e₀ ∧ g e₀ = e := by
  obtain ⟨ns, e₀ | b⟩ := x <;> simp [mapFailure, Except.mapError]

theorem result_each_eq_ok_iff {f : α → Noted ε β} {l : List α} {bs : List β} :
    (each f l).result = .ok bs ↔ List.Forall₂ (fun a b => (f a).result = .ok b) l bs := by
  induction l generalizing bs with
  | nil => cases bs <;> simp [each, value]
  | cons a rest ih =>
    rw [each, result_andThen_eq_ok_iff]
    simp only [result_andThen_eq_ok_iff, ih]
    constructor
    · rintro ⟨b, hb, cs, hcs, h⟩
      obtain rfl := Except.ok.inj h
      exact .cons hb hcs
    · rintro (_ | ⟨hb, hcs⟩)
      exact ⟨_, hb, _, hcs, rfl⟩

theorem exists_result_each_iff {f : α → Noted ε β} {l : List α} :
    (∃ bs, (each f l).result = .ok bs) ↔ ∀ a ∈ l, ∃ b, (f a).result = .ok b := by
  simp only [result_each_eq_ok_iff]
  induction l with
  | nil => simp
  | cons a rest ih => simp [List.forall₂_cons_left_iff, ← ih]

/-- **The failure of a list is that of its first failing item.** -/
theorem result_each_eq_error_iff {f : α → Noted ε β} {l : List α} {e : ε} :
    (each f l).result = .error e ↔ ∃ before a after, l = before ++ a :: after ∧
      (∀ b ∈ before, ∃ c, (f b).result = .ok c) ∧ (f a).result = .error e := by
  induction l with
  | nil => simp [each, value]
  | cons a rest ih =>
    rw [each, result_andThen_eq_error_iff]
    simp only [result_andThen_eq_error_iff, ih]
    constructor
    · rintro (h | ⟨b, hb, ⟨before, a', after, rfl, hbefore, ha'⟩ | ⟨cs, _, h⟩⟩)
      · exact ⟨[], a, rest, rfl, by simp, h⟩
      · refine ⟨a :: before, a', after, rfl, ?_, ha'⟩
        simpa using ⟨⟨b, hb⟩, hbefore⟩
      · cases h
    · rintro ⟨_ | ⟨b, before⟩, a', after, hl, hbefore, ha'⟩
      · obtain ⟨rfl, rfl⟩ := List.cons.inj hl
        exact .inl ha'
      · obtain ⟨rfl, rfl⟩ := List.cons.inj hl
        obtain ⟨⟨c, hc⟩, hrest⟩ := List.forall_mem_cons.1 hbefore
        exact .inr ⟨c, hc, .inl ⟨before, a', after, rfl, hrest, ha'⟩⟩

/-! ### Notices of a list -/

theorem andThen_value (x : Noted ε α) : x.andThen value = x := by
  obtain ⟨ns, e | a⟩ := x
  · rfl
  · simp [value]

theorem andThen_assoc (x : Noted ε α) (f : α → Noted ε β) (g : β → Noted ε γ) :
    (x.andThen f).andThen g = x.andThen fun a => (f a).andThen g := by
  obtain ⟨ns, e | a⟩ := x
  · rfl
  · rw [andThen_ok, andThen_ok]
    obtain ⟨ms, e | b⟩ := f a
    · rfl
    · simp

/-- **A list is gone through part by part**: the second part only when the first had no failure. -/
theorem each_append (f : α → Noted ε β) (as bs : List α) :
    each f (as ++ bs)
      = (each f as).andThen fun xs => (each f bs).andThen fun ys => value (xs ++ ys) := by
  induction as with
  | nil =>
    rw [List.nil_append, each]
    exact (andThen_value _).symm
  | cons a rest ih =>
    rw [List.cons_append, each, each, ih]
    simp only [andThen_assoc]
    rfl

/-- **A list that goes through** has the notices of all items. -/
theorem each_eq_ok {f : α → Noted ε β} {note : α → List Notice} {l : List α} {bs : List β}
    (h : List.Forall₂ (fun a b => f a = ⟨note a, .ok b⟩) l bs) :
    each f l = ⟨l.flatMap note, .ok bs⟩ := by
  induction h with
  | nil => rfl
  | cons ha _ ih =>
    rw [each, ha, ih, andThen_ok, andThen_ok]
    simp [value]

/-- **A list that fails** has the notices of the items up to the failing one, and no others. -/
theorem each_append_eq_error {f : α → Noted ε β} {note : α → List Notice} {before after : List α}
    {bs : List β} {a : α} {ns : List Notice} {e : ε}
    (hb : List.Forall₂ (fun a b => f a = ⟨note a, .ok b⟩) before bs) (ha : f a = ⟨ns, .error e⟩) :
    each f (before ++ a :: after) = ⟨before.flatMap note ++ ns, .error e⟩ := by
  rw [each_append, each_eq_ok hb, each, ha, andThen_error, andThen_ok, andThen_error]

end Noted

/-! ## Tokens -/

namespace Field

open Text (segments segments_append_cons segments_ne_nil segments_of_not_mem trim)

/-- **What is wrong with a token**, if anything: it has no colon, or nothing but blanks before the
first one. -/
def fault? (token : String) : Option Malformation :=
  if ':' ∈ token.toList then
    if trim (String.ofList (token.toList.takeWhile (· ≠ ':'))) = "" then some .emptyName else none
  else some .missingType

theorem exists_eq_takeWhile_append {sep : Char} {cs : List Char} (h : sep ∈ cs) :
    ∃ rest, cs = cs.takeWhile (· ≠ sep) ++ sep :: rest := by
  cases hd : cs.dropWhile (· ≠ sep) with
  | nil =>
    have := List.dropWhile_eq_nil_iff.1 hd sep h
    simp at this
  | cons c rest =>
    have hc : c = sep := by
      have := List.head?_dropWhile_not (· ≠ sep) cs
      rw [hd] at this
      simpa using this
    refine ⟨rest, ?_⟩
    calc cs = cs.takeWhile (· ≠ sep) ++ cs.dropWhile (· ≠ sep) :=
          List.takeWhile_append_dropWhile.symm
      _ = cs.takeWhile (· ≠ sep) ++ sep :: rest := by rw [hd, hc]

/-- **A token is refused exactly for its fault.** -/
theorem result_parse_eq_error_iff {token : String} {r : Rejection} :
    (parse token).result = .error r ↔ ∃ f, fault? token = some f ∧ r = .malformedField token f := by
  unfold fault? parse
  by_cases h : ':' ∈ token.toList
  · obtain ⟨rest, hrest⟩ := exists_eq_takeWhile_append h
    obtain ⟨type, more, hmore⟩ := List.exists_cons_of_ne_nil (segments_ne_nil ':' rest)
    have hseg : segments ':' token.toList = token.toList.takeWhile (· ≠ ':') :: type :: more := by
      conv_lhs => rw [hrest, segments_append_cons, hmore]
      rw [segments_of_not_mem fun hm => by simpa using List.mem_takeWhile_imp hm]
      rfl
    rw [hseg, if_pos h]
    simp only [List.map_cons]
    split
    · simp [Noted.failure, eq_comm]
    · simp [ofSegments]
  · rw [segments_of_not_mem h, if_neg h]
    simp [Noted.failure, eq_comm]

theorem fault?_eq_none_iff {token : String} :
    fault? token = none ↔ ∃ f, (parse token).result = .ok f := by
  cases h : (parse token).result with
  | ok f =>
    simp only [Except.ok.injEq, exists_eq', iff_true]
    by_contra hf
    obtain ⟨fault, hf⟩ := Option.ne_none_iff_exists'.1 hf
    have := result_parse_eq_error_iff.2 ⟨fault, hf, rfl⟩
    rw [h] at this
    cases this
  | error r =>
    obtain ⟨fault, hf, -⟩ := result_parse_eq_error_iff.1 h
    simp [hf]

end Field

end Groundwork
