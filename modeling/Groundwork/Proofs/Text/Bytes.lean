import Groundwork.Text.Line

/-!
# The bytes of a text

A text is encoded character by character. The byte of a line feed stands for the line feed alone, so
the lines of a text are the lines of its bytes.

* **`encode_eq_flatMap`**: the bytes of a text are those of its characters.
* **`decode?_eq_some_iff`**: bytes have a text exactly if they are those of a text.
* **`lineFeed_not_mem_encode`**: a text without a line feed has no such byte.
-/

namespace Groundwork.Text

/-- **The bytes of a text** are those of its characters. -/
theorem encode_eq_flatMap (s : String) : encode s = s.toList.flatMap String.utf8EncodeChar := by
  rw [encode, String.toUTF8, ← String.utf8Encode_toList, List.utf8Encode, List.data_toByteArray]

/-- **Bytes have a text** exactly if they are those of a text. -/
theorem decode?_eq_some_iff {bytes : List UInt8} {s : String} :
    decode? bytes = some s ↔ bytes = encode s := by
  unfold decode? encode String.fromUTF8?
  split
  · rw [Option.some.injEq, ← String.toByteArray_inj]
    constructor
    · intro h
      rw [String.toUTF8, ← h]
      rfl
    · rintro rfl
      rfl
  · rename_i hinvalid
    simp only [reduceCtorEq, false_iff]
    rintro rfl
    exact hinvalid s.isValidUTF8

theorem encode_append (s t : String) : encode (s ++ t) = encode s ++ encode t := by
  rw [encode_eq_flatMap, encode_eq_flatMap, encode_eq_flatMap, String.toList_append,
    List.flatMap_append]

theorem encode_lineFeed : encode "\n" = [10] := by decide

theorem lineFeed_ne_ofNat {n : Nat} (hlow : 128 ≤ n) (hhigh : n < 256) :
    (10 : UInt8) ≠ UInt8.ofNat n := by
  intro h
  have hnat := congrArg UInt8.toNat h
  rw [UInt8.toNat_ofNat_of_lt' hhigh] at hnat
  have : n = 10 := hnat.symm
  omega

theorem eq_lineFeed_of_mem {c : Char} (h : 10 ∈ String.utf8EncodeChar c) : c = '\n' := by
  unfold String.utf8EncodeChar at h
  by_cases hascii : c.val.toNat ≤ 127
  · rw [if_pos hascii, List.mem_singleton] at h
    have hnat := congrArg UInt8.toNat h
    rw [UInt8.toNat_ofNat_of_lt' (Nat.lt_of_le_of_lt hascii (by decide))] at hnat
    exact Char.toNat_inj.1 hnat.symm
  · -- All codes of several bytes are made of bytes of 128 and more.
    exfalso
    simp only [if_neg hascii] at h
    split at h
    · simp only [List.mem_cons, List.not_mem_nil, or_false] at h
      rcases h with h | h <;> exact lineFeed_ne_ofNat (by omega) (by omega) h
    · split at h
      · simp only [List.mem_cons, List.not_mem_nil, or_false] at h
        rcases h with h | h | h <;> exact lineFeed_ne_ofNat (by omega) (by omega) h
      · simp only [List.mem_cons, List.not_mem_nil, or_false] at h
        rcases h with h | h | h | h <;> exact lineFeed_ne_ofNat (by omega) (by omega) h

/-- **A text without a line feed** has no byte of one. -/
theorem lineFeed_not_mem_encode {s : String} (h : '\n' ∉ s.toList) : 10 ∉ encode s := by
  rw [encode_eq_flatMap, List.mem_flatMap]
  rintro ⟨c, hc, hmem⟩
  exact h (eq_lineFeed_of_mem hmem ▸ hc)

theorem encode_intercalate (lines : List String) :
    encode ("\n".intercalate lines) = [10].intercalate (lines.map encode) := by
  induction lines with
  | nil => rfl
  | cons line rest ih =>
    cases rest with
    | nil => rw [String.intercalate_singleton, List.map_singleton, List.intercalate_singleton]
    | cons next more =>
      rw [String.intercalate_cons_cons, encode_append, encode_append, ih, encode_lineFeed]
      exact List.intercalate_cons_cons.symm

end Groundwork.Text
