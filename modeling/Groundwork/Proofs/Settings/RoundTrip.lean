import Groundwork.Proofs.Settings.Reading
import Groundwork.Proofs.Toml.Assignment
import Mathlib.Data.List.Nodup

/-!
# Settings written and read back

Settings are written with a line for each key, in any order; a key may be left out where its value
is the standard one. Texts are written in any of the ways that a document allows. Whatever is
written in this way is read back as the settings.

* `Settings.WritesValue`, `Settings.Writes`: the ways to write the value of a key, and a document.
* `Settings.writes_document`: one of the ways.
* **`Settings.Writes.readExpressions?`**: the entries of a document that is written.
* **`Settings.read_of_writes`**: the document is read back as the settings.
-/

namespace Groundwork

open Toml (IsGap IsItems isBare isSpace)

namespace Setting

theorem key_injective : Function.Injective key := by
  intro a b h
  cases a <;> cases b <;> first | rfl | exact absurd h (by decide)

theorem toList_key_ne_nil (key : Setting) : key.key.toList ≠ [] := by
  cases key <;> decide

theorem isBare_of_mem_key (key : Setting) : ∀ c ∈ key.key.toList, isBare c = true := by
  rw [← List.all_eq_true]
  cases key <;> rfl

end Setting

namespace Settings

variable {s : Settings} {key : Setting} {keys : List Setting} {written cs rest : List Char}

/-! ## Ways to write -/

/-- **The ways to write the value of a key.** -/
def WritesValue (s : Settings) : Setting → List Char → Prop
  | .inlineValidation, written => written = writeFlag s.inlineValidation
  | .inlineSnakeCase, written => written = writeFlag s.inlineSnakeCase
  | .dumpAutoload, written => written = writeFlag s.dumpAutoload
  | .autoloadCommand, written => ∃ items, IsItems s.autoloadCommand items ∧ written = '[' :: items

/-- **The ways to write a document** with a line for each of these keys, in this order. -/
inductive Writes (s : Settings) : List Setting → List Char → Prop
  | nil : Writes s [] []
  | cons {key : Setting} {keys : List Setting} {written rest : List Char}
      (value : WritesValue s key written) (more : Writes s keys rest) :
      Writes s (key :: keys) (key.key.toList ++ ' ' :: '=' :: ' ' :: (written ++ '\n' :: rest))

theorem isItems_intercalate (ts : List String) {gap : List Char} (hgap : IsGap gap) :
    IsItems ts (gap ++ ([',', ' '].intercalate (ts.map fun t => Toml.writeBasic t.toList) ++
      [']'])) := by
  induction ts generalizing gap with
  | nil => exact .nil hgap
  | cons t ts ih =>
    have hquoted := Toml.isQuoted_writeBasic t.toList
    have hnone : IsGap [] := List.forall_mem_nil _
    cases ts with
    | nil =>
      rw [List.map_singleton, List.intercalate_singleton]
      exact .last hgap hquoted hnone
    | cons u more =>
      have hone : IsGap [' '] := by simp [IsGap, isSpace]
      have hitems := ih hone
      rw [List.map_cons, List.map_cons, List.intercalate_cons_cons, List.append_assoc,
        List.append_assoc]
      exact .cons hgap hquoted hnone hitems

theorem writesValue_writeValue (s : Settings) (key : Setting) :
    s.WritesValue key (s.writeValue key) := by
  cases key with
  | autoloadCommand =>
    exact ⟨_, @isItems_intercalate s.autoloadCommand [] (List.forall_mem_nil _), rfl⟩
  | _ => rfl

/-- **Settings can be written** with a line for each of any keys. -/
theorem writes_document (s : Settings) (keys : List Setting) :
    s.Writes keys (s.document keys).toList := by
  rw [document, String.toList_ofList]
  induction keys with
  | nil => exact .nil
  | cons key keys ih =>
    have hline := Writes.cons (writesValue_writeValue s key) ih
    rw [List.flatMap_cons, line]
    simpa using hline

/-! ## Reading back -/

theorem readValue?_writeFlag (b : Bool) (rest : List Char) :
    Toml.readValue? (writeFlag b ++ '\n' :: rest) = some (.boolean b, '\n' :: rest) := by
  cases b <;> simp [writeFlag, Toml.readValue?, Toml.readValueAt?, Toml.readToken?,
    Toml.endsToken, isSpace]

theorem WritesValue.readValue? (h : s.WritesValue key written) (rest : List Char) :
    ∃ v, s.item key = .value v ∧
      Toml.readValue? (written ++ '\n' :: rest) = some (v, '\n' :: rest) := by
  cases key with
  | inlineValidation => exact ⟨_, rfl, h ▸ readValue?_writeFlag _ rest⟩
  | inlineSnakeCase => exact ⟨_, rfl, h ▸ readValue?_writeFlag _ rest⟩
  | dumpAutoload => exact ⟨_, rfl, h ▸ readValue?_writeFlag _ rest⟩
  | autoloadCommand =>
    obtain ⟨items, hitems, rfl⟩ := h
    exact ⟨_, rfl, hitems.readValue? ('\n' :: rest)⟩

theorem WritesValue.head? (h : s.WritesValue key written) :
    ∀ c ∈ written.head?, isSpace c = false := by
  have hflag (b : Bool) : ∀ c ∈ (writeFlag b).head?, isSpace c = false := by
    cases b <;> simp [writeFlag, isSpace]
  cases key with
  | autoloadCommand =>
    obtain ⟨items, -, rfl⟩ := h
    simp [isSpace]
  | inlineValidation => exact h ▸ hflag _
  | inlineSnakeCase => exact h ▸ hflag _
  | dumpAutoload => exact h ▸ hflag _

/-- **The entries of a document that is written**: each key that has a line stands for what it does
in a document of the settings. -/
theorem Writes.readExpressions? (h : s.Writes keys cs) {es : Toml.Entries} (hkeys : keys.Nodup)
    (hfresh : ∀ key ∈ keys, es.get? key.key = none) {fuel : Nat} (hfuel : cs.length < fuel) :
    ∃ es', Toml.readExpressions? fuel [] es cs = some es' ∧
      ∀ key : Setting, es'.get? key.key =
        if key ∈ keys then some (s.item key) else es.get? key.key := by
  induction h generalizing es fuel with
  | nil =>
    obtain ⟨fuel, rfl⟩ := Nat.exists_eq_succ_of_ne_zero (Nat.ne_zero_of_lt hfuel)
    exact ⟨es, rfl, fun key => by simp⟩
  | @cons key keys written rest value _ ih =>
    obtain ⟨hnot, hkeys⟩ := List.nodup_cons.1 hkeys
    obtain ⟨hkey, hfresh⟩ := List.forall_mem_cons.1 hfresh
    obtain ⟨v, hitem, hvalue⟩ := value.readValue? rest
    obtain ⟨fuel, rfl⟩ := Nat.exists_eq_succ_of_ne_zero (Nat.ne_zero_of_lt hfuel)
    have hnew : es.get? (String.ofList key.key.toList) = none := by rwa [String.ofList_toList]
    have hline := Toml.readExpressions?_line key.toList_key_ne_nil key.isBare_of_mem_key hnew
      value.head? hvalue fuel
    rw [String.ofList_toList] at hline
    have hset (k : Setting) : (es.set key.key (.value v)).get? k.key =
        if k = key then some (s.item key) else es.get? k.key := by
      rw [Keyed.get?_set, ← hitem]
      simp only [Setting.key_injective.eq_iff]
    -- The rest of the document finds its own keys still unset.
    have hunset : ∀ k ∈ keys, (es.set key.key (.value v)).get? k.key = none := by
      intro k hk
      have hne : k ≠ key := fun h => hnot (h ▸ hk)
      rw [hset, if_neg hne]
      exact hfresh k hk
    have hlength : rest.length < fuel := by
      simp only [List.length_append, List.length_cons] at hfuel
      omega
    obtain ⟨es', hes', hget⟩ := ih hkeys hunset hlength
    refine ⟨es', hline.trans hes', fun k => ?_⟩
    rw [hget, hset]
    by_cases hk : k = key
    · subst hk
      simp
    · simp [hk]

theorem Writes.dropMark (h : s.Writes keys cs) : Toml.dropMark cs = cs := by
  cases h with
  | nil => rfl
  | @cons key keys written rest value more => cases key <;> rfl

theorem Writes.ofDocument? {text : String} (h : s.Writes keys text.toList) (hkeys : keys.Nodup)
    (hrest : ∀ key ∉ keys, s.item key = standard.item key) : ofDocument? text = some s := by
  have hempty : ∀ key ∈ keys, Keyed.get? ([] : Toml.Entries) key.key = none := fun _ _ => rfl
  obtain ⟨es, hes, hget⟩ := h.readExpressions? hkeys hempty (Nat.lt_succ_self _)
  have hdocument : Toml.readDocument? text = some es := by
    rw [Toml.readDocument?, h.dropMark]
    exact hes
  rw [Settings.ofDocument?, hdocument, Option.bind_some, ofEntries?_eq_some_iff]
  intro key
  rw [hget]
  by_cases hmem : key ∈ keys
  · rw [if_pos hmem]
    rfl
  · rw [if_neg hmem, hrest key hmem]
    rfl

/-- **Settings that are written are read back.** Whatever the settings, a document can be written
that has a line for each of some keys, in any order, provided that the keys left out have their
standard values; and a file with such a document, however its texts are escaped, is read as exactly
these settings. -/
theorem read_of_writes (s : Settings) {keys : List Setting} (hkeys : keys.Nodup)
    (hrest : ∀ key ∉ keys, s.item key = standard.item key) :
    s.Writes keys (s.document keys).toList ∧
    ∀ text : String, s.Writes keys text.toList → ∀ (d : Disk) (p : Path),
      d.look? p = some (.file (Text.encode text)) → read d p = .ok s := by
  refine ⟨writes_document s keys, fun text htext d p hfile => ?_⟩
  rw [read_of_text hfile rfl, htext.ofDocument? hkeys hrest]

/-- Two keys of four, the later one first, with a tab and a quote in a text of the command and an
empty text after it. -/
theorem read_of_writes_escaped_texts :
    let s : Settings :=
      { standard with inlineValidation := false, autoloadCommand := ["\t\"", ""] }
    let keys : List Setting := [.autoloadCommand, .inlineValidation]
    let text := "autoload_command = [ \"\\u0009\\\"\" ,\"\"]\ninline_validation = false\n"
    let d : Disk := ⟨.directory [("settings", .file (Text.encode text))], []⟩
    keys.Nodup ∧ (∀ key ∉ keys, s.item key = standard.item key) ∧
      s.Writes keys text.toList ∧ read d ⟨"settings"⟩ = .ok s := by
  intro s keys text d
  have hkeys : keys.Nodup := by decide
  have hrest : ∀ key ∉ keys, s.item key = standard.item key := by
    intro key hkey
    cases key with
    | inlineValidation => exact absurd (by decide) hkey
    | autoloadCommand => exact absurd (by decide) hkey
    | inlineSnakeCase => rfl
    | dumpAutoload => rfl
  have hfirst : Toml.IsQuoted "\t\"".toList ['"', '\\', 'u', '0', '0', '0', '9', '\\', '"', '"'] :=
    ⟨[['\\', 'u', '0', '0', '0', '9'], ['\\', '"']],
      .cons (.short rfl (List.all_eq_true.1 rfl) rfl) (.cons (.letter rfl) .nil), rfl⟩
  have hsecond : Toml.IsQuoted "".toList ['"', '"'] := ⟨[], .nil, rfl⟩
  have hspace : IsGap [' '] := by simp [IsGap, isSpace]
  have hnone : IsGap [] := List.forall_mem_nil _
  have hitems := IsItems.cons hspace hfirst hspace (.last hnone hsecond hnone)
  have hcommand : s.WritesValue .autoloadCommand _ := ⟨_, hitems, rfl⟩
  have hflag : s.WritesValue .inlineValidation ['f', 'a', 'l', 's', 'e'] := rfl
  have hwrites : s.Writes keys text.toList := by
    convert Writes.cons hcommand (.cons hflag .nil) using 1
    decide
  have hread := (read_of_writes s hkeys hrest).2 text hwrites d ⟨"settings"⟩ rfl
  exact ⟨hkeys, hrest, hwrites, hread⟩

end Settings

end Groundwork
