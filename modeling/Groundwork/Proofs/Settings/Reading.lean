import Groundwork.Proofs.Disk.Reading
import Groundwork.Proofs.Text.Bytes
import Groundwork.Settings

/-!
# Reading a settings file

A document gives settings unless it says of a key what no settings say of it; a key that it leaves
out keeps its standard value. What reading a path comes to is decided by what stands there.

* `Settings.item`: what a key stands for in a document of these settings.
* **`Settings.ofEntries?_eq_some_iff`**, **`Settings.ofEntries?_eq_none_iff`**: the settings of a
  document, and when it has none.
* `Settings.Reading`: the ways in which reading can end, with what stands at the path.
* **`Settings.reading_read`**: reading follows what stands at the path.
-/

namespace Groundwork

open Text (decode? encode)

namespace Settings

open Toml (Entries Item)

/-- **What a key stands for** in a document of these settings. -/
def item (s : Settings) : Setting → Item
  | .inlineValidation => .value (.boolean s.inlineValidation)
  | .inlineSnakeCase => .value (.boolean s.inlineSnakeCase)
  | .dumpAutoload => .value (.boolean s.dumpAutoload)
  | .autoloadCommand => .value (.array (s.autoloadCommand.map .text))

variable {es : Entries} {s : Settings}

theorem readFlag?_eq_some_iff {key : Setting} {b v : Bool} :
    readFlag? es key b = some v ↔
      (es.get? key.key).getD (.value (.boolean b)) = .value (.boolean v) := by
  unfold readFlag?
  split
  · rename_i hnone
    simp [hnone]
  · rename_i w hvalue
    simp [hvalue]
  · rename_i x hx hother
    rw [hother]
    simp only [reduceCtorEq, Option.getD_some, false_iff]
    rintro rfl
    exact hx v rfl

theorem textOf?_eq_some_iff {v : Toml.Value} {t : String} : textOf? v = some t ↔ v = .text t := by
  cases v <;> simp [textOf?]

theorem mapM_textOf?_eq_some_iff {vs : List Toml.Value} {ts : List String} :
    vs.mapM textOf? = some ts ↔ vs = ts.map .text := by
  induction vs generalizing ts with
  | nil => cases ts <;> simp
  | cons v vs ih =>
    cases ts with
    | nil => simp [List.mapM_cons, Option.bind_eq_some_iff]
    | cons t ts =>
      simp [List.mapM_cons, Option.bind_eq_some_iff, textOf?_eq_some_iff, ih]

theorem readTexts?_eq_some_iff {key : Setting} {ts us : List String} :
    readTexts? es key ts = some us ↔
      (es.get? key.key).getD (.value (.array (ts.map .text))) = .value (.array (us.map .text)) := by
  unfold readTexts?
  split
  · rename_i hnone
    have hinj : Function.Injective (List.map Toml.Value.text) :=
      List.map_injective_iff.2 fun _ _ h => Toml.Value.text.inj h
    simp [hnone, hinj.eq_iff]
  · rename_i vs hvalue
    simp [hvalue, mapM_textOf?_eq_some_iff]
  · rename_i x hx hother
    rw [hother]
    simp only [reduceCtorEq, Option.getD_some, false_iff]
    rintro rfl
    exact hx _ rfl

/-- **The settings of a document**: each key says what it says in a document of these settings, or
is left out where it has its standard value. -/
theorem ofEntries?_eq_some_iff :
    ofEntries? es = some s ↔ ∀ key, (es.get? key.key).getD (standard.item key) = s.item key := by
  have hkeys : (∀ key, (es.get? key.key).getD (standard.item key) = s.item key) ↔
      readFlag? es .inlineValidation standard.inlineValidation = some s.inlineValidation ∧
      readFlag? es .inlineSnakeCase standard.inlineSnakeCase = some s.inlineSnakeCase ∧
      readFlag? es .dumpAutoload standard.dumpAutoload = some s.dumpAutoload ∧
      readTexts? es .autoloadCommand standard.autoloadCommand = some s.autoloadCommand := by
    simp only [readFlag?_eq_some_iff, readTexts?_eq_some_iff]
    constructor
    · exact fun h => ⟨h .inlineValidation, h .inlineSnakeCase, h .dumpAutoload, h .autoloadCommand⟩
    · rintro ⟨h₁, h₂, h₃, h₄⟩ (_ | _ | _ | _)
      exacts [h₁, h₂, h₃, h₄]
  rw [hkeys]
  unfold ofEntries?
  obtain ⟨v, c, a, ts⟩ := s
  split
  · rename_i h₁ h₂ h₃ h₄
    simp [h₁, h₂, h₃, h₄]
  · rename_i hall
    simp only [reduceCtorEq, false_iff]
    rintro ⟨h₁, h₂, h₃, h₄⟩
    exact hall _ _ _ _ h₁ h₂ h₃ h₄

/-- **A document has no settings** exactly if it says of a key what no settings say of it. -/
theorem ofEntries?_eq_none_iff :
    ofEntries? es = none ↔ ∃ key x, es.get? key.key = some x ∧ ∀ s : Settings, s.item key ≠ x := by
  constructor
  · contrapose!
    intro h
    have hgiven (key : Setting) : ∃ s : Settings,
        (es.get? key.key).getD (standard.item key) = s.item key := by
      cases hx : es.get? key.key with
      | none => exact ⟨standard, rfl⟩
      | some x =>
        obtain ⟨s, hs⟩ := h key x hx
        exact ⟨s, hs.symm⟩
    obtain ⟨s₁, h₁⟩ := hgiven .inlineValidation
    obtain ⟨s₂, h₂⟩ := hgiven .inlineSnakeCase
    obtain ⟨s₃, h₃⟩ := hgiven .dumpAutoload
    obtain ⟨s₄, h₄⟩ := hgiven .autoloadCommand
    -- What each key says is said by settings of its own; together they are the settings.
    have hall : ofEntries? es = some ⟨s₁.inlineValidation, s₂.inlineSnakeCase, s₃.dumpAutoload,
        s₄.autoloadCommand⟩ := by
      refine ofEntries?_eq_some_iff.2 fun key => ?_
      cases key
      exacts [h₁, h₂, h₃, h₄]
    rw [hall]
    exact Option.some_ne_none _
  · rintro ⟨key, x, hx, hno⟩
    rw [Option.eq_none_iff_forall_ne_some]
    intro s hs
    have hkey := ofEntries?_eq_some_iff.1 hs key
    rw [hx] at hkey
    exact hno s hkey.symm

/-! ## What stands at the path -/

/-- **What reading comes to** by what stands at a path: a directory and what is not text cannot be
read; what is no document, or says of a key what no settings say of it, is refused; and all else
gives settings. -/
inductive Reading (p : Path) : Node → Except Failure Settings → Prop
  | directory : Reading p .directory
      (.error (.system ["Failed to read " ++ p.text] (.system .isDirectory)))
  | garbled {n : Node} {bytes : List UInt8} (held : n.bytes? = some bytes)
      (garbled : ∀ text, bytes ≠ encode text) :
      Reading p n (.error (.system ["Failed to read " ++ p.text] .notText))
  | malformed {n : Node} {text : String} (held : n.bytes? = some (encode text))
      (malformed : Toml.readDocument? text = none) : Reading p n (.error (.badSettings p))
  | mistyped {n : Node} {text : String} {es : Entries} {key : Setting} {x : Item}
      (held : n.bytes? = some (encode text)) (document : Toml.readDocument? text = some es)
      (given : es.get? key.key = some x) (mistyped : ∀ s : Settings, s.item key ≠ x) :
      Reading p n (.error (.badSettings p))
  | settings {n : Node} {text : String} {es : Entries} {s : Settings}
      (held : n.bytes? = some (encode text)) (document : Toml.readDocument? text = some es)
      (given : ∀ key, (es.get? key.key).getD (standard.item key) = s.item key) :
      Reading p n (.ok s)

variable {d : Disk} {p : Path} {n : Node} {text : String}

theorem read_of_text (h : d.look? p = some n) (held : n.bytes? = some (encode text)) :
    read d p = match ofDocument? text with
      | none => .error (.badSettings p)
      | some s => .ok s := by
  have hdecode : decode? (encode text) = some text := Text.decode?_eq_some_iff.2 rfl
  unfold read
  cases hdocument : ofDocument? text <;>
    simp only [Disk.read_of_look? h, held, hdecode, hdocument]

theorem Reading.read_eq {r : Except Failure Settings} (h : Reading p n r)
    (hn : d.look? p = some n) : read d p = r := by
  cases h with
  | directory =>
    unfold read
    rw [Disk.read_of_look? hn]
    rfl
  | garbled held garbled =>
    have hnone : decode? _ = none :=
      Option.eq_none_iff_forall_ne_some.2 fun text h => garbled text (Text.decode?_eq_some_iff.1 h)
    unfold read
    simp only [Disk.read_of_look? hn, held, hnone]
  | malformed held malformed =>
    rw [read_of_text hn held, ofDocument?, malformed]
    rfl
  | mistyped held document given mistyped =>
    rw [read_of_text hn held, ofDocument?, document, Option.bind_some,
      ofEntries?_eq_none_iff.2 ⟨_, _, given, mistyped⟩]
  | settings held document given =>
    rw [read_of_text hn held, ofDocument?, document, Option.bind_some,
      ofEntries?_eq_some_iff.2 given]

theorem exists_reading (p : Path) (n : Node) : ∃ r, Reading p n r := by
  cases hbytes : n.bytes? with
  | none =>
    cases n with
    | directory => exact ⟨_, .directory⟩
    | file contents => cases hbytes
    | device => cases hbytes
  | some bytes =>
    by_cases htext : ∃ text, bytes = encode text
    · obtain ⟨text, rfl⟩ := htext
      cases hdocument : Toml.readDocument? text with
      | none => exact ⟨_, .malformed hbytes hdocument⟩
      | some es =>
        cases hs : ofEntries? es with
        | none =>
          obtain ⟨key, x, hgiven, hno⟩ := ofEntries?_eq_none_iff.1 hs
          exact ⟨_, .mistyped hbytes hdocument hgiven hno⟩
        | some s => exact ⟨_, .settings hbytes hdocument (ofEntries?_eq_some_iff.1 hs)⟩
    · exact ⟨_, .garbled hbytes (not_exists.1 htext)⟩

/-- **Reading follows what stands at the path.** -/
theorem reading_read (h : d.look? p = some n) : Reading p n (read d p) := by
  obtain ⟨r, hr⟩ := exists_reading p n
  rw [hr.read_eq h]
  exact hr

end Settings

end Groundwork
