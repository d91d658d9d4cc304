import Groundwork.CommandLine

/-!
# Grammars with more options

A command with more options reads every command line of a command with fewer of them, and reads the
same from it: each option that was accepted is one of its own, and all other words are positional in
either case. The options that only it has are left out then.

* `Grammar.Extends`: a grammar with all options of another one, which has no base path.
* `Scan.Within`: a scan that has read options of one grammar only, and no base path.
* `Arguments.bare`: the arguments of a description and nothing else.
* **`Scan.readWords_of_extends`**: both grammars read the same.
* **`readArguments_of_readDescription`**, **`readNamed_resource_of_info`**: the generating command
  reads what the showing command does, by itself and as a command of the program.
-/

namespace Groundwork

/-! ## Options by their names -/

theorem Switch.long_injective {x y : Switch} (h : x.long = y.long) : x = y := by
  revert h
  cases x <;> cases y <;> decide

theorem Switch.short?_injective {x y : Switch} {c : Char} (hx : x.short? = some c)
    (hy : y.short? = some c) : x = y := by
  cases x <;> cases hx <;> cases y <;> first | rfl | exact absurd hy (by decide)

theorem Switch.long_ne_basePath (x : Switch) : x.long ≠ "base-path" := by
  cases x <;> decide

theorem find?_eq_some_iff_of_unique {α : Type} {l : List α} {p : α → Bool} {x : α}
    (h : ∀ y, p x = true → p y = true → x = y) : l.find? p = some x ↔ x ∈ l ∧ p x = true := by
  constructor
  · exact fun hfind => ⟨List.mem_of_find?_eq_some hfind, List.find?_some hfind⟩
  · rintro ⟨hmem, hx⟩
    obtain ⟨y, hy⟩ := Option.isSome_iff_exists.1 (List.find?_isSome.2 ⟨x, hmem, hx⟩)
    rw [hy, h y hx (List.find?_some hy)]

namespace Grammar

variable {g g' : Grammar} {name : String} {c : Char} {x : Switch}

theorem long?_eq_some_iff : g.long? name = some x ↔ x ∈ g.switches ∧ x.long = name := by
  rw [long?, find?_eq_some_iff_of_unique, decide_eq_true_iff]
  intro y hx hy
  exact Switch.long_injective ((of_decide_eq_true hx).trans (of_decide_eq_true hy).symm)

theorem short?_eq_some_iff : g.short? c = some x ↔ x ∈ g.switches ∧ x.short? = some c := by
  rw [short?, find?_eq_some_iff_of_unique, decide_eq_true_iff]
  intro y hx hy
  exact Switch.short?_injective (of_decide_eq_true hx) (of_decide_eq_true hy)

/-- **A grammar extends another one** that has no base path: it has all its switches. -/
structure Extends (g' g : Grammar) : Prop where
  noBasePath : g.hasBasePath = false
  switches : ∀ x ∈ g.switches, x ∈ g'.switches

theorem Extends.long? (h : g'.Extends g) (hx : g.long? name = some x) : g'.long? name = some x := by
  rw [long?_eq_some_iff] at hx ⊢
  exact ⟨h.switches x hx.1, hx.2⟩

theorem Extends.short? (h : g'.Extends g) (hx : g.short? c = some x) : g'.short? c = some x := by
  rw [short?_eq_some_iff] at hx ⊢
  exact ⟨h.switches x hx.1, hx.2⟩

theorem resource_extends_info : resource.Extends info := ⟨rfl, by decide⟩

theorem Extends.withVerbose (h : g'.Extends g) : g'.withVerbose.Extends g.withVerbose :=
  ⟨h.noBasePath, fun x hx => (List.mem_cons.1 hx).elim (fun e => e ▸ List.mem_cons_self)
    fun hmem => List.mem_cons_of_mem _ (h.switches x hmem)⟩

end Grammar

/-! ## Scans -/

namespace Scan

variable {g g' : Grammar} {s s' : Scan} {words : List String} {x : Switch}

/-- **A scan within a grammar** has read switches of the grammar only, and no base path. -/
structure Within (s : Scan) (g : Grammar) : Prop where
  switches : ∀ x ∈ s.switches, x ∈ g.switches
  noPath : s.basePath = none
  settled : s.pending = none

theorem within_empty (g : Grammar) : empty.Within g := ⟨List.forall_mem_nil _, rfl, rfl⟩

theorem Within.settle (hs : s.Within g) : s.settle = .ok s := by
  unfold Scan.settle
  rw [hs.settled]

theorem Within.addSwitch (hs : s.Within g) (hx : x ∈ g.switches) (h : s.addSwitch x = .ok s') :
    s'.Within g := by
  unfold Scan.addSwitch at h
  rw [hs.settle] at h
  simp only at h
  split at h
  · cases h
  split at h
  · cases h
  split at h
  · cases h
  · obtain rfl := Except.ok.inj h
    exact ⟨List.forall_mem_cons.2 ⟨hx, hs.switches⟩, hs.noPath, hs.settled⟩

theorem Within.addWord (hs : s.Within g) {word : String} (h : s.addWord word = .ok s') :
    s'.Within g := by
  unfold Scan.addWord at h
  rw [hs.settle] at h
  obtain rfl := Except.ok.inj h
  exact ⟨hs.switches, hs.noPath, hs.settled⟩

theorem Within.addPlain (hs : s.Within g) {word : String} (h : s.addPlain word = .ok s') :
    s'.Within g := by
  unfold Scan.addPlain at h
  rw [if_neg (by rw [hs.settled]; exact nofun)] at h
  exact hs.addWord h

theorem Within.addWords (hs : s.Within g) (h : s.addWords words = .ok s') : s'.Within g := by
  induction words generalizing s with
  | nil =>
    obtain rfl := Except.ok.inj h
    exact hs
  | cons word rest ih =>
    rw [Scan.addWords] at h
    split at h
    · cases h
    · rename_i s₁ hword
      exact ih (hs.addWord hword) h

theorem addLetters_of_extends (he : g'.Extends g) (hs : s.Within g) {letters : List Char}
    (h : s.addLetters g letters = .ok s') :
    s'.Within g ∧ s.addLetters g' letters = .ok s' := by
  induction letters generalizing s with
  | nil =>
    obtain rfl := Except.ok.inj h
    exact ⟨hs, rfl⟩
  | cons c rest ih =>
    rw [addLetters] at h ⊢
    split at h
    · cases h
    · rename_i x hx
      simp only [he.short? hx]
      split at h
      · cases h
      · rename_i s₁ hswitch
        exact ih (hs.addSwitch (Grammar.short?_eq_some_iff.1 hx).1 hswitch) h

theorem addLong_of_extends (he : g'.Extends g) (hs : s.Within g) {o : LongOption}
    (h : s.addLong g o = .ok s') : s'.Within g ∧ s.addLong g' o = .ok s' := by
  unfold addLong at h ⊢
  rw [if_neg (by rw [he.noBasePath]; exact fun hboth => Bool.false_ne_true hboth.1)] at h
  split at h
  · cases h
  · rename_i x hx
    obtain ⟨hmem, hname⟩ := Grammar.long?_eq_some_iff.1 hx
    rw [if_neg fun hboth => x.long_ne_basePath (hname.trans hboth.2)]
    simp only [he.long? hx]
    split at h
    · cases h
    · rename_i hvalue
      rw [if_neg hvalue]
      exact ⟨hs.addSwitch hmem h, h⟩

/-- **A grammar with more options reads the same** from whatever the other one accepts. -/
theorem readWords_of_extends (he : g'.Extends g) (hs : s.Within g)
    (h : s.readWords g words = .ok s') : s'.Within g ∧ s.readWords g' words = .ok s' := by
  induction words generalizing s with
  | nil =>
    rw [readWords, hs.settle] at h
    obtain rfl := Except.ok.inj h
    exact ⟨hs, hs.settle⟩
  | cons word rest ih =>
    rw [readWords] at h ⊢
    cases hshape : shape word with
    | escape =>
      simp only [hshape] at h ⊢
      split at h
      · cases h
      · rename_i s₁ hwords
        have hs₁ := hs.addWords hwords
        rw [hs₁.settle] at h
        obtain rfl := Except.ok.inj h
        exact ⟨hs₁, hs₁.settle⟩
    | long o =>
      simp only [hshape] at h ⊢
      cases hlong : s.addLong g o with
      | error e =>
        rw [hlong] at h
        cases h
      | ok s₁ =>
        obtain ⟨hs₁, hsame⟩ := addLong_of_extends he hs hlong
        rw [hlong] at h
        rw [hsame]
        exact ih hs₁ h
    | short letters =>
      simp only [hshape] at h ⊢
      cases hletters : s.addLetters g letters with
      | error e =>
        rw [hletters] at h
        cases h
      | ok s₁ =>
        obtain ⟨hs₁, hsame⟩ := addLetters_of_extends he hs hletters
        rw [hletters] at h
        rw [hsame]
        exact ih hs₁ h
    | plain =>
      simp only [hshape] at h ⊢
      cases hplain : s.addPlain word with
      | error e =>
        rw [hplain] at h
        cases h
      | ok s₁ =>
        rw [hplain] at h
        exact ih (hs.addPlain hplain) h

end Scan

/-! ## Command lines -/

/-- **The arguments of a description** and nothing else: no switch of the generating command alone,
and no base path. -/
def Arguments.bare (d : Description) : Arguments where
  description := d
  force := false
  noInlineValidation := false
  noInlineSnakeCase := false
  skipAutoload := false
  basePath := none

variable {g g' : Grammar} {s : Scan} {a : Arguments} {words : List String} {d : Description}

/-- The switches that only the generating command has. -/
def Switch.generating : List Switch :=
  [.force, .noInlineValidation, .noInlineSnakeCase, .skipAutoload]

theorem Scan.Within.has (hs : s.Within g) {x : Switch} (hx : x ∉ g.switches) : s.has x = false := by
  rw [Scan.has, List.contains_eq_mem, decide_eq_false_iff_not]
  exact fun hmem => hx (hs.switches x hmem)

theorem Scan.Within.toArguments (hs : s.Within g)
    (hg : ∀ x ∈ Switch.generating, x ∉ g.switches) (h : s.toArguments = .ok a) :
    a = .bare a.description := by
  have hoff (x : Switch) (hx : x ∈ Switch.generating) : s.has x = false := hs.has (hg x hx)
  unfold Scan.toArguments at h
  split at h
  · obtain rfl := Except.ok.inj h
    rw [Arguments.bare, hoff .force (by decide), hoff .noInlineValidation (by decide),
      hoff .noInlineSnakeCase (by decide), hoff .skipAutoload (by decide), hs.noPath]
    rfl
  · cases h

/-- **A grammar with more options reads the same arguments**, and these are bare if the other one
has no switch of the generating command. -/
theorem readScan_of_extends (he : g'.Extends g) (hg : ∀ x ∈ Switch.generating, x ∉ g.switches)
    (h : readScan g words = .ok (s, a)) :
    readScan g' words = .ok (s, a) ∧ a = .bare a.description := by
  unfold readScan at h ⊢
  split at h
  · cases h
  · rename_i s₁ hwords
    obtain ⟨hs₁, hsame⟩ := Scan.readWords_of_extends he (Scan.within_empty g) hwords
    rw [hsame]
    simp only
    split at h
    · cases h
    · rename_i a₁ ha
      obtain ⟨rfl, rfl⟩ := Prod.mk.inj (Except.ok.inj h)
      exact ⟨rfl, hs₁.toArguments hg ha⟩

theorem except_map_eq_ok_iff {ε α β : Type} {f : α → β} {x : Except ε α} {b : β} :
    x.map f = .ok b ↔ ∃ a, x = .ok a ∧ f a = b := by
  cases x <;> simp [Except.map]

/-- **The generating command reads what the showing command does**, and nothing else. -/
theorem readArguments_of_readDescription (h : readDescription words = .ok d) :
    readArguments words = .ok (.bare d) := by
  obtain ⟨⟨s, a⟩, hscan, rfl⟩ := except_map_eq_ok_iff.1 h
  obtain ⟨hsame, ha⟩ := readScan_of_extends Grammar.resource_extends_info (by decide) hscan
  exact except_map_eq_ok_iff.2 ⟨(s, a), hsame, ha⟩

/-- **The same for the commands of the program**, which take one more switch. -/
theorem readNamed_resource_of_info {verbose v : Bool}
    (h : readNamed verbose "info" words = .ok ⟨.info d, v⟩) :
    readNamed verbose "resource" words = .ok ⟨.resource (.bare d), v⟩ := by
  rw [readNamed, if_pos rfl, except_map_eq_ok_iff] at h
  obtain ⟨⟨s, a⟩, hscan, hcommand⟩ := h
  obtain ⟨hsame, ha⟩ :=
    readScan_of_extends Grammar.resource_extends_info.withVerbose (by decide) hscan
  obtain ⟨hrequest, hv⟩ := Command.mk.inj hcommand
  rw [readNamed, if_neg (by decide), if_pos rfl, except_map_eq_ok_iff]
  refine ⟨(s, a), hsame, ?_⟩
  rw [← hv, ← Request.info.inj hrequest, ← ha]

end Groundwork
