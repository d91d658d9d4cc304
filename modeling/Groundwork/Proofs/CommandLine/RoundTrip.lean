import Groundwork.CommandLine
import Groundwork.Proofs.CommandLine.Extension

/-!
# What is written is read back

Whatever the generating command can be asked for can be written as a command line: the options,
each once and in any order, then `--` and the positional words. These may be any texts, also empty
ones and such as look like options. As long as none begins with a hyphen, `--` may be left out, and
the options may stand anywhere between the positional words. Either way what is read is exactly what
was written.

The scan after some options and some positional words is known without scanning: it depends on these
two lists alone, and not on how they were mixed. Each word adds to one of the two.

* `GivenOption.Spell`: options that say what arguments ask for.
* `CommandPart`: an option or a positional word.
* `Scan.of`: the scan after some options and positional words.
* **`Scan.readWords_option`**, **`Scan.readWords_parts`**: one option, and a whole mixture of
  options and positional words.
* **`readAs_of_spell`**: what is written is read back.
-/

namespace Groundwork

/-! ## What arguments ask for -/

/-- Is a switch on? -/
def Arguments.flag (a : Arguments) : Switch → Bool
  | .softDeletes => a.description.softDeletes
  | .force => a.force
  | .noInlineValidation => a.noInlineValidation
  | .noInlineSnakeCase => a.noInlineSnakeCase
  | .skipAutoload => a.skipAutoload
  | .verbose | .help | .version => false

/-- **The switches that arguments ask for.** -/
def Arguments.switches (a : Arguments) : List Switch := Switch.all.filter a.flag

/-- **The positional words of a description.** -/
def Description.positionals (d : Description) : List String := d.name :: d.plural :: d.fields

theorem mem_switches_iff {a : Arguments} {x : Switch} : x ∈ a.switches ↔ a.flag x = true := by
  have hall : x ∈ Switch.all := by cases x <;> decide
  rw [Arguments.switches, List.mem_filter, and_iff_right hall]

theorem nodup_switches (a : Arguments) : a.switches.Nodup :=
  List.filter_sublist.nodup (by decide)

namespace GivenOption

/-- The switch of an option, by its letter or in full. -/
def switch? : GivenOption → Option Switch
  | .switch x | .letter x => some x
  | .basePath _ => none

/-- The base path of an option. -/
def value? : GivenOption → Option String
  | .basePath value => some value
  | _ => none

/-- **Options spell what arguments ask for**: each switch that is on once, in any order and by its
letter or in full, and the base path if there is one. -/
structure Spell (options : List GivenOption) (a : Arguments) : Prop where
  switches : (options.filterMap switch?).Perm a.switches
  basePath : options.filterMap value? = (a.basePath.map Path.text).toList

theorem Spell.contains_eq {options : List GivenOption} {a : Arguments} (h : Spell options a)
    (x : Switch) : (options.filterMap switch?).contains x = a.flag x := by
  rw [Bool.eq_iff_iff, List.contains_iff_mem, h.switches.mem_iff, mem_switches_iff]

theorem exists_spell (a : Arguments) : ∃ options, Spell options a := by
  refine ⟨a.switches.map .switch ++ (a.basePath.map (.basePath ·.text)).toList, ?_, ?_⟩
  · rw [List.filterMap_append, List.filterMap_map]
    cases a.basePath <;> simp [switch?, Function.comp_def, List.filterMap_cons]
  · rw [List.filterMap_append, List.filterMap_map]
    cases a.basePath <;> simp [value?, Function.comp_def]

end GivenOption

open GivenOption (switch? value? Spell)

/-! ## The shapes of written words -/

theorem shape_switch (x : Switch) : shape ("--" ++ x.long) = .long ⟨x.long, none⟩ := by
  cases x <;> decide

theorem shape_letter {x : Switch} {c : Char} (h : x.short? = some c) :
    shape (String.ofList ['-', c]) = .short [c] := by
  cases x <;> cases h <;> decide

theorem shape_basePath (value : String) :
    shape ("--base-path=" ++ value) = .long ⟨"base-path", some value⟩ := by
  have hlist : ("--base-path=" ++ value).toList =
      '-' :: '-' :: 'b' :: ("ase-path".toList ++ '=' :: value.toList) := by
    rw [String.toList_append]
    rfl
  unfold shape
  rw [hlist]
  simp

theorem shape_of_plain {word : String} (h : word.toList.head? ≠ some '-') :
    shape word = .plain := by
  unfold shape
  split
  · rename_i hlist
    exact absurd (by rw [hlist]; rfl) h
  · rename_i hlist
    exact absurd (by rw [hlist]; rfl) h
  · rename_i hlist
    exact absurd (by rw [hlist]; rfl) h
  · rfl

/-! ## Scans -/

/-- **A grammar takes options** that are its own, none twice, and neither ask for help nor leave the
base path empty. -/
structure Grammar.Takes (g : Grammar) (options : List GivenOption) : Prop where
  known : ∀ x ∈ options.filterMap switch?, x ∈ g.switches ∧ x ≠ .help ∧ x ≠ .version
  once : (options.filterMap switch?).Nodup
  valued : ∀ v ∈ options.filterMap value?, g.hasBasePath = true ∧ v ≠ ""
  single : (options.filterMap value?).length ≤ 1

namespace Scan

variable {g : Grammar} {options : List GivenOption} {words : List String} {o : GivenOption}
  {x : Switch}

/-- **The scan after some options and positional words**, however they were mixed. -/
def of (options : List GivenOption) (words : List String) : Scan where
  switches := (options.filterMap switch?).reverse
  basePath := (options.filterMap value?).getLast?
  pending := none
  words := words.reverse

theorem settle_of (options : List GivenOption) (words : List String) :
    (of options words).settle = .ok (of options words) := rfl

/-! ### One word -/

theorem addSwitch_of (h : g.Takes (options ++ [o])) (hx : o.switch? = some x) :
    (of options words).addSwitch x = .ok (of (options ++ [o]) words) := by
  have hswitches : (options ++ [o]).filterMap switch? = options.filterMap switch? ++ [x] := by
    rw [List.filterMap_append, List.filterMap_cons_some hx, List.filterMap_nil]
  have hvalues : (options ++ [o]).filterMap value? = options.filterMap value? := by
    rw [List.filterMap_append, List.filterMap_cons_none (by cases o <;> first | rfl | cases hx)]
    exact List.append_nil _
  obtain ⟨-, hhelp, hversion⟩ := h.known x (by simp [hswitches])
  have hfresh : x ∉ (of options words).switches := by
    have honce := h.once
    rw [hswitches, List.nodup_append] at honce
    exact fun hmem => honce.2.2 x (List.mem_reverse.1 hmem) x (List.mem_singleton_self x) rfl
  unfold addSwitch
  simp only [settle_of, if_neg hhelp, if_neg hversion, if_neg hfresh]
  rw [of, of, hswitches, hvalues, List.reverse_append]
  rfl

theorem addLong_switch (h : g.Takes (options ++ [o])) (hx : o.switch? = some x) :
    (of options words).addLong g ⟨x.long, none⟩ = .ok (of (options ++ [o]) words) := by
  have hlong : g.long? x.long = some x := by
    refine Grammar.long?_eq_some_iff.2 ⟨(h.known x ?_).1, rfl⟩
    exact List.mem_filterMap.2 ⟨o, List.mem_append_right _ (List.mem_singleton_self o), hx⟩
  unfold addLong
  rw [if_neg fun hboth => x.long_ne_basePath hboth.2]
  simp only [hlong]
  exact addSwitch_of h hx

theorem addLong_basePath {value : String} (h : g.Takes (options ++ [.basePath value])) :
    (of options words).addLong g ⟨"base-path", some value⟩ =
      .ok (of (options ++ [.basePath value]) words) := by
  have hvalues : (options ++ [GivenOption.basePath value]).filterMap value? =
      options.filterMap value? ++ [value] := List.filterMap_append
  have hswitches : (options ++ [GivenOption.basePath value]).filterMap switch? =
      options.filterMap switch? := by
    rw [List.filterMap_append]
    exact List.append_nil _
  obtain ⟨hpath, hvalue⟩ := h.valued value (by simp [hvalues])
  have hfirst : options.filterMap value? = [] := by
    have hsingle := h.single
    rw [hvalues, List.length_append, List.length_singleton] at hsingle
    exact List.eq_nil_of_length_eq_zero (by omega)
  unfold addLong
  rw [if_pos ⟨hpath, rfl⟩]
  simp only [settle_of]
  unfold settle
  simp only [of, hfirst, hvalue, hswitches, hvalues]
  rfl

/-- **One option** adds to the options. -/
theorem readWords_option (h : g.Takes (options ++ [o])) (rest : List String) :
    (of options words).readWords g (o.word :: rest) =
      (of (options ++ [o]) words).readWords g rest := by
  rw [readWords]
  cases o with
  | switch x =>
    simp only [GivenOption.word, shape_switch, addLong_switch h rfl]
  | letter x =>
    cases hletter : x.short? with
    | none =>
      simp only [GivenOption.word, hletter, shape_switch, addLong_switch h rfl]
    | some c =>
      have hshort : g.short? c = some x := by
        refine Grammar.short?_eq_some_iff.2 ⟨(h.known x ?_).1, hletter⟩
        exact List.mem_filterMap.2
          ⟨_, List.mem_append_right _ (List.mem_singleton_self _), rfl⟩
      simp only [GivenOption.word, hletter, shape_letter hletter, addLetters, hshort,
        addSwitch_of h rfl]
  | basePath value =>
    simp only [GivenOption.word, shape_basePath, addLong_basePath h]

theorem addWord_of (options : List GivenOption) (words : List String) (word : String) :
    (of options words).addWord word = .ok (of options (words ++ [word])) := by
  rw [addWord, settle_of, of, of, List.reverse_append]
  rfl

theorem readWords_plain {word : String} (h : word.toList.head? ≠ some '-') (rest : List String) :
    (of options words).readWords g (word :: rest) =
      (of options (words ++ [word])).readWords g rest := by
  have hadd : (of options words).addPlain word = .ok (of options (words ++ [word])) := by
    rw [addPlain, if_neg nofun, addWord_of]
  rw [readWords]
  simp only [shape_of_plain h, hadd]

theorem addWords_of (options : List GivenOption) (words rest : List String) :
    (of options words).addWords rest = .ok (of options (words ++ rest)) := by
  induction rest generalizing words with
  | nil => rw [addWords, List.append_nil]
  | cons word rest ih =>
    rw [addWords, addWord_of]
    simp only [ih, List.append_assoc, List.singleton_append]

theorem readWords_escape (options : List GivenOption) (words rest : List String) :
    (of options words).readWords g ("--" :: rest) = .ok (of options (words ++ rest)) := by
  rw [readWords, show shape "--" = .escape from rfl]
  simp only [addWords_of, settle_of]

end Scan

/-! ## Mixtures -/

/-- **A part of a command line.** -/
inductive CommandPart where
  | option (o : GivenOption)
  | positional (word : String)
  deriving DecidableEq, Repr

namespace CommandPart

/-- The word of a part. -/
def word : CommandPart → String
  | .option o => o.word
  | .positional word => word

/-- The option that a part is. -/
def option? : CommandPart → Option GivenOption
  | .option o => some o
  | .positional _ => none

/-- The positional word that a part is. -/
def positional? : CommandPart → Option String
  | .option _ => none
  | .positional word => some word

end CommandPart

open CommandPart (option? positional?)

theorem Grammar.Takes.of_append {g : Grammar} {before after : List GivenOption}
    (h : g.Takes (before ++ after)) : g.Takes before := by
  obtain ⟨hknown, honce, hvalued, hsingle⟩ := h
  rw [List.filterMap_append] at hknown honce hvalued hsingle
  refine ⟨fun x hx => hknown x (List.mem_append_left _ hx), (List.nodup_append.1 honce).1,
    fun v hv => hvalued v (List.mem_append_left _ hv), ?_⟩
  rw [List.length_append] at hsingle
  omega

/-- **A mixture of options and positional words** adds to both, whatever the order of the two. -/
theorem Scan.readWords_parts {g : Grammar} {options : List GivenOption} {words : List String}
    {parts : List CommandPart} (h : g.Takes (options ++ parts.filterMap option?))
    (hplain : ∀ p ∈ parts.filterMap positional?, p.toList.head? ≠ some '-') (rest : List String) :
    (of options words).readWords g (parts.map CommandPart.word ++ rest) =
      (of (options ++ parts.filterMap option?)
        (words ++ parts.filterMap positional?)).readWords g rest := by
  induction parts generalizing options words with
  | nil => simp
  | cons part parts ih =>
    cases part with
    | option o =>
      have hparts : options ++ (CommandPart.option o :: parts).filterMap option? =
          (options ++ [o]) ++ parts.filterMap option? := by
        rw [List.append_assoc]
        rfl
      rw [hparts] at h ⊢
      rw [List.map_cons, List.cons_append, CommandPart.word, readWords_option h.of_append]
      exact ih h hplain
    | positional word =>
      obtain ⟨hword, hmore⟩ := List.forall_mem_cons.1 hplain
      have hparts : words ++ (CommandPart.positional word :: parts).filterMap positional? =
          (words ++ [word]) ++ parts.filterMap positional? := by
        rw [List.append_assoc]
        rfl
      rw [hparts, List.map_cons, List.cons_append, CommandPart.word, readWords_plain hword]
      exact ih h hmore

/-! ## Arguments -/

variable {g : Grammar} {a : Arguments} {options : List GivenOption} {words : List String}

/-- **The grammar has all options of the generating command.** -/
structure Grammar.Generates (g : Grammar) : Prop where
  basePath : g.hasBasePath = true
  switches : ∀ x ∈ Switch.softDeletes :: Switch.generating, x ∈ g.switches

theorem Grammar.Generates.takes (hg : g.Generates) (h : Spell options a)
    (hpath : a.basePath ≠ some ⟨""⟩) : g.Takes options := by
  refine ⟨fun x hx => ?_, h.switches.nodup_iff.2 (nodup_switches a), fun v hv => ?_, ?_⟩
  · have hflag := mem_switches_iff.1 (h.switches.mem_iff.1 hx)
    have hown : x ∈ Switch.softDeletes :: Switch.generating ∧ x ≠ .help ∧ x ≠ .version := by
      cases x <;> first | decide | cases hflag
    exact ⟨hg.switches x hown.1, hown.2⟩
  · rw [h.basePath, Option.mem_toList, Option.map_eq_some_iff] at hv
    obtain ⟨p, hp, rfl⟩ := hv
    refine ⟨hg.basePath, fun hempty => hpath ?_⟩
    rw [hp, ← hempty]
  · rw [h.basePath]
    cases a.basePath with
    | none => exact Nat.zero_le 1
    | some p => exact Nat.le_refl 1

theorem Scan.has_of (h : Spell options a) (words : List String) (x : Switch) :
    (of options words).has x = a.flag x := by
  rw [← h.contains_eq, has, of, List.contains_reverse]

theorem Scan.toArguments_of (h : Spell options a) (hfields : a.description.fields ≠ []) :
    (of options a.description.positionals).toArguments = .ok a := by
  have hhas := has_of h a.description.positionals
  have hpath : ((of options a.description.positionals).basePath).map Path.mk = a.basePath := by
    rw [of, h.basePath]
    cases a.basePath <;> rfl
  obtain ⟨field, fields, hcons⟩ := List.exists_cons_of_ne_nil hfields
  have hwords : (of options a.description.positionals).words.reverse =
      a.description.name :: a.description.plural :: field :: fields := by
    rw [of, List.reverse_reverse, Description.positionals, hcons]
  unfold toArguments
  simp only [hwords, hhas, hpath]
  rw [← hcons]
  rfl

/-- **The words are read as these arguments**, by the generating command by itself and as a command
of the program. -/
def ReadAs (words : List String) (a : Arguments) : Prop :=
  readArguments words = .ok a ∧ readCommand ("resource" :: words) = .ok ⟨.resource a, false⟩

theorem readAs_of_readWords (h : Spell options a) (hfields : a.description.fields ≠ [])
    (hread : ∀ g : Grammar, g.Generates →
      Scan.empty.readWords g words = .ok (.of options a.description.positionals)) :
    ReadAs words a := by
  have hscan (g : Grammar) (hg : g.Generates) :
      readScan g words = .ok (.of options a.description.positionals, a) := by
    unfold readScan
    simp only [hread g hg, Scan.toArguments_of h hfields]
  refine ⟨?_, ?_⟩
  · rw [readArguments, hscan _ ⟨rfl, by decide⟩]
    rfl
  · have hquiet : (Scan.of options a.description.positionals).has .verbose = false :=
      Scan.has_of h _ _
    rw [readCommand, readCommandFrom, show shape "resource" = .plain from rfl]
    simp only [readNamed, if_neg (by decide : ¬ "resource" = "info"), if_true]
    rw [hscan _ ⟨rfl, by decide⟩, Except.map, hquiet]
    rfl

theorem readAs_parts {parts : List CommandPart} (hfields : a.description.fields ≠ [])
    (hpath : a.basePath ≠ some ⟨""⟩) (h : Spell (parts.filterMap option?) a)
    (hwords : parts.filterMap positional? = a.description.positionals)
    (hplain : ∀ p ∈ a.description.positionals, p.toList.head? ≠ some '-') :
    ReadAs (parts.map CommandPart.word) a := by
  refine readAs_of_readWords h hfields fun g hg => ?_
  have hrun := @Scan.readWords_parts g [] [] parts (hg.takes h hpath) (hwords ▸ hplain) []
  rw [List.append_nil, List.nil_append, List.nil_append, hwords] at hrun
  exact hrun

theorem readAs_parts_escape {parts : List CommandPart} {rest : List String}
    (hfields : a.description.fields ≠ []) (hpath : a.basePath ≠ some ⟨""⟩)
    (h : Spell (parts.filterMap option?) a)
    (hwords : parts.filterMap positional? ++ rest = a.description.positionals)
    (hplain : ∀ p ∈ parts.filterMap positional?, p.toList.head? ≠ some '-') :
    ReadAs (parts.map CommandPart.word ++ "--" :: rest) a := by
  refine readAs_of_readWords h hfields fun g hg => ?_
  have hrun := @Scan.readWords_parts g [] [] parts (hg.takes h hpath) hplain ("--" :: rest)
  rw [List.nil_append, List.nil_append, Scan.readWords_escape, hwords] at hrun
  exact hrun

/-- **What is written is read back.** Arguments with at least one field and, if any, a base path
that is not empty can be written as a command line: their options in any order and spelling, then
`--` and the positional words. If no positional word begins with a hyphen, `--` may be left out, and
options and positional words may be mixed. What is read are these arguments, and the settings that
they give are those before, but for three that are off where their switch is among the options. -/
theorem readAs_of_spell (hfields : a.description.fields ≠ []) (hpath : a.basePath ≠ some ⟨""⟩) :
    (∃ options, Spell options a) ∧
    (∀ options, Spell options a → ReadAs
      (commandWords options a.description.name a.description.plural a.description.fields) a) ∧
    ((∀ p ∈ a.description.positionals, p.toList.head? ≠ some '-') →
      ∀ parts : List CommandPart, Spell (parts.filterMap option?) a →
        parts.filterMap positional? = a.description.positionals →
        ReadAs (parts.map CommandPart.word) a) ∧
    ∀ options, Spell options a → ∀ s, a.apply s =
      let given := options.filterMap switch?
      { inlineValidation := s.inlineValidation && !given.contains .noInlineValidation
        inlineSnakeCase := s.inlineSnakeCase && !given.contains .noInlineSnakeCase
        dumpAutoload := s.dumpAutoload && !given.contains .skipAutoload
        autoloadCommand := s.autoloadCommand } := by
  refine ⟨GivenOption.exists_spell a, fun options h => ?_, fun hplain parts h hwords => ?_,
    fun options h s => ?_⟩
  · -- The options alone are a mixture without positional words.
    have hoptions : (options.map CommandPart.option).filterMap option? = options := by
      rw [List.filterMap_map]
      exact List.filterMap_some
    have hnone : (options.map CommandPart.option).filterMap positional? = [] :=
      List.filterMap_eq_nil_iff.2 (List.forall_mem_map.2 fun _ _ => rfl)
    have hread := @readAs_parts_escape a (options.map CommandPart.option)
      a.description.positionals hfields hpath (by rwa [hoptions]) (by rw [hnone]; rfl)
      (by rw [hnone]; exact List.forall_mem_nil _)
    rwa [List.map_map] at hread
  · exact readAs_parts hfields hpath h hwords hplain
  · simp only [h.contains_eq]
    rfl

/-- Positional words that look like options, or are empty, behind `--` and in a mixture. -/
theorem readAs_of_spell_force_path :
    ReadAs ["--base-path=p", "-f", "--soft-deletes", "--", "--force", "", "-x"]
      ⟨⟨"--force", "", ["-x"], true⟩, true, false, false, false, some ⟨"p"⟩⟩ ∧
    ReadAs ["cat", "-f", "", "--base-path=p", "--soft-deletes", "a:b"]
      ⟨⟨"cat", "", ["a:b"], true⟩, true, false, false, false, some ⟨"p"⟩⟩ := by
  obtain ⟨-, hescape, -⟩ := @readAs_of_spell
    ⟨⟨"--force", "", ["-x"], true⟩, true, false, false, false, some ⟨"p"⟩⟩ (by decide) (by decide)
  obtain ⟨-, -, hmixed, -⟩ := @readAs_of_spell
    ⟨⟨"cat", "", ["a:b"], true⟩, true, false, false, false, some ⟨"p"⟩⟩ (by decide) (by decide)
  exact ⟨hescape [.basePath "p", .letter .force, .switch .softDeletes] ⟨by decide, rfl⟩,
    hmixed (by decide) [.positional "cat", .option (.letter .force), .positional "",
      .option (.basePath "p"), .option (.switch .softDeletes), .positional "a:b"]
      ⟨by decide, rfl⟩ rfl⟩

end Groundwork
