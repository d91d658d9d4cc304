import Groundwork.Proofs.Path.Joining
import Groundwork.Proofs.Settings.Reading

/-!
# The settings file that counts

Of eight candidates the first one that exists counts: it alone decides the settings, whether it can
be read or not. Only without any are the settings the standard ones.

* `Settings.Counts`: a candidate exists, and none before it does.
* **`Settings.load_of_counts`**: the candidate that counts is the one that is read.
* **`Settings.load_follows_first`**: no later candidate has a say, nor anything else on the disk.
-/

namespace Groundwork.Settings

variable {h h' : Host} {d d' : Disk} {p : Path}

/-! ## Candidates -/

theorem candidates_eq (h : Host) :
    candidates h =
      [⟨"./.scaffold/config.toml"⟩, ⟨"./.scaffold.toml"⟩,
        ⟨"../.scaffold/config.toml"⟩, ⟨"../.scaffold.toml"⟩,
        h.configDirectory.join ⟨".scaffold/config.toml"⟩, h.configDirectory.join ⟨".scaffold.toml"⟩,
        h.home.join ⟨".scaffold/config.toml"⟩, h.home.join ⟨".scaffold.toml"⟩] := by
  have hhere : (⟨"."⟩ : Path).join ⟨".scaffold/config.toml"⟩ = ⟨"./.scaffold/config.toml"⟩ ∧
      (⟨"."⟩ : Path).join ⟨".scaffold.toml"⟩ = ⟨"./.scaffold.toml"⟩ := by decide
  have habove : (⟨".."⟩ : Path).join ⟨".scaffold/config.toml"⟩ = ⟨"../.scaffold/config.toml"⟩ ∧
      (⟨".."⟩ : Path).join ⟨".scaffold.toml"⟩ = ⟨"../.scaffold.toml"⟩ := by decide
  rw [← hhere.1, ← hhere.2, ← habove.1, ← habove.2]
  rfl

theorem exists_endsIn_of_mem_candidates (hp : p ∈ candidates h) : ∃ last, p.EndsIn last := by
  obtain ⟨dir, -, hp⟩ := List.mem_flatMap.1 hp
  obtain ⟨name, hname, rfl⟩ := List.mem_map.1 hp
  have hfacts : ∀ q ∈ fileNames, q.isAbsolute = false ∧
      (q.pieces.getLast? = some "config.toml" ∨ q.pieces.getLast? = some ".scaffold.toml") := by
    decide
  obtain ⟨hrelative, hlast⟩ := hfacts name hname
  have hpieces : (dir.join name).pieces.getLast? = name.pieces.getLast? := by
    rw [Path.pieces_join hrelative, List.getLast?_append]
    rcases hlast with hlast | hlast <;> rw [hlast] <;> rfl
  rcases hlast with hlast | hlast
  · exact ⟨_, hpieces.trans hlast, by decide, by decide⟩
  · exact ⟨_, hpieces.trans hlast, by decide, by decide⟩

/-! ## The candidate that counts -/

/-- **The candidate that counts**: it exists, and none before it does. -/
def Counts (h : Host) (d : Disk) (p : Path) : Prop :=
  ∃ before after, candidates h = before ++ p :: after ∧
    (∀ q ∈ before, d.holds q = false) ∧ d.holds p = true

theorem Counts.mem_candidates (hp : Counts h d p) : p ∈ candidates h := by
  obtain ⟨before, after, hsplit, -⟩ := hp
  rw [hsplit]
  exact List.mem_append_right _ List.mem_cons_self

theorem find?_eq_some_iff_counts : (candidates h).find? d.holds = some p ↔ Counts h d p := by
  rw [List.find?_eq_some_iff_append]
  simp only [Bool.not_eq_true']
  constructor
  · rintro ⟨hholds, before, after, hsplit, hbefore⟩
    exact ⟨before, after, hsplit, hbefore, hholds⟩
  · rintro ⟨before, after, hsplit, hbefore, hholds⟩
    exact ⟨hholds, before, after, hsplit, hbefore⟩

theorem find?_eq_none_iff_missing :
    (candidates h).find? d.holds = none ↔ ∀ q ∈ candidates h, d.holds q = false := by
  simp only [List.find?_eq_none, Bool.not_eq_true]

/-- **The candidate that counts is the one that is read.** -/
theorem load_of_counts (hp : Counts h d p) : load h d = read d p := by
  unfold load
  rw [find?_eq_some_iff_counts.2 hp]

theorem exists_reading_of_counts (hp : Counts h d p) :
    ∃ n, d.look? p = some n ∧ Reading p n (load h d) := by
  obtain ⟨last, hlast⟩ := exists_endsIn_of_mem_candidates hp.mem_candidates
  have hholds : d.holds p = true := by
    obtain ⟨before, after, -, -, hholds⟩ := hp
    exact hholds
  obtain ⟨n, hn⟩ := Disk.exists_look?_of_holds hlast hholds
  refine ⟨n, hn, ?_⟩
  rw [load_of_counts hp]
  exact reading_read hn

/-- **Only the first settings file counts.** The settings come from the first of the eight
candidates that exists, and from none, as the standard ones, exactly if none exists. The candidate
that counts is read, whatever that comes to: if it cannot be read or is refused, then so is
loading. On two disks on which the same candidate counts, and names the same, loading comes to the
same. A candidate below a file does not exist.

A file that sets nothing gives the standard settings as well, but these are what it was read as. -/
theorem load_follows_first (h : Host) (d : Disk) :
    candidates h =
      [⟨"./.scaffold/config.toml"⟩, ⟨"./.scaffold.toml"⟩,
        ⟨"../.scaffold/config.toml"⟩, ⟨"../.scaffold.toml"⟩,
        h.configDirectory.join ⟨".scaffold/config.toml"⟩, h.configDirectory.join ⟨".scaffold.toml"⟩,
        h.home.join ⟨".scaffold/config.toml"⟩, h.home.join ⟨".scaffold.toml"⟩] ∧
    (∃ source : Option Path,
      (source = none ↔ ∀ p ∈ candidates h, d.holds p = false) ∧
      (∀ p, source = some p ↔ Counts h d p) ∧
      load h d = match source with
        | none => .ok standard
        | some p => read d p) ∧
    (∀ p, Counts h d p → ∃ n, d.look? p = some n ∧ Reading p n (load h d)) ∧
    (∀ h' d' p, Counts h d p → Counts h' d' p → d'.look? p = d.look? p →
      load h' d' = load h d) ∧
    (d.Sound → ∀ p ∈ candidates h, ∀ q ∈ p.ancestors, q ≠ p →
      ∀ contents, d.look? q = some (.file contents) → d.holds p = false) := by
  refine ⟨candidates_eq h, ⟨(candidates h).find? d.holds, find?_eq_none_iff_missing,
    fun p => find?_eq_some_iff_counts, rfl⟩, fun p hp => exists_reading_of_counts hp,
    fun h' d' p hp hp' hsame => ?_, fun hd p _ q hq hne contents hfile => ?_⟩
  · obtain ⟨n, hn, hreading⟩ := exists_reading_of_counts hp
    rw [load_of_counts hp']
    exact hreading.read_eq (hsame.trans hn)
  · exact Disk.holds_eq_false_below_file hd hq hne hfile

/-- A file in the place of the hidden directory, then one that is not text: the well-formed one in
the directory above has no say, there or not. -/
theorem load_follows_first_of_garbled :
    let h : Host := ⟨⟨"/home"⟩, none, none, Programs.standard⟩
    let first : Path := ⟨"./.scaffold.toml"⟩
    let d : Disk := ⟨.directory [
      (".scaffold.toml", .file (Text.encode "dump_autoload = false\n")),
      ("work", .directory [(".scaffold", .file []), (".scaffold.toml", .file [255])])], ["work"]⟩
    let d' : Disk := ⟨.directory [("work", .directory [(".scaffold.toml", .file [255])])], ["work"]⟩
    Counts h d first ∧ Reading first (.file [255]) (load h d) ∧
      load h d = .error (.system ["Failed to read ./.scaffold.toml"] .notText) ∧
      load h d' = load h d ∧ d.holds ⟨"./.scaffold/config.toml"⟩ = false := by
  intro h first d d'
  obtain ⟨-, -, hreading, htwo, hbelow⟩ := load_follows_first h d
  have hcounts : Counts h d first :=
    ⟨[⟨"./.scaffold/config.toml"⟩], _, candidates_eq h, by decide, by decide⟩
  have hcounts' : Counts h d' first :=
    ⟨[⟨"./.scaffold/config.toml"⟩], _, candidates_eq h, by decide, by decide⟩
  have hlook : d.look? first = some (.file [255]) := by decide
  obtain ⟨n, hn, hr⟩ := hreading first hcounts
  obtain rfl : n = .file [255] := Option.some.inj (hn.symm.trans hlook)
  have habove : (⟨"./.scaffold"⟩ : Path) ∈ Path.ancestors ⟨"./.scaffold/config.toml"⟩ := by
    rw [Path.ancestors_eq, show Path.parent? ⟨"./.scaffold/config.toml"⟩ = some ⟨"./.scaffold"⟩ by
      decide, Option.map_some, Path.ancestors_eq]
    simp
  refine ⟨hcounts, hr, ?_, htwo h d' first hcounts hcounts' (by decide), ?_⟩
  · decide
  · exact hbelow rfl _ (by decide) _ habove (by decide) [] (by decide)

end Groundwork.Settings
