import Groundwork.Proofs.Plan.Paths

/-!
# Files inside the project

A resource may have any name of which something is left and any plural. Both become parts of paths
as they are, but for the separators and the letter case of the name. So the files stay inside the
project exactly if the bare name does not begin with a slash and neither text has two dots between
slashes, where the folder of the file counts as a slash before the name.

* `Text.ClimbsWithin`: what makes a plural dangerous.
* `Template.StaysInside`: the names and plurals that keep a template's file inside the project.
* **`artifactPath_inside_iff`**: these are all of them.
-/

namespace Groundwork

open Identifier (bare)
open Text (segments Rooted Climbs)

/-- **The text climbs within**: two slashes have a segment of two dots between them. -/
def Text.ClimbsWithin (cs : List Char) : Prop := ['.', '.'] ∈ (segments '/' cs).tail.dropLast

instance (cs : List Char) : Decidable (Text.ClimbsWithin cs) := inferInstanceAs (Decidable (_ ∈ _))

/-- **The file of a template stays inside the project** for a name and a plural as given. -/
def Template.StaysInside (name plural : String) : Template → Prop
  | .migration => ¬ Text.ClimbsWithin plural.toList
  | .routes => True
  | _ => ¬ Rooted (bare name.toList) ∧ ¬ Climbs (bare name.toList)

instance (name plural : String) : DecidablePred (Template.StaysInside name plural)
  | .migration => inferInstanceAs (Decidable (¬ _))
  | .routes => inferInstanceAs (Decidable True)
  | .factory => inferInstanceAs (Decidable (_ ∧ _))
  | .test => inferInstanceAs (Decidable (_ ∧ _))
  | .model => inferInstanceAs (Decidable (_ ∧ _))
  | .resource => inferInstanceAs (Decidable (_ ∧ _))
  | .collection => inferInstanceAs (Decidable (_ ∧ _))
  | .controller => inferInstanceAs (Decidable (_ ∧ _))

variable {r : Resource} {time : Timestamp}

/-! ## The migration -/

theorem slash_not_mem_stamp (time : Timestamp) : '/' ∉ time.stamp.toList ++ "_create_".toList := by
  intro hmem
  rcases List.mem_append.1 hmem with h | h
  · exact absurd (time.forall_mem_stamp '/' h) (by decide +kernel)
  · exact absurd h (by decide)

theorem toList_migrationName (r : Resource) (time : Timestamp) :
    (artifactName .migration r time).toList =
      (time.stamp.toList ++ "_create_".toList) ++ (r.plural.toList ++ ".php".toList) := by
  unfold artifactName
  simp only [String.toList_append, List.append_assoc]

theorem not_rooted_migrationName (r : Resource) (time : Timestamp) :
    ¬ Rooted (artifactName .migration r time).toList := by
  intro hrooted
  have hne : time.stamp.toList ++ "_create_".toList ≠ [] := by simp
  rw [toList_migrationName, Rooted, List.head?_append_of_ne_nil _ hne] at hrooted
  exact slash_not_mem_stamp time (List.mem_of_head? hrooted)

/-- **The migration climbs** exactly if the plural climbs within: what stands before the plural and
after it is no part of such a segment. -/
theorem dots_mem_migrationName_iff (r : Resource) (time : Timestamp) :
    ['.', '.'] ∈ segments '/' (artifactName .migration r time).toList ↔
      Text.ClimbsWithin r.plural.toList := by
  have hend : '/' ∉ ".php".toList := by decide
  have hfront : 2 < (time.stamp.toList ++ "_create_".toList).length := by
    rw [List.length_append]
    exact Nat.lt_of_lt_of_le (by decide) (Nat.le_add_left _ _)
  obtain ⟨s, hs⟩ := Text.segments_append_of_not_mem_right hend r.plural.toList
  have hlast : ['.', '.'] ≠ s ++ ".php".toList := ne_dots_of_length (by
    rw [List.length_append]
    exact Nat.lt_of_lt_of_le (by decide) (Nat.le_add_left _ _))
  rw [toList_migrationName, Text.segments_append_of_not_mem (slash_not_mem_stamp time), hs,
    Text.ClimbsWithin, ← List.tail_dropLast]
  cases (segments '/' r.plural.toList).dropLast with
  | nil =>
    have hall : ['.', '.'] ≠ (time.stamp.toList ++ "_create_".toList) ++ (s ++ ".php".toList) :=
      ne_dots_of_length (by
        rw [List.length_append]
        omega)
    simpa using hall
  | cons first more =>
    have hfirst : ['.', '.'] ≠ (time.stamp.toList ++ "_create_".toList) ++ first :=
      ne_dots_of_length (by
        rw [List.length_append]
        omega)
    rw [List.cons_append, List.modifyHead_cons, List.mem_cons, or_iff_right hfirst,
      List.mem_append, List.mem_singleton, or_iff_left hlast, List.tail_cons]

/-! ## All files -/

theorem inside_iff_of_ending {t : Template} {ending : String} (h : t.ending? = some ending) :
    (artifactPath t r time).Inside ↔
      ¬ Rooted r.pascalName.toList ∧ ¬ Climbs r.pascalName.toList := by
  rw [inside_artifactPath_iff, (dangers_of_ending h).1, (dangers_of_ending h).2]

theorem inside_migration_iff :
    (artifactPath .migration r time).Inside ↔ ¬ Text.ClimbsWithin r.plural.toList := by
  rw [inside_artifactPath_iff, dots_mem_migrationName_iff]
  exact and_iff_right (not_rooted_migrationName r time)

theorem not_rooted_artifactName (h : ¬ Rooted r.pascalName.toList) (t : Template) :
    ¬ Rooted (artifactName t r time).toList := by
  have hroutes : ¬ Rooted (artifactName .routes r time).toList :=
    (by decide : ¬ Rooted "web.php".toList)
  refine t.casesEnding (fun t ending ht => ?_) (not_rooted_migrationName r time) hroutes
  rwa [(dangers_of_ending ht).1]

/-- **A path that does not climb stays inside** if the resource's name does not begin with a
slash. -/
theorem inside_of_not_rooted {t : Template} (h : ¬ Rooted r.pascalName.toList)
    (hlevel : (artifactPath t r time).climbs = false) : (artifactPath t r time).Inside := by
  refine ⟨?_, hlevel⟩
  rw [← Bool.not_eq_true, isAbsolute_artifactPath_iff]
  exact not_rooted_artifactName h t

theorem inside_routes (r : Resource) (time : Timestamp) : (artifactPath .routes r time).Inside := by
  rw [inside_artifactPath_iff]
  exact (by decide : ¬ Rooted "web.php".toList ∧ ['.', '.'] ∉ segments '/' "web.php".toList)

variable {name plural : String} {fields : List Field} {softDeletes : Bool}

theorem inside_iff_staysInside (h : Resource.build name plural fields softDeletes = .ok r)
    (t : Template) : (artifactPath t r time).Inside ↔ t.StaysInside name plural := by
  obtain ⟨-, hname, hplural, -, -⟩ := Resource.build_eq_ok_iff.1 h
  have hpascal : r.pascalName = Identifier.pascal name := by
    rw [Resource.pascalName, hname]
    rfl
  obtain ⟨hrooted, hclimbs⟩ := Identifier.dangers_pascal name
  refine t.casesEnding (fun t ending ht => ?_) ?_ ?_
  · have hstays : t.StaysInside name plural ↔
        ¬ Rooted (bare name.toList) ∧ ¬ Climbs (bare name.toList) := by
      cases t <;> cases ht <;> exact Iff.rfl
    rw [inside_iff_of_ending ht, hpascal, hrooted, hclimbs, hstays]
  · rw [inside_migration_iff, hplural]
    rfl
  · exact iff_of_true (inside_routes r time) trivial

/-- **The file of a template stays inside the project** exactly for these names and plurals, out of
all that make a resource; then it is below the project's base in its folder, whatever the base. -/
theorem artifactPath_inside_iff (h : Resource.build name plural fields softDeletes = .ok r)
    (time : Timestamp) (t : Template) :
    ((artifactPath t r time).Inside ↔ t.StaysInside name plural) ∧
      ((artifactPath t r time).Inside → ∀ (d : Disk) (base : Path),
        d.place (base.join (artifactPath t r time)) =
          d.place base ++ t.folder ++ Path.names ⟨artifactName t r time⟩) :=
  ⟨inside_iff_staysInside h t, fun hinside d base => place_artifactPath hinside d base⟩

/-- Two dots in front of a longer segment do no harm to the model, and the plural is not in its
path. -/
theorem artifactPath_inside_iff_of_longer_segment :
    let time : Timestamp := ⟨2017, 9, 16, 10, 3, 50⟩
    ∃ r, Resource.build "a/..b" "c/../d" [] false = .ok r ∧ (artifactPath .model r time).Inside ∧
      ∀ (d : Disk) (base : Path), d.place (base.join (artifactPath .model r time)) =
        d.place base ++ ["app", "A", "..b.php"] := by
  have hbuild : Resource.build "a/..b" "c/../d" [] false =
      .ok ⟨"a/..b", "c/../d", [], false, by decide, by decide⟩ := rfl
  obtain ⟨hiff, hplace⟩ := artifactPath_inside_iff hbuild ⟨2017, 9, 16, 10, 3, 50⟩ .model
  have hinside := hiff.2 (by decide +kernel)
  refine ⟨_, hbuild, hinside, fun d base => ?_⟩
  rw [hplace hinside, List.append_assoc]
  rfl

/-- A name may put a file outside the project: with a slash in front the path is absolute and any
base is discarded, and with two dots between slashes it climbs, as it does with such a plural. -/
theorem exists_artifactPath_outside :
    let time : Timestamp := ⟨2017, 9, 16, 10, 3, 50⟩
    (∃ r, Resource.build "/cat" "cats" [] false = .ok r ∧
      (artifactPath .model r time).isAbsolute = true ∧
      (Path.mk "project").join (artifactPath .model r time) = ⟨"/cat.php"⟩) ∧
    ∃ r, Resource.build "../../cat" "a/../../../../cats" [] false = .ok r ∧
      artifactPath .model r time = ⟨"app/../../cat.php"⟩ ∧
      (artifactPath .model r time).climbs = true ∧
      (artifactPath .migration r time).climbs = true := by
  refine ⟨⟨⟨"/cat", "cats", [], false, by decide, by decide⟩, rfl, ?_⟩,
    ⟨⟨"../../cat", "a/../../../../cats", [], false, by decide, by decide⟩, rfl, ?_⟩⟩
  · decide +kernel
  · decide +kernel

end Groundwork
