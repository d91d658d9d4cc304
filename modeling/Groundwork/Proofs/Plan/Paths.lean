import Groundwork.Proofs.Identifier.Slashes
import Groundwork.Proofs.Path.Joining
import Groundwork.Proofs.Refusal

/-!
# Where the files of a plan go

Each template has a folder of its project and a name for its file, which joins what the resource is
called and an ending. The folder is fixed, but the name is a text like any other: with a slash in it
the file may be put outside its folder, and outside the project.

* `Template.folder`, `artifactName`: the two parts of a file's path.
* `Template.casesEnding`: the three kinds of templates.
* `artifactPath_of_not_rooted`: a path as it is written.
* **`pieces_artifactPath`**: a file is in its folder unless its name begins with a slash.
* **`inside_artifactPath_iff`**: the names of files that stay inside the project.
* `Timestamp.forall_mem_stamp`: the characters of a time stamp.
-/

namespace Groundwork

open Text (segments Rooted Climbs)

/-! ## Folders and names -/

/-- **The folder of a template's file.** -/
def Template.folder : Template → List String
  | .migration => ["database", "migrations"]
  | .factory => ["database", "factories"]
  | .test => ["tests"]
  | .model => ["app"]
  | .resource => ["app", "Resources"]
  | .collection => ["app", "Resources"]
  | .controller => ["app", "Http", "Controllers"]
  | .routes => ["routes"]

/-- What follows the resource's name in the name of a file that is called after it. -/
def Template.ending? : Template → Option String
  | .migration => none
  | .factory => some "Factory.php"
  | .test => some "Test.php"
  | .model => some ".php"
  | .resource => some ".php"
  | .collection => some "Collection.php"
  | .controller => some "Controller.php"
  | .routes => none

/-- **The name of a template's file**: the resource's name with an ending, but for the migration,
which has the time and the plural, and the routes. -/
def artifactName (t : Template) (r : Resource) (time : Timestamp) : String :=
  match t with
  | .migration => time.stamp ++ "_create_" ++ r.plural ++ ".php"
  | .factory => r.pascalName ++ "Factory.php"
  | .test => r.pascalName ++ "Test.php"
  | .model => r.pascalName ++ ".php"
  | .resource => r.pascalName ++ ".php"
  | .collection => r.pascalName ++ "Collection.php"
  | .controller => r.pascalName ++ "Controller.php"
  | .routes => "web.php"

variable {t : Template} {r : Resource} {time : Timestamp} {ending : String}

theorem artifactSegments_eq (t : Template) (r : Resource) (time : Timestamp) :
    artifactSegments t r time = t.folder ++ [artifactName t r time] := by cases t <;> rfl

theorem artifactName_of_ending (h : t.ending? = some ending) (r : Resource) (time : Timestamp) :
    artifactName t r time = r.pascalName ++ ending := by
  cases t <;> cases h <;> rfl

/-- **Three kinds of templates**: those whose files are called after the resource, the migration and
the routes. -/
@[elab_as_elim]
theorem Template.casesEnding {motive : Template → Prop}
    (named : ∀ (t : Template) (ending : String), t.ending? = some ending → motive t)
    (migration : motive .migration) (routes : motive .routes) (t : Template) : motive t := by
  cases h : t.ending? with
  | some ending => exact named t ending h
  | none =>
    have hkind : t = .migration ∨ t = .routes := by
      revert h
      cases t <;> decide
    rcases hkind with rfl | rfl
    · exact migration
    · exact routes

theorem facts_of_ending (h : t.ending? = some ending) :
    '/' ∉ ending.toList ∧ 2 < ending.toList.length := by
  cases t <;> cases h <;> decide

theorem pieces_of_mem_folder {s : String} (h : s ∈ t.folder) :
    Path.isAbsolute ⟨s⟩ = false ∧ Path.pieces ⟨s⟩ = [s] := by
  have hall : ∀ s ∈ t.folder, Path.isAbsolute ⟨s⟩ = false ∧ Path.pieces ⟨s⟩ = [s] := by
    cases t <;> decide
  exact hall s h

theorem not_mem_folder (t : Template) : ".." ∉ t.folder ∧ "." ∉ t.folder := by
  cases t <;> decide

/-! ## Paths -/

theorem isAbsolute_iff_rooted (s : String) : Path.isAbsolute ⟨s⟩ = true ↔ Rooted s.toList :=
  decide_eq_true_iff

theorem isAbsolute_of_mem_artifactSegments (h : ¬ Rooted (artifactName t r time).toList) :
    ∀ s ∈ artifactSegments t r time, Path.isAbsolute ⟨s⟩ = false := by
  rw [artifactSegments_eq, List.forall_mem_append]
  refine ⟨fun s hs => (pieces_of_mem_folder hs).1, List.forall_mem_singleton.2 ?_⟩
  rwa [← Bool.not_eq_true, isAbsolute_iff_rooted]

/-- **The path of a file as it is written**, unless the file's name begins with a slash. -/
theorem artifactPath_of_not_rooted (h : ¬ Rooted (artifactName t r time).toList) :
    artifactPath t r time = ⟨"/".intercalate t.folder ++ "/" ++ artifactName t r time⟩ := by
  have hfolder : Path.ofSegments t.folder = ⟨"/".intercalate t.folder⟩ := by cases t <;> decide
  have hopen : ¬ ("/".intercalate t.folder = "" ∨
      Path.endsInSlash ⟨"/".intercalate t.folder⟩ = true) := by cases t <;> decide
  have hrelative : ¬ Path.isAbsolute ⟨artifactName t r time⟩ = true := by
    rwa [isAbsolute_iff_rooted]
  rw [Path.ofSegments] at hfolder
  rw [artifactPath, artifactSegments_eq, Path.ofSegments, List.foldl_append, hfolder]
  change Path.join _ _ = _
  rw [Path.join, if_neg hrelative, if_neg hopen]

theorem artifactPath_routes (r : Resource) (time : Timestamp) :
    artifactPath .routes r time = ⟨"routes/web.php"⟩ :=
  (by decide : Path.ofSegments ["routes", "web.php"] = ⟨"routes/web.php"⟩)

/-- **A file is in its folder** unless its name begins with a slash. -/
theorem pieces_artifactPath (h : ¬ Rooted (artifactName t r time).toList) :
    (artifactPath t r time).pieces = t.folder ++ Path.pieces ⟨artifactName t r time⟩ := by
  have hfolder : (t.folder.flatMap fun s => Path.pieces ⟨s⟩) = t.folder := by
    rw [List.flatMap_congr fun s hs => (pieces_of_mem_folder hs).2]
    exact List.flatMap_singleton' t.folder
  rw [artifactPath, Path.pieces_ofSegments (isAbsolute_of_mem_artifactSegments h),
    artifactSegments_eq, List.flatMap_append, hfolder, List.flatMap_singleton]

theorem isAbsolute_artifactPath_iff :
    (artifactPath t r time).isAbsolute = true ↔ Rooted (artifactName t r time).toList := by
  by_cases h : Rooted (artifactName t r time).toList
  · have hname := (isAbsolute_iff_rooted _).2 h
    rw [artifactPath, artifactSegments_eq, Path.ofSegments_concat_of_isAbsolute hname]
    exact iff_of_true hname h
  · have hrelative := Path.isAbsolute_ofSegments (isAbsolute_of_mem_artifactSegments h)
    rw [artifactPath, hrelative]
    exact iff_of_false Bool.false_ne_true h

theorem dots_mem_pieces_iff (s : String) :
    ".." ∈ Path.pieces ⟨s⟩ ↔ ['.', '.'] ∈ segments '/' s.toList := by
  have hdots : String.ofList ['.', '.'] = ".." := rfl
  rw [Path.pieces_eq, Path.charPieces, ← hdots,
    List.mem_map_of_injective fun _ _ => String.ofList_injective, List.mem_filter]
  exact and_iff_left rfl

theorem climbs_artifactPath_iff (h : ¬ Rooted (artifactName t r time).toList) :
    (artifactPath t r time).climbs = true ↔
      ['.', '.'] ∈ segments '/' (artifactName t r time).toList := by
  rw [Path.climbs_iff, pieces_artifactPath h, List.mem_append, ← dots_mem_pieces_iff]
  exact or_iff_right (not_mem_folder t).1

theorem inside_artifactPath_iff : (artifactPath t r time).Inside ↔
    ¬ Rooted (artifactName t r time).toList ∧
      ['.', '.'] ∉ segments '/' (artifactName t r time).toList := by
  constructor
  · rintro ⟨hrelative, hlevel⟩
    have hroot : ¬ Rooted (artifactName t r time).toList := by
      rwa [← isAbsolute_artifactPath_iff, Bool.not_eq_true]
    refine ⟨hroot, ?_⟩
    rwa [← climbs_artifactPath_iff hroot, Bool.not_eq_true]
  · rintro ⟨hroot, hlevel⟩
    refine ⟨?_, ?_⟩
    · rwa [← Bool.not_eq_true, isAbsolute_artifactPath_iff]
    · rwa [← Bool.not_eq_true, climbs_artifactPath_iff hroot]

theorem names_artifactPath (h : ¬ Rooted (artifactName t r time).toList) :
    (artifactPath t r time).names = t.folder ++ Path.names ⟨artifactName t r time⟩ := by
  have hfolder : t.folder.filter (· ≠ ".") = t.folder :=
    List.filter_eq_self.2 fun s hs => decide_eq_true fun hdot =>
      (not_mem_folder t).2 (hdot ▸ hs)
  rw [Path.names, pieces_artifactPath h, List.filter_append, hfolder]
  rfl

theorem place_artifactPath (h : (artifactPath t r time).Inside) (d : Disk) (base : Path) :
    d.place (base.join (artifactPath t r time)) =
      d.place base ++ t.folder ++ Path.names ⟨artifactName t r time⟩ := by
  rw [Disk.place_join d h, names_artifactPath (inside_artifactPath_iff.1 h).1, List.append_assoc]

/-! ## Names of files -/

theorem ne_dots_of_length {cs : List Char} (h : 2 < cs.length) : ['.', '.'] ≠ cs := by
  rintro rfl
  exact Nat.lt_irrefl 2 h

/-- **A name with an ending** begins with a slash or has a segment of two dots exactly if the name
does so in itself, where a slash ends that segment. -/
theorem dangers_of_ending (h : t.ending? = some ending) :
    (Rooted (artifactName t r time).toList ↔ Rooted r.pascalName.toList) ∧
      (['.', '.'] ∈ segments '/' (artifactName t r time).toList ↔
        Climbs r.pascalName.toList) := by
  obtain ⟨hslash, hlong⟩ := facts_of_ending h
  rw [artifactName_of_ending h, String.toList_append]
  constructor
  · unfold Rooted
    rw [List.head?_append]
    cases r.pascalName.toList with
    | nil =>
      refine iff_of_false (fun hhead => hslash ?_) (by simp)
      exact List.mem_of_head? hhead
    | cons c rest => exact Iff.rfl
  · obtain ⟨s, hs⟩ := Text.segments_append_of_not_mem_right hslash r.pascalName.toList
    rw [hs, List.mem_append, List.mem_singleton]
    refine or_iff_left (ne_dots_of_length ?_)
    rw [List.length_append]
    omega

/-! ## Time stamps -/

/-- The characters of a time stamp. -/
def IsStampChar (c : Char) : Prop := c.isDigit = true ∨ c = '-' ∨ c = '_'

instance : DecidablePred IsStampChar := fun _ => inferInstanceAs (Decidable (_ ∨ _))

theorem forall_mem_paddedNumber (width n : Nat) :
    ∀ c ∈ (paddedNumber width n).toList, IsStampChar c := by
  rw [paddedNumber, String.toList_ofList, List.forall_mem_append]
  refine ⟨fun c hc => ?_, fun c hc => ?_⟩
  · rw [(List.mem_replicate.1 hc).2]
    exact .inl rfl
  · exact .inl (Nat.isDigit_of_mem_toDigits (by decide) (by decide) hc)

/-- **A time is written** with digits, hyphens and underscores. -/
theorem Timestamp.forall_mem_stamp (time : Timestamp) :
    ∀ c ∈ time.stamp.toList, IsStampChar c := by
  have hunder : ∀ c ∈ "_".toList, IsStampChar c :=
    List.forall_mem_singleton.2 (.inr (.inr rfl))
  have hsign : ∀ c ∈ (if time.year < 0 then "-" else "").toList, IsStampChar c := by
    split
    · exact List.forall_mem_singleton.2 (.inr (.inl rfl))
    · exact List.forall_mem_nil _
  unfold stamp
  simp only [String.toList_append, List.forall_mem_append]
  and_intros <;>
    first | with_reducible assumption | with_reducible exact forall_mem_paddedNumber _ _

end Groundwork
