import Groundwork.Proofs.Plan.Files
import Groundwork.Proofs.Plan.Inside

/-!
# Files of two resources

Two resources with different names and different plurals go to different files, as long as neither
text holds a slash. There are two exceptions. The routes of all resources go to one file, which is
meant. And a resource may be called as another one's collection is: `CatCollection` and the
collection of `Cat` are one file.

* `Resource.Slashless`: what a resource is called holds no slash.
* `Shares`: the pairs of templates whose files are the same.
* **`shares_iff`**: these are all such pairs.
* **`shared_paths_iff`**: the paths that two plans have in common.
-/

namespace Groundwork

open Text (segments Rooted)

/-! ## Names without a slash -/

/-- **What a resource is called holds no slash.** -/
structure Resource.Slashless (r : Resource) : Prop where
  pascalName : '/' ∉ r.pascalName.toList
  plural : '/' ∉ r.plural.toList

variable {t t' : Template} {r r' : Resource} {time time' : Timestamp}

theorem Resource.Slashless.artifactName (h : r.Slashless) (t : Template) (time : Timestamp) :
    '/' ∉ (artifactName t r time).toList := by
  refine t.casesEnding (fun t ending ht => ?_) ?_ (by decide : '/' ∉ "web.php".toList)
  · rw [artifactName_of_ending ht, String.toList_append, List.mem_append]
    exact not_or.2 ⟨h.pascalName, (facts_of_ending ht).1⟩
  · rw [toList_migrationName, List.mem_append]
    refine not_or.2 ⟨slash_not_mem_stamp time, ?_⟩
    rw [List.mem_append]
    exact not_or.2 ⟨h.plural, by decide⟩

theorem two_lt_length_artifactName (t : Template) (r : Resource) (time : Timestamp) :
    2 < (artifactName t r time).toList.length := by
  refine t.casesEnding (fun t ending ht => ?_) ?_ (by decide : 2 < "web.php".toList.length)
  · rw [artifactName_of_ending ht, String.toList_append, List.length_append]
    exact Nat.lt_of_lt_of_le (facts_of_ending ht).2 (Nat.le_add_left _ _)
  · have hend : 2 < ".php".toList.length := by decide
    rw [toList_migrationName, List.length_append, List.length_append, List.length_append]
    omega

theorem Resource.Slashless.not_rooted (h : r.Slashless) (t : Template) (time : Timestamp) :
    ¬ Rooted (Groundwork.artifactName t r time).toList :=
  fun hrooted => h.artifactName t time (List.mem_of_head? hrooted)

theorem Resource.Slashless.inside (h : r.Slashless) (t : Template) (time : Timestamp) :
    (artifactPath t r time).Inside := by
  refine inside_artifactPath_iff.2 ⟨h.not_rooted t time, ?_⟩
  rw [Text.segments_of_not_mem (h.artifactName t time), List.mem_singleton]
  exact ne_dots_of_length (two_lt_length_artifactName t r time)

theorem Resource.Slashless.place (h : r.Slashless) (t : Template) (time : Timestamp) (d : Disk)
    (base : Path) : d.place (base.join (artifactPath t r time)) =
      d.place base ++ (t.folder ++ [Groundwork.artifactName t r time]) := by
  have hlong := two_lt_length_artifactName t r time
  have hnames : Path.names ⟨Groundwork.artifactName t r time⟩ =
      [Groundwork.artifactName t r time] := by
    rw [Path.names, Path.pieces_of_not_mem (h.artifactName t time) fun hempty => ?_]
    · refine List.filter_eq_self.2 (List.forall_mem_singleton.2 (decide_eq_true fun hdot => ?_))
      rw [hdot] at hlong
      exact absurd hlong (by decide)
    · rw [hempty] at hlong
      exact absurd hlong (by decide)
  rw [place_artifactPath (h.inside t time), hnames, List.append_assoc]

/-! ## Two files -/

/-- **The files of two templates are the same**, one of each resource: both add to the routes, or
one resource is called as the other's collection is. -/
inductive Shares (r r' : Resource) : Template → Template → Prop
  | routes : Shares r r' .routes .routes
  | first (name : r.pascalName = r'.pascalName ++ "Collection") : Shares r r' .resource .collection
  | second (name : r'.pascalName = r.pascalName ++ "Collection") : Shares r r' .collection .resource

theorem folder_eq_iff : t.folder = t'.folder ↔
    t = t' ∨ t = .resource ∧ t' = .collection ∨ t = .collection ∧ t' = .resource := by
  cases t <;> cases t' <;> decide

/-- **The plural can be read off a migration's name**: no time stamp has the first letter of the
word before it. -/
theorem plural_eq_of_migrationName
    (h : artifactName .migration r time = artifactName .migration r' time') :
    r.plural = r'.plural := by
  have hread (r : Resource) (time : Timestamp) :
      (artifactName .migration r time).toList.dropWhile (· ≠ 'c') =
        "create_".toList ++ (r.plural.toList ++ ".php".toList) := by
    have hfront : ∀ c ∈ time.stamp.toList ++ ['_'], (decide (c ≠ 'c')) = true := by
      refine List.forall_mem_append.2
        ⟨fun c hc => decide_eq_true ?_, List.forall_mem_singleton.2 rfl⟩
      rintro rfl
      exact absurd (time.forall_mem_stamp 'c' hc) (by decide +kernel)
    have hsplit : "_create_".toList = ['_'] ++ "create_".toList := rfl
    rw [toList_migrationName, hsplit, List.append_assoc, List.append_assoc, ← List.append_assoc,
      List.dropWhile_append_of_pos hfront]
    rfl
  have hsame := hread r time
  rw [h, hread] at hsame
  exact (String.toList_inj.1 (List.append_cancel_right (List.append_cancel_left hsame))).symm

theorem pascalName_eq_of_ending {ending : String} (h : t.ending? = some ending)
    (hname : artifactName t r time = artifactName t r' time') : r.pascalName = r'.pascalName := by
  rw [artifactName_of_ending h, artifactName_of_ending h] at hname
  exact String.append_left_inj _ |>.1 hname

theorem collection_append (name : String) :
    name ++ "Collection.php" = name ++ "Collection" ++ ".php" := by
  rw [String.append_assoc]
  rfl

/-- **Two files have one folder and one name** exactly for the templates that share. -/
theorem shares_iff (hname : r.pascalName ≠ r'.pascalName) (hplural : r.plural ≠ r'.plural) :
    t.folder = t'.folder ∧ artifactName t r time = artifactName t' r' time' ↔ Shares r r' t t' := by
  constructor
  · rintro ⟨hfolder, hfile⟩
    rcases folder_eq_iff.1 hfolder with rfl | ⟨rfl, rfl⟩ | ⟨rfl, rfl⟩
    · revert hfile
      refine t.casesEnding (fun t ending ht hfile => ?_) (fun hfile => ?_) fun _ => .routes
      · exact absurd (pascalName_eq_of_ending ht hfile) hname
      · exact absurd (plural_eq_of_migrationName hfile) hplural
    · refine .first ((String.append_left_inj ".php").1 ?_)
      rw [← collection_append]
      exact hfile
    · refine .second ((String.append_left_inj ".php").1 ?_)
      rw [← collection_append]
      exact hfile.symm
  · intro h
    cases h with
    | routes => exact ⟨rfl, rfl⟩
    | first name =>
      refine ⟨rfl, ?_⟩
      change r.pascalName ++ ".php" = r'.pascalName ++ "Collection.php"
      rw [name, collection_append]
    | second name =>
      refine ⟨rfl, ?_⟩
      change r.pascalName ++ "Collection.php" = r'.pascalName ++ ".php"
      rw [name, collection_append]

variable (h : r.Slashless) (h' : r'.Slashless) (hname : r.pascalName ≠ r'.pascalName)
  (hplural : r.plural ≠ r'.plural)

include h h' hname hplural in
theorem place_eq_iff (d : Disk) (base : Path) :
    d.place (base.join (artifactPath t r time)) = d.place (base.join (artifactPath t' r' time')) ↔
      Shares r r' t t' := by
  rw [h.place, h'.place, List.append_right_inj, List.append_singleton_inj]
  exact shares_iff hname hplural

include h h' hname hplural in
theorem artifactPath_eq_iff :
    artifactPath t r time = artifactPath t' r' time' ↔ Shares r r' t t' := by
  constructor
  · intro hpath
    rw [← place_eq_iff h h' hname hplural ⟨.directory [], []⟩ ⟨""⟩, hpath]
  · intro hshares
    obtain ⟨hfolder, hfile⟩ := (shares_iff hname hplural).2 hshares
    rw [artifactPath_of_not_rooted (h.not_rooted t time),
      artifactPath_of_not_rooted (h'.not_rooted t' time'), hfolder, hfile]

/-! ## Two plans -/

variable {renderer renderer' : Renderer} {o o' : PlanOptions} {files files' : List Artifact}

theorem mem_paths_iff (hplan : (plan r renderer o).result = .ok files) {p : Path} :
    p ∈ files.map (·.path) ↔ ∃ t, artifactPath t r o.timestamp = p := by
  obtain ⟨text, -, rfl⟩ := result_plan_eq_ok_iff.1 hplan
  simp only [List.mem_map, mem_files_iff, exists_exists_eq_and, path_file]

include h in
theorem artifactPath_resource (time : Timestamp) :
    artifactPath .resource r time = ⟨"app/Resources/" ++ r.pascalName ++ ".php"⟩ := by
  rw [artifactPath_of_not_rooted (h.not_rooted .resource time), String.append_assoc]
  rfl

/-- **The paths that two plans have in common**: the routes, and the file of a resource that is
called as the other one's collection is. Nor do two files with different paths come to the same
place, whatever the disk and the base. -/
theorem shared_paths_iff (h : r.Slashless) (h' : r'.Slashless)
    (hname : r.pascalName ≠ r'.pascalName) (hplural : r.plural ≠ r'.plural)
    (hplan : (plan r renderer o).result = .ok files)
    (hplan' : (plan r' renderer' o').result = .ok files') :
    (∀ p, p ∈ files.map (·.path) ∧ p ∈ files'.map (·.path) ↔
      p = ⟨"routes/web.php"⟩ ∨
      r.pascalName = r'.pascalName ++ "Collection" ∧
        p = ⟨"app/Resources/" ++ r.pascalName ++ ".php"⟩ ∨
      r'.pascalName = r.pascalName ++ "Collection" ∧
        p = ⟨"app/Resources/" ++ r'.pascalName ++ ".php"⟩) ∧
    ∀ (d : Disk) (base : Path), ∀ a ∈ files, ∀ a' ∈ files',
      d.place (base.join a.path) = d.place (base.join a'.path) ↔ a.path = a'.path := by
  constructor
  · intro p
    rw [mem_paths_iff hplan, mem_paths_iff hplan', ← artifactPath_resource h o.timestamp,
      ← artifactPath_resource h' o'.timestamp]
    constructor
    · rintro ⟨⟨t, ht⟩, ⟨t', ht'⟩⟩
      have hshares := (artifactPath_eq_iff h h' hname hplural).1 (ht.trans ht'.symm)
      cases hshares with
      | routes => exact .inl (ht.symm.trans (artifactPath_routes r o.timestamp))
      | first name => exact .inr (.inl ⟨name, ht.symm⟩)
      | second name => exact .inr (.inr ⟨name, ht'.symm⟩)
    · rintro (rfl | ⟨name, rfl⟩ | ⟨name, rfl⟩)
      · exact ⟨⟨.routes, artifactPath_routes _ _⟩, ⟨.routes, artifactPath_routes _ _⟩⟩
      · exact ⟨⟨.resource, rfl⟩,
          ⟨.collection, ((artifactPath_eq_iff h h' hname hplural).2 (.first name)).symm⟩⟩
      · exact ⟨⟨.collection, (artifactPath_eq_iff h h' hname hplural).2 (.second name)⟩,
          ⟨.resource, rfl⟩⟩
  · intro d base a ha a' ha'
    obtain ⟨t, ht⟩ := (mem_paths_iff hplan).1 (List.mem_map_of_mem ha)
    obtain ⟨t', ht'⟩ := (mem_paths_iff hplan').1 (List.mem_map_of_mem ha')
    rw [← ht, ← ht', place_eq_iff h h' hname hplural, artifactPath_eq_iff h h' hname hplural]

/-- The plans of `cat` and `cat_collection`, made at different times, have two paths in common. -/
theorem shared_paths_of_cat_collection :
    let o : PlanOptions := ⟨true, true, ⟨2017, 9, 16, 10, 3, 50⟩⟩
    let o' : PlanOptions := ⟨false, true, ⟨2024, 2, 29, 0, 0, 0⟩⟩
    ∃ r r' files files', Resource.build "cat" "cats" [] false = .ok r ∧
      Resource.build "cat_collection" "collections" [] true = .ok r' ∧
      (plan r Renderer.standard o).result = .ok files ∧
      (plan r' Renderer.standard o').result = .ok files' ∧
      ∀ p, p ∈ files.map (·.path) ∧ p ∈ files'.map (·.path) ↔
        p = ⟨"routes/web.php"⟩ ∨ p = ⟨"app/Resources/CatCollection.php"⟩ := by
  let r : Resource := ⟨"cat", "cats", [], false, by decide, by decide⟩
  let r' : Resource := ⟨"catCollection", "collections", [], true, by decide, by decide⟩
  obtain ⟨files, hplan⟩ := Resource.exists_standard_files r ⟨true, true, ⟨2017, 9, 16, 10, 3, 50⟩⟩
  obtain ⟨files', hplan'⟩ :=
    Resource.exists_standard_files r' ⟨false, true, ⟨2024, 2, 29, 0, 0, 0⟩⟩
  refine ⟨r, r', files, files', rfl, rfl, hplan, hplan', fun p => ?_⟩
  have hpath : "app/Resources/" ++ r'.pascalName ++ ".php" = "app/Resources/CatCollection.php" := by
    decide
  rw [(shared_paths_iff ⟨by decide, by decide⟩ ⟨by decide, by decide⟩ (by decide) (by decide)
    hplan hplan').1 p, hpath]
  refine or_congr_right ⟨?_, fun hp => .inr ⟨by decide, hp⟩⟩
  rintro (⟨hname, -⟩ | ⟨-, hp⟩)
  · exact absurd hname (by decide)
  · exact hp

/-- Resources that differ in name and plural may share more than the routes. -/
theorem exists_shared_path_beside_routes :
    let o : PlanOptions := ⟨true, true, ⟨2017, 9, 16, 10, 3, 50⟩⟩
    ∃ r r' files files', Resource.build "cat" "cats" [] false = .ok r ∧
      Resource.build "cat_collection" "collections" [] false = .ok r' ∧
      (plan r Renderer.standard o).result = .ok files ∧
      (plan r' Renderer.standard o).result = .ok files' ∧
      r.pascalName ≠ r'.pascalName ∧ r.plural ≠ r'.plural ∧ r.Slashless ∧ r'.Slashless ∧
      ∃ p, p ∈ files.map (·.path) ∧ p ∈ files'.map (·.path) ∧ p ≠ ⟨"routes/web.php"⟩ := by
  let r : Resource := ⟨"cat", "cats", [], false, by decide, by decide⟩
  let r' : Resource := ⟨"catCollection", "collections", [], false, by decide, by decide⟩
  obtain ⟨files, hplan⟩ := Resource.exists_standard_files r ⟨true, true, ⟨2017, 9, 16, 10, 3, 50⟩⟩
  obtain ⟨files', hplan'⟩ :=
    Resource.exists_standard_files r' ⟨true, true, ⟨2017, 9, 16, 10, 3, 50⟩⟩
  refine ⟨r, r', files, files', rfl, rfl, hplan, hplan', by decide, by decide,
    ⟨by decide, by decide⟩, ⟨by decide, by decide⟩, ⟨"app/Resources/CatCollection.php"⟩, ?_⟩
  rw [mem_paths_iff hplan, mem_paths_iff hplan']
  exact ⟨⟨.collection, by decide +kernel⟩, ⟨.resource, by decide +kernel⟩, by decide⟩

end Groundwork
