import Groundwork.Proofs.Plan.Inside
import Mathlib.Data.List.Nodup

/-!
# The eight paths of one resource

The files of a resource are kept apart by their folders and by the endings of their names, whatever
the name and the plural are: slashes and dots in them add pieces to a path, but to each path the
same ones. A name that begins with a slash discards the folders, and then the model and the
resource, which have one ending, are one path. That is all that ever coincides.

* `Path.components`: what a path is compared by.
* `exists_names_of_ending`: the names of all files that are called after a resource.
* **`names_artifactPath_inj`**: the names of a path tell its template.
* `place_artifactPath_inj`: so does its place below a base, if it stays inside.
* `Template.Twins`: the two templates with one ending.
* **`artifactPaths_distinct_iff`**: when the eight paths are different, and what coincides
  otherwise.
-/

namespace Groundwork

open Text (Rooted)

/-! ## Components -/

namespace Path

/-- **The components of a path**: the root if it is absolute, a dot in front, and the names. Empty
pieces and all other dots make no difference. -/
def components (p : Path) : List String :=
  (if p.isAbsolute then ["/"] else if p.pieces.head? = some "." then ["."] else []) ++ p.names

theorem components_of_isAbsolute {p : Path} (h : p.isAbsolute = true) :
    p.components = "/" :: p.names := by
  rw [components, if_pos h]
  rfl

theorem components_of_head? {p : Path} {s : String} (h : p.isAbsolute = false)
    (hhead : p.pieces.head? = some s) (hs : s ≠ ".") : p.components = p.names := by
  rw [components, h, if_neg Bool.false_ne_true, if_neg]
  · rfl
  · rw [hhead]
    exact fun hdot => hs (Option.some.inj hdot)

theorem slash_not_mem_names (p : Path) : "/" ∉ p.names := by
  intro hmem
  rw [names, pieces_eq, List.mem_filter] at hmem
  obtain ⟨cs, hcs, hslash⟩ := List.mem_map.1 hmem.1
  have hnone := Text.not_mem_of_mem_segments (List.mem_of_mem_filter hcs)
  rw [← String.toList_ofList (l := cs), hslash] at hnone
  exact hnone (List.mem_singleton_self _)

theorem filter_singleton_of_length {s : List Char} (h : 2 < s.length) :
    ([s].filter (· ≠ [])).filter (· ≠ ['.']) = [s] := by
  have hne : s ≠ [] := by
    rintro rfl
    cases h
  have hdot : s ≠ ['.'] := by
    rintro rfl
    exact absurd h (by decide)
  simp [hne, hdot]

theorem exists_charNames_append (as : List Char) :
    ∃ before last, ∀ bs, '/' ∉ bs → 2 < bs.length →
      charNames (as ++ bs) = before ++ [last ++ bs] := by
  obtain ⟨before, last, hall⟩ := Text.exists_segments_append '/' as
  refine ⟨(before.filter (· ≠ [])).filter (· ≠ ['.']), last, fun bs hbs hlong => ?_⟩
  have hlast : 2 < (last ++ bs).length := by
    rw [List.length_append]
    omega
  rw [charNames, charPieces, hall bs hbs, List.filter_append, List.filter_append,
    filter_singleton_of_length hlast]

end Path

/-! ## Names of files -/

variable {t t' : Template} {r : Resource} {time : Timestamp}

/-- **The names of the files that are called after a resource** are the same but for the ending of
the last one. -/
theorem exists_names_of_ending (r : Resource) (time : Timestamp) :
    ∃ before last, ∀ {t : Template} {ending : String}, t.ending? = some ending →
      Path.names ⟨artifactName t r time⟩ = before ++ [last ++ ending] := by
  obtain ⟨before, last, hall⟩ := Path.exists_charNames_append r.pascalName.toList
  refine ⟨before.map String.ofList, String.ofList last, fun {t ending} ht => ?_⟩
  obtain ⟨hslash, hlong⟩ := facts_of_ending ht
  rw [Path.names_eq, artifactName_of_ending ht, String.toList_append, hall _ hslash hlong,
    List.map_append, List.map_singleton, String.ofList_append, String.ofList_toList]

/-- A folder within which another one is belongs to the same template, or both templates' files are
called after the resource. -/
theorem ending?_of_folder_within (h : t.folder <+: t'.folder) :
    t = t' ∨ ∃ ending ending', t.ending? = some ending ∧ t'.ending? = some ending' := by
  have hcases : t = t' ∨ t.ending?.isSome ∧ t'.ending?.isSome := by
    revert h
    cases t <;> cases t' <;> decide
  refine hcases.imp_right fun ⟨ht, ht'⟩ => ?_
  obtain ⟨ending, hending⟩ := Option.isSome_iff_exists.1 ht
  obtain ⟨ending', hending'⟩ := Option.isSome_iff_exists.1 ht'
  exact ⟨ending, ending', hending, hending'⟩

theorem eq_of_folder_of_ending? (hfolder : t.folder = t'.folder) (h : t.ending? = t'.ending?) :
    t = t' := by
  revert hfolder h
  cases t <;> cases t' <;> decide

/-- **The names of a path tell its template**, as long as the folder counts. -/
theorem names_artifactPath_inj (h : ¬ Rooted (artifactName t r time).toList)
    (h' : ¬ Rooted (artifactName t' r time).toList)
    (hnames : (artifactPath t r time).names = (artifactPath t' r time).names) : t = t' := by
  rw [names_artifactPath h, names_artifactPath h'] at hnames
  have hcases : t = t' ∨ ∃ ending ending', t.ending? = some ending ∧ t'.ending? = some ending' := by
    rcases List.prefix_or_prefix_of_prefix (List.prefix_append t.folder _)
      (hnames ▸ List.prefix_append t'.folder _) with hpre | hpre
    · exact ending?_of_folder_within hpre
    · exact (ending?_of_folder_within hpre).imp Eq.symm
        fun ⟨ending', ending, ht', ht⟩ => ⟨ending, ending', ht, ht'⟩
  rcases hcases with heq | ⟨ending, ending', ht, ht'⟩
  · exact heq
  -- The resource's name adds the same names to both paths, before the ending and in front of it.
  obtain ⟨before, last, hall⟩ := exists_names_of_ending r time
  rw [hall ht, hall ht', ← List.append_assoc, ← List.append_assoc] at hnames
  obtain ⟨hfront, hend⟩ := List.append_inj' hnames rfl
  refine eq_of_folder_of_ending? (List.append_cancel_right hfront) ?_
  rw [ht, ht', (String.append_right_inj last).1 (List.singleton_inj.1 hend)]

/-- **No two files of a resource have one place** below a base, as far as they stay inside. -/
theorem place_artifactPath_inj (h : (artifactPath t r time).Inside)
    (h' : (artifactPath t' r time).Inside) {d : Disk} {base : Path}
    (hplace : d.place (base.join (artifactPath t r time)) =
      d.place (base.join (artifactPath t' r time))) : t = t' := by
  rw [Disk.place_join d h, Disk.place_join d h', List.append_right_inj] at hplace
  exact names_artifactPath_inj (inside_artifactPath_iff.1 h).1
    (inside_artifactPath_iff.1 h').1 hplace

/-! ## Paths -/

/-- **Two templates with one ending**: the model, and the resource's own presentation. -/
def Template.Twins (t t' : Template) : Prop :=
  t = .model ∧ t' = .resource ∨ t = .resource ∧ t' = .model

instance (t t' : Template) : Decidable (t.Twins t') := inferInstanceAs (Decidable (_ ∨ _))

theorem eq_or_twins_iff {ending ending' : String} (ht : t.ending? = some ending)
    (ht' : t'.ending? = some ending') : t = t' ∨ t.Twins t' ↔ ending = ending' := by
  cases t <;> cases ht <;> cases t' <;> cases ht' <;> decide

theorem components_of_not_rooted (h : ¬ Rooted (artifactName t r time).toList) :
    (artifactPath t r time).components = (artifactPath t r time).names := by
  have hfolder : ∃ s rest, t.folder = s :: rest ∧ s ≠ "." := by
    cases t <;> exact ⟨_, _, rfl, by decide⟩
  obtain ⟨s, rest, hs, hdot⟩ := hfolder
  refine Path.components_of_head? ?_ (s := s) ?_ hdot
  · rwa [← Bool.not_eq_true, isAbsolute_artifactPath_iff]
  · rw [pieces_artifactPath h, hs]
    rfl

theorem artifactPath_of_rooted (h : Rooted (artifactName t r time).toList) :
    artifactPath t r time = ⟨artifactName t r time⟩ := by
  rw [artifactPath, artifactSegments_eq,
    Path.ofSegments_concat_of_isAbsolute ((isAbsolute_iff_rooted _).2 h)]

theorem components_of_rooted (h : Rooted (artifactName t r time).toList) :
    (artifactPath t r time).components = "/" :: Path.names ⟨artifactName t r time⟩ := by
  rw [Path.components_of_isAbsolute (isAbsolute_artifactPath_iff.2 h), artifactPath_of_rooted h]

theorem exists_ending_of_rooted (h : Rooted (artifactName t r time).toList) :
    Rooted r.pascalName.toList ∧ ∃ ending, t.ending? = some ending := by
  revert h
  refine t.casesEnding (fun t ending ht hroot => ?_)
    (fun hroot => absurd hroot (not_rooted_migrationName r time))
    fun hroot => absurd hroot (by decide : ¬ Rooted "web.php".toList)
  exact ⟨(dangers_of_ending ht).1.1 hroot, ending, ht⟩

theorem rooted_of_twins (hroot : Rooted r.pascalName.toList) (h : t.Twins t') :
    Rooted (artifactName t r time).toList ∧ Rooted (artifactName t' r time).toList := by
  have hmodel : Rooted (artifactName .model r time).toList := (dangers_of_ending rfl).1.2 hroot
  have hresource : Rooted (artifactName .resource r time).toList :=
    (dangers_of_ending rfl).1.2 hroot
  rcases h with ⟨rfl, rfl⟩ | ⟨rfl, rfl⟩
  · exact ⟨hmodel, hresource⟩
  · exact ⟨hresource, hmodel⟩

theorem components_ne_of_rooted (h : Rooted (artifactName t r time).toList)
    (h' : ¬ Rooted (artifactName t' r time).toList) :
    (artifactPath t r time).components ≠ (artifactPath t' r time).components := by
  rw [components_of_rooted h, components_of_not_rooted h']
  exact fun heq => Path.slash_not_mem_names _ (heq ▸ List.mem_cons_self)

/-- **Two paths have the same components** exactly if they belong to one template, or to the two
with one ending while the resource's name begins with a slash. -/
theorem components_eq_iff :
    (artifactPath t r time).components = (artifactPath t' r time).components ↔
    t = t' ∨ Rooted r.pascalName.toList ∧ t.Twins t' := by
  by_cases h : Rooted (artifactName t r time).toList <;>
    by_cases h' : Rooted (artifactName t' r time).toList
  · obtain ⟨hroot, ending, ht⟩ := exists_ending_of_rooted h
    obtain ⟨-, ending', ht'⟩ := exists_ending_of_rooted h'
    obtain ⟨before, last, hall⟩ := exists_names_of_ending r time
    rw [components_of_rooted h, components_of_rooted h', hall ht, hall ht', and_iff_right hroot,
      eq_or_twins_iff ht ht', List.cons_inj_right, List.append_right_inj, List.singleton_inj,
      String.append_right_inj]
  · refine iff_of_false (components_ne_of_rooted h h') ?_
    rintro (rfl | ⟨hroot, htwins⟩)
    · exact h' h
    · exact h' (rooted_of_twins hroot htwins).2
  · refine iff_of_false (components_ne_of_rooted h' h).symm ?_
    rintro (rfl | ⟨hroot, htwins⟩)
    · exact h h'
    · exact h (rooted_of_twins hroot htwins).1
  · rw [components_of_not_rooted h, components_of_not_rooted h']
    constructor
    · exact fun hnames => .inl (names_artifactPath_inj h h' hnames)
    · rintro (rfl | ⟨hroot, htwins⟩)
      · rfl
      · exact absurd (rooted_of_twins hroot htwins).1 h

theorem artifactPath_eq_iff_twins : artifactPath t r time = artifactPath t' r time ↔
    t = t' ∨ Rooted r.pascalName.toList ∧ t.Twins t' := by
  constructor
  · exact fun heq => components_eq_iff.1 (congrArg Path.components heq)
  rintro (rfl | ⟨hroot, htwins⟩)
  · rfl
  have hrooted : Rooted (artifactName t r time).toList ∧ Rooted (artifactName t' r time).toList :=
    rooted_of_twins hroot htwins
  rw [artifactPath_of_rooted hrooted.1, artifactPath_of_rooted hrooted.2]
  rcases htwins with ⟨rfl, rfl⟩ | ⟨rfl, rfl⟩ <;> rfl

/-! ## All eight paths -/

/-- What is the same for one template, and under a condition for the twins, is different for all
templates just if the condition fails. -/
theorem nodup_iff_of_twins {α : Type} {f : Template → α} {p : Prop}
    (h : ∀ t t', f t = f t' ↔ t = t' ∨ p ∧ t.Twins t') : (Template.all.map f).Nodup ↔ ¬ p := by
  rw [List.nodup_map_iff_inj_on Template.nodup_all]
  constructor
  · intro hinj hp
    have heq := (h .model .resource).2 (.inr ⟨hp, .inl ⟨rfl, rfl⟩⟩)
    exact absurd (hinj .model (Template.mem_all _) .resource (Template.mem_all _) heq) (by decide)
  · intro hp t _ t' _ heq
    exact ((h t t').1 heq).resolve_right fun hboth => hp hboth.1

/-- **The eight paths of a resource are different** exactly if its name does not begin with a slash,
whether they are compared as texts or by their components. If it does, the model and the resource's
own presentation are one path, and no other two are. -/
theorem artifactPaths_distinct_iff (r : Resource) (time : Timestamp) :
    ((Template.all.map fun t => artifactPath t r time).Nodup ↔ ¬ Rooted r.pascalName.toList) ∧
    ((Template.all.map fun t => (artifactPath t r time).components).Nodup ↔
      ¬ Rooted r.pascalName.toList) ∧
    ∀ t t',
      (artifactPath t r time = artifactPath t' r time ↔
        t = t' ∨ Rooted r.pascalName.toList ∧ t.Twins t') ∧
      ((artifactPath t r time).components = (artifactPath t' r time).components ↔
        t = t' ∨ Rooted r.pascalName.toList ∧ t.Twins t') :=
  ⟨nodup_iff_of_twins fun _ _ => artifactPath_eq_iff_twins,
    nodup_iff_of_twins fun _ _ => components_eq_iff,
    fun _ _ => ⟨artifactPath_eq_iff_twins, components_eq_iff⟩⟩

end Groundwork
