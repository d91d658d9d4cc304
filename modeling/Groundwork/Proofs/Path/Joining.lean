import Groundwork.Proofs.Disk.Resolution

/-!
# Joined paths

A relative path that is joined to another one goes on from it: its pieces come after those of the
other path, and so does the place that it names. Where it does not climb, that place is below.

* **`Path.pieces_join`**: the pieces of a joined path.
* **`Path.pieces_ofSegments`**: the pieces of segments joined one below the other.
* `Path.Inside`: the paths that stay below whatever they are joined to.
* **`Disk.place_join_of_relative`**, **`Disk.place_join`**: the place of a relative path below a
  base, and of one that stays inside.
-/

namespace Groundwork

open Text (segments)

namespace Path

variable {p q : Path}

/-! ## Two paths -/

theorem join_of_isAbsolute (h : q.isAbsolute = true) : p.join q = q := if_pos h

/-- **A relative path is set apart** from the path before it by a slash, if there is anything before
it. -/
theorem toList_join (h : q.isAbsolute = false) :
    p.text = "" ∧ p.join q = q ∨
    p.text ≠ "" ∧ ∃ init, (p.text.toList = init ∨ p.text.toList = init ++ ['/']) ∧
      (p.join q).text.toList = init ++ '/' :: q.text.toList := by
  unfold join
  rw [if_neg (Bool.eq_false_iff.1 h)]
  by_cases hp : p.text = ""
  · refine .inl ⟨hp, ?_⟩
    rw [if_pos (.inl hp), hp, String.empty_append]
  refine .inr ⟨hp, ?_⟩
  by_cases hslash : p.endsInSlash = true
  · obtain ⟨init, hinit⟩ := List.getLast?_eq_some_iff.1 (of_decide_eq_true hslash)
    refine ⟨init, .inr hinit, ?_⟩
    rw [if_pos (.inr hslash), String.toList_append, hinit]
    simp
  · refine ⟨p.text.toList, .inl rfl, ?_⟩
    rw [if_neg (not_or.2 ⟨hp, hslash⟩), String.toList_append, String.toList_append]
    simp

theorem prefix_join (h : q.isAbsolute = false) : p.text.toList <+: (p.join q).text.toList := by
  rcases toList_join (p := p) h with ⟨hp, -⟩ | ⟨-, init, hinit, hjoin⟩
  · rw [hp]
    exact List.nil_prefix
  · rw [hjoin]
    rcases hinit with hinit | hinit
    · rw [hinit]
      exact List.prefix_append _ _
    · rw [hinit]
      exact ⟨q.text.toList, by simp⟩

/-- **The pieces of a joined path**: those of the first, then those of the second. -/
theorem pieces_join (h : q.isAbsolute = false) : (p.join q).pieces = p.pieces ++ q.pieces := by
  rcases toList_join (p := p) h with ⟨hp, hjoin⟩ | ⟨-, init, hinit, hjoin⟩
  · rw [hjoin, pieces_eq p, hp]
    rfl
  · have hfirst : charPieces p.text.toList = charPieces init := by
      rcases hinit with hinit | hinit
      · rw [hinit]
      · rw [hinit, charPieces_append_slash]
        simp [charPieces, segments]
    rw [pieces_eq, pieces_eq, pieces_eq, hjoin, charPieces_append_slash, hfirst, List.map_append]

theorem isAbsolute_join (h : q.isAbsolute = false) : (p.join q).isAbsolute = p.isAbsolute := by
  rcases toList_join (p := p) h with ⟨hp, hjoin⟩ | ⟨hp, init, hinit, hjoin⟩
  · rw [hjoin, h, isAbsolute, hp]
    rfl
  · unfold isAbsolute
    rw [hjoin]
    rcases hinit with hinit | hinit
    · rw [hinit]
      cases init with
      | nil => exact absurd (String.toList_eq_nil_iff.1 hinit) hp
      | cons c rest => rfl
    · rw [hinit]
      cases init <;> rfl

theorem climbs_iff : p.climbs = true ↔ ".." ∈ p.pieces := List.contains_iff_mem

theorem climbs_join (h : q.isAbsolute = false) : (p.join q).climbs = (p.climbs || q.climbs) := by
  rw [Bool.eq_iff_iff, Bool.or_eq_true, climbs_iff, climbs_iff, climbs_iff, pieces_join h,
    List.mem_append]

/-! ## Segments -/

theorem pieces_foldl_join {parts : List String} (h : ∀ s ∈ parts, isAbsolute ⟨s⟩ = false) :
    (parts.foldl (fun p s => p.join ⟨s⟩) p).pieces =
      p.pieces ++ parts.flatMap fun s => pieces ⟨s⟩ := by
  induction parts generalizing p with
  | nil => simp
  | cons s rest ih =>
    obtain ⟨hs, hrest⟩ := List.forall_mem_cons.1 h
    rw [List.foldl_cons, ih hrest, pieces_join hs, List.flatMap_cons, List.append_assoc]

/-- **The pieces of segments** that are joined one below the other, none of them absolute. -/
theorem pieces_ofSegments {parts : List String} (h : ∀ s ∈ parts, isAbsolute ⟨s⟩ = false) :
    (ofSegments parts).pieces = parts.flatMap fun s => pieces ⟨s⟩ := by
  rw [ofSegments, pieces_foldl_join h]
  rfl

theorem isAbsolute_foldl_join {parts : List String} (h : ∀ s ∈ parts, isAbsolute ⟨s⟩ = false) :
    (parts.foldl (fun p s => p.join ⟨s⟩) p).isAbsolute = p.isAbsolute := by
  induction parts generalizing p with
  | nil => rfl
  | cons s rest ih =>
    obtain ⟨hs, hrest⟩ := List.forall_mem_cons.1 h
    rw [List.foldl_cons, ih hrest, isAbsolute_join hs]

theorem isAbsolute_ofSegments {parts : List String} (h : ∀ s ∈ parts, isAbsolute ⟨s⟩ = false) :
    (ofSegments parts).isAbsolute = false := by
  rw [ofSegments, isAbsolute_foldl_join h]
  rfl

theorem ofSegments_concat_of_isAbsolute {s : String} (h : isAbsolute ⟨s⟩ = true)
    (parts : List String) : ofSegments (parts ++ [s]) = ⟨s⟩ := by
  rw [ofSegments, List.foldl_append]
  exact join_of_isAbsolute h

theorem pieces_of_not_mem {s : String} (hs : '/' ∉ s.toList) (hne : s ≠ "") : pieces ⟨s⟩ = [s] := by
  have hnil : s.toList ≠ [] := fun h => hne (String.toList_eq_nil_iff.1 h)
  rw [pieces_eq, charPieces_piece hs hnil]
  simp

/-! ## Paths that stay inside -/

/-- **The path stays inside** whatever it is joined to: it is relative and does not climb. -/
structure Inside (p : Path) : Prop where
  relative : p.isAbsolute = false
  level : p.climbs = false

instance (p : Path) : Decidable p.Inside :=
  decidable_of_iff (p.isAbsolute = false ∧ p.climbs = false)
    ⟨fun ⟨hrel, hup⟩ => ⟨hrel, hup⟩, fun ⟨hrel, hup⟩ => ⟨hrel, hup⟩⟩

theorem Inside.climbs_join (h : q.Inside) (hp : p.climbs = false) : (p.join q).climbs = false := by
  rw [Path.climbs_join h.relative, hp, h.level]
  rfl

end Path

namespace Disk

variable {base p : Path}

theorem start_join (d : Disk) (h : p.isAbsolute = false) :
    d.start (base.join p) = d.start base := by
  rw [start, start, Path.isAbsolute_join h]

/-- **A relative path goes on from its base**, also where it climbs. -/
theorem place_join_of_relative (d : Disk) (h : p.isAbsolute = false) :
    d.place (base.join p) = Place.follow (d.place base) p.pieces := by
  rw [place, start_join d h, Path.pieces_join h, Place.follow_append]
  rfl

/-- **A path that stays inside names a place below its base**, by its own names. -/
theorem place_join (d : Disk) (h : p.Inside) :
    d.place (base.join p) = d.place base ++ p.names := by
  rw [place_join_of_relative d h.relative, ← Place.follow_filter]
  exact Place.follow_of_not_mem _ (by simp) (Path.not_mem_names h.level)

end Disk

end Groundwork
