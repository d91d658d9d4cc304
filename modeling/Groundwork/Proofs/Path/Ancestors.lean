import Groundwork.Path
import Mathlib.Data.List.Infix
import Mathlib.Data.List.TakeWhile

/-!
# Ancestors of a path

The parent of a path is found on its text. What it means for the place that the path names is said
with names: the pieces that move, that is all but the dots.

* `Path.names`: the pieces of a path that are not a dot.
* **`Path.names_of_parent?`**: the parent has one name less.
* **`Path.prefix_of_parent?`**: the text of the parent is a prefix of the text.
* `Path.mem_ancestors`: what holds from parent to parent holds of all ancestors.
* `Path.prefix_of_mem_ancestors`: the text of an ancestor is a prefix of the text.
-/

namespace Groundwork

open Text (segments segments_append_cons segments_of_not_mem not_mem_of_mem_segments)

namespace Path

/-! ## Names in a row of characters -/

/-- The segments between slashes that are not empty. -/
def charPieces (cs : List Char) : List (List Char) := (segments '/' cs).filter (· ≠ [])

/-- The segments between slashes that are neither empty nor a dot. -/
def charNames (cs : List Char) : List (List Char) := (charPieces cs).filter (· ≠ ['.'])

/-- **The names of a path**: its pieces without the dots. -/
def names (p : Path) : List String := p.pieces.filter (· ≠ ".")

theorem pieces_eq (p : Path) : p.pieces = (charPieces p.text.toList).map String.ofList := rfl

theorem ofList_eq_dot_iff (s : List Char) : String.ofList s = "." ↔ s = ['.'] :=
  ⟨fun h => by simpa using congrArg String.toList h, fun h => by rw [h]⟩

theorem names_eq (p : Path) : p.names = (charNames p.text.toList).map String.ofList := by
  rw [names, pieces_eq, List.filter_map, charNames]
  congr 1
  refine List.filter_congr fun s _ => ?_
  simp [ofList_eq_dot_iff]

theorem charPieces_append_slash (as bs : List Char) :
    charPieces (as ++ '/' :: bs) = charPieces as ++ charPieces bs := by
  rw [charPieces, segments_append_cons, List.filter_append]
  rfl

theorem charPieces_slash (bs : List Char) : charPieces ('/' :: bs) = charPieces bs :=
  charPieces_append_slash [] bs

theorem charPieces_dot_slash (bs : List Char) :
    charPieces ('.' :: '/' :: bs) = ['.'] :: charPieces bs :=
  charPieces_append_slash ['.'] bs

theorem charPieces_piece {s : List Char} (hs : '/' ∉ s) (hn : s ≠ []) : charPieces s = [s] := by
  rw [charPieces, segments_of_not_mem hs]
  simp [hn]

theorem charNames_append_slash (as bs : List Char) :
    charNames (as ++ '/' :: bs) = charNames as ++ charNames bs := by
  rw [charNames, charPieces_append_slash, List.filter_append]
  rfl

theorem charNames_slash (bs : List Char) : charNames ('/' :: bs) = charNames bs :=
  charNames_append_slash [] bs

theorem charNames_dot_slash (bs : List Char) : charNames ('.' :: '/' :: bs) = charNames bs :=
  charNames_append_slash ['.'] bs

/-! ## Idle characters and the last name -/

theorem dropIdle_suffix (cs : List Char) : dropIdle cs <:+ cs := by
  fun_induction dropIdle cs with
  | case1 rest ih => exact ih.trans (List.suffix_cons _ _)
  | case2 => exact List.nil_suffix
  | case3 rest ih => exact (ih.trans (List.suffix_cons _ _)).trans (List.suffix_cons _ _)
  | case4 => exact List.suffix_rfl

theorem charNames_dropIdle (cs : List Char) :
    charNames (dropIdle cs).reverse = charNames cs.reverse := by
  fun_induction dropIdle cs with
  | case1 rest ih =>
    rw [ih, List.reverse_cons, charNames_append_slash]
    simp [charNames, charPieces, segments]
  | case2 => rfl
  | case3 rest ih =>
    rw [ih, List.reverse_cons, List.reverse_cons, List.append_assoc, List.singleton_append,
      charNames_append_slash]
    simp [charNames, charPieces, segments]
  | case4 => rfl

theorem takeWhile_dropIdle {cs : List Char} (h : dropIdle cs ≠ []) :
    (dropIdle cs).takeWhile (· ≠ '/') ≠ [] ∧ (dropIdle cs).takeWhile (· ≠ '/') ≠ ['.'] := by
  fun_induction dropIdle cs with
  | case1 rest ih => exact ih h
  | case2 => exact absurd rfl h
  | case3 rest ih => exact ih h
  | case4 cs hslash hdot hdotSlash =>
    -- Nothing idle is in front: neither a slash, nor a dot by itself or before a slash.
    obtain _ | ⟨c, body⟩ := cs
    · exact absurd rfl h
    have hc : c ≠ '/' := fun e => hslash body (by rw [e])
    rw [List.takeWhile_cons_of_pos (by simpa using hc)]
    refine ⟨List.cons_ne_nil _ _, fun he => ?_⟩
    obtain ⟨rfl, hbody⟩ := List.cons.inj he
    obtain _ | ⟨b, more⟩ := body
    · exact hdot rfl
    by_cases hb : b = '/'
    · exact hdotSlash more (by rw [hb])
    · rw [List.takeWhile_cons_of_pos (by simpa using hb)] at hbody
      cases hbody

theorem dropPiece_suffix (cs : List Char) : dropPiece cs <:+ cs :=
  (List.drop_suffix _ _).trans (List.dropWhile_suffix _)

theorem charPieces_dropPiece {cs : List Char} (hn : cs.takeWhile (· ≠ '/') ≠ [])
    (hd : cs.takeWhile (· ≠ '/') ≠ ['.']) :
    ∃ s ≠ ['.'], charPieces cs.reverse = charPieces (dropPiece cs).reverse ++ [s] := by
  have hs : '/' ∉ (cs.takeWhile (· ≠ '/')).reverse := fun h => by
    simpa using List.mem_takeWhile_imp (List.mem_reverse.1 h)
  have hpiece := charPieces_piece hs (by simpa using hn)
  refine ⟨(cs.takeWhile (· ≠ '/')).reverse, fun h => hd ?_, ?_⟩
  · simpa using congrArg List.reverse h
  conv_lhs => rw [← List.takeWhile_append_dropWhile (p := (· ≠ '/')) (l := cs)]
  unfold dropPiece
  cases hw : cs.dropWhile (· ≠ '/') with
  | nil => simpa [charPieces, segments] using hpiece
  | cons c rest =>
    have hc : c = '/' := by
      have := List.head?_dropWhile_not (· ≠ '/') cs
      rw [hw] at this
      simpa using this
    rw [List.reverse_append, List.reverse_cons, List.append_assoc, hc, List.singleton_append,
      charPieces_append_slash, hpiece]
    rfl

/-! ## Parents -/

theorem charNames_splitLead {cs ds : List Char} (h : ds <+: (splitLead cs).2) :
    charNames ((splitLead cs).1 ++ ds) = charNames ds := by
  fun_cases splitLead cs with
  | case1 rest => exact charNames_slash ds
  | case2 =>
    obtain rfl := List.prefix_nil.1 h
    rfl
  | case3 rest =>
    obtain _ | ⟨d, more⟩ := ds
    · rfl
    · obtain ⟨rfl, -⟩ := List.cons_prefix_cons.1 h
      rw [charNames_slash]
      exact charNames_dot_slash more
  | case4 => rfl

/-- What is left without idle characters ends in a name if it has any, also with the characters in
front. -/
theorem last_dropIdle {cs xs : List Char} (h : (dropIdle xs).reverse <+: (splitLead cs).2) :
    charNames (dropIdle xs).reverse = [] ∨
      ∃ s ≠ ['.'], (charPieces ((splitLead cs).1 ++ (dropIdle xs).reverse)).getLast? = some s := by
  by_cases hne : dropIdle xs = []
  · rw [hne]
    exact .inl rfl
  obtain ⟨hn, hdot⟩ := takeWhile_dropIdle hne
  obtain ⟨s, hsdot, hs⟩ := charPieces_dropPiece hn hdot
  refine .inr ⟨s, hsdot, ?_⟩
  have hlast : (charPieces (dropIdle xs).reverse).getLast? = some s := by
    rw [hs, List.getLast?_concat]
  fun_cases splitLead cs with
  | case1 rest => rwa [List.singleton_append, charPieces_slash]
  | case2 =>
    rw [List.prefix_nil.1 h] at hlast
    cases hlast
  | case3 rest =>
    obtain ⟨d, more, hrev⟩ := List.exists_cons_of_ne_nil (List.reverse_ne_nil_iff.2 hne)
    rw [hrev] at h hlast ⊢
    obtain ⟨rfl, -⟩ := List.cons_prefix_cons.1 h
    rw [charPieces_slash] at hlast
    rw [List.singleton_append, charPieces_dot_slash, List.getLast?_cons, hlast]
    rfl
  | case4 => exact hlast

theorem splitLead_append (cs : List Char) : (splitLead cs).1 ++ (splitLead cs).2 = cs := by
  fun_cases splitLead cs <;> rfl

theorem parentChars_eq_some {cs ds : List Char} (h : parentChars cs = some ds) :
    ds <+: cs ∧ charNames ds = (charNames cs).dropLast ∧
      (charNames ds = [] ∨ ∃ s ≠ ['.'], (charPieces ds).getLast? = some s) := by
  have hcs : charNames cs = charNames (dropIdle (splitLead cs).2.reverse).reverse := by
    rw [charNames_dropIdle, List.reverse_reverse, ← charNames_splitLead List.prefix_rfl,
      splitLead_append]
  have hsuffix := dropIdle_suffix (splitLead cs).2.reverse
  have hname := @takeWhile_dropIdle (splitLead cs).2.reverse
  unfold parentChars at h
  split at h
  · rename_i hd
    split at h
    · obtain rfl := Option.some.inj h
      rw [hd] at hcs
      exact ⟨List.nil_prefix, by rw [hcs]; rfl, .inl rfl⟩
    · cases h
  · rename_i c body hd
    obtain rfl := Option.some.inj h
    rw [hd] at hcs hsuffix hname
    obtain ⟨hne, hdot⟩ := hname (List.cons_ne_nil c body)
    obtain ⟨s, hsdot, hs⟩ := charPieces_dropPiece hne hdot
    have hsub : (dropIdle (dropPiece (c :: body))).reverse <+: (splitLead cs).2 := by
      rw [← List.reverse_suffix, List.reverse_reverse]
      exact ((dropIdle_suffix _).trans (dropPiece_suffix _)).trans hsuffix
    refine ⟨?_, ?_, ?_⟩
    · conv_rhs => rw [← splitLead_append cs]
      exact (List.prefix_append_right_inj _).2 hsub
    · have hdrop : (charPieces (dropPiece (c :: body)).reverse ++ [s]).filter (· ≠ ['.']) =
          charNames (dropPiece (c :: body)).reverse ++ [s] := by
        rw [List.filter_append, List.filter_cons_of_pos (by simpa using hsdot)]
        rfl
      rw [charNames_splitLead hsub, charNames_dropIdle, hcs]
      conv_rhs => rw [charNames, hs, hdrop, List.dropLast_concat]
    · rw [charNames_splitLead hsub]
      exact last_dropIdle hsub

theorem charNames_of_parentChars_eq_none {cs : List Char} (h : parentChars cs = none) :
    charNames cs = [] := by
  unfold parentChars at h
  split at h
  · rename_i hd
    rw [← splitLead_append cs, charNames_splitLead List.prefix_rfl,
      ← List.reverse_reverse (splitLead cs).2, ← charNames_dropIdle, hd]
    rfl
  · cases h

theorem head?_parentChars {cs ds : List Char} (h : parentChars cs = some ds) :
    ds.head? = some '/' ↔ cs.head? = some '/' := by
  have hpre := (parentChars_eq_some h).1
  obtain _ | ⟨d, ds⟩ := ds
  · simp only [List.head?_nil, reduceCtorEq, false_iff]
    intro hc
    obtain _ | ⟨c, cs⟩ := cs
    · cases hc
    · obtain rfl := Option.some.inj hc
      unfold parentChars at h
      simp only [splitLead] at h
      split at h <;> simp at h
  · obtain ⟨t, rfl⟩ := hpre
    rfl

variable {p q : Path}

theorem toList_of_parent? (h : p.parent? = some q) :
    parentChars p.text.toList = some q.text.toList := by
  obtain ⟨cs, hcs, rfl⟩ := Option.map_eq_some_iff.1 h
  simpa using hcs

/-- **The text of the parent is a prefix of the text.** -/
theorem prefix_of_parent? (h : p.parent? = some q) : q.text.toList <+: p.text.toList :=
  (parentChars_eq_some (toList_of_parent? h)).1

/-- **The parent has one name less.** -/
theorem names_of_parent? (h : p.parent? = some q) : q.names = p.names.dropLast := by
  rw [names_eq, names_eq, (parentChars_eq_some (toList_of_parent? h)).2.1, List.map_dropLast]

/-- **The path ends in a name**, if it has any: no dot comes after it. -/
def EndsInName (p : Path) : Prop := p.names = [] ∨ ∃ n ≠ ".", p.pieces.getLast? = some n

theorem endsInName_of_parent? (h : p.parent? = some q) : q.EndsInName := by
  unfold EndsInName
  rw [names_eq, pieces_eq]
  refine (parentChars_eq_some (toList_of_parent? h)).2.2.imp (fun h => by rw [h]; rfl) ?_
  rintro ⟨s, hs, hlast⟩
  refine ⟨String.ofList s, fun h => hs ((ofList_eq_dot_iff s).1 h), ?_⟩
  rw [List.getLast?_map, hlast]
  rfl

theorem filter_dropLast_pieces (h : p.EndsInName) :
    p.pieces.dropLast.filter (· ≠ ".") = p.names.dropLast := by
  rcases h with h | ⟨n, hn, hlast⟩
  · rw [h, List.dropLast_nil, List.filter_eq_nil_iff]
    exact fun n hn => List.filter_eq_nil_iff.1 h n (List.dropLast_subset _ hn)
  · have hsplit := List.dropLast_append_getLast? n hlast
    conv_rhs =>
      rw [names, ← hsplit, List.filter_append, List.filter_cons_of_pos (by simpa using hn)]
    simp

theorem dropLast_names_prefix (p : Path) :
    p.names.dropLast <+: p.pieces.dropLast.filter (· ≠ ".") := by
  obtain hnil | ⟨init, last, hsplit⟩ := List.eq_nil_or_concat p.pieces
  · simp [names, hnil]
  rw [List.concat_eq_append] at hsplit
  rw [names, hsplit, List.dropLast_concat, List.filter_append]
  by_cases hlast : last = "."
  · rw [List.filter_cons_of_neg (by simpa using hlast), List.filter_nil, List.append_nil]
    exact List.dropLast_prefix _
  · rw [List.filter_cons_of_pos (by simpa using hlast), List.filter_nil, List.dropLast_concat]

theorem names_of_parent?_eq_none (h : p.parent? = none) : p.names = [] := by
  rw [names_eq, charNames_of_parentChars_eq_none (Option.map_eq_none_iff.1 h)]
  rfl

theorem isAbsolute_of_parent? (h : p.parent? = some q) : q.isAbsolute = p.isAbsolute := by
  simp only [isAbsolute, head?_parentChars (toList_of_parent? h)]

/-! ## Ancestors -/

theorem ancestors_eq (p : Path) : p.ancestors = p :: (p.parent?.map ancestors).getD [] := by
  rw [ancestors]
  split <;> simp [*]

/-- **What holds from parent to parent holds of all ancestors.** -/
theorem mem_ancestors {r : Path → Path → Prop} (refl : ∀ p, r p p)
    (trans : ∀ {p q s}, r p q → r q s → r p s)
    (parent : ∀ {p q}, p.parent? = some q → r q p) {p a : Path} (ha : a ∈ p.ancestors) : r a p := by
  induction p using ancestors.induct with
  | case1 p ih =>
    rw [ancestors_eq] at ha
    cases hp : p.parent? with
    | none =>
      rw [hp] at ha
      obtain rfl := List.mem_singleton.1 ha
      exact refl a
    | some q =>
      rw [hp] at ha
      rcases List.mem_cons.1 ha with rfl | ha
      · exact refl a
      · exact trans (ih q hp ha) (parent hp)

/-- **An ancestor is named by a prefix** of the path. -/
theorem prefix_of_mem_ancestors {p a : Path} (h : a ∈ p.ancestors) :
    a.text.toList <+: p.text.toList :=
  mem_ancestors (r := fun a p => a.text.toList <+: p.text.toList) (fun _ => List.prefix_rfl)
    List.IsPrefix.trans prefix_of_parent? h

theorem isAbsolute_of_mem_ancestors {p a : Path} (h : a ∈ p.ancestors) :
    a.isAbsolute = p.isAbsolute :=
  mem_ancestors (r := fun a p => a.isAbsolute = p.isAbsolute) (fun _ => rfl) Eq.trans
    isAbsolute_of_parent? h

theorem names_of_mem_ancestors {p a : Path} (h : a ∈ p.ancestors) : a.names <+: p.names := by
  refine mem_ancestors (r := fun a p => a.names <+: p.names) (fun _ => List.prefix_rfl)
    List.IsPrefix.trans (fun hq => ?_) h
  rw [names_of_parent? hq]
  exact List.dropLast_prefix _

theorem names_of_mem_ancestors_of_ne (h : q ∈ p.ancestors) (hne : q ≠ p) :
    q.names <+: p.names.dropLast := by
  rw [ancestors_eq] at h
  have hmem := (List.mem_cons.1 h).resolve_left hne
  cases hp : p.parent? with
  | none =>
    rw [hp] at hmem
    cases hmem
  | some parent =>
    rw [hp] at hmem
    rw [← names_of_parent? hp]
    exact names_of_mem_ancestors hmem

end Path

end Groundwork
