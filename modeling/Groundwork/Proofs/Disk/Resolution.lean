import Groundwork.Disk
import Groundwork.Proofs.Path.Ancestors

/-!
# Resolving paths

A path names a place by its text alone, whatever exists on the way. Resolving it on a disk fails or
ends at that place, and it needs every place before the last piece to be a directory.

* `Place.follow`, `Disk.place`: the place that pieces and paths name.
* `FileTree.Passable`: the way along some pieces leads through directories.
* **`FileTree.walk_eq_ok_iff`**: a walk succeeds exactly when the way is passable.
* **`Disk.locate_eq_ok_iff`**, **`Disk.find_eq_ok_iff`**: what a path that resolves leads to.
* `Disk.Sound`: the current directory is a directory.
-/

namespace Groundwork

/-! ## Places along pieces -/

/-- One piece further: a dot stays, two dots go up, a name goes down. -/
def Place.move (here : Place) (piece : String) : Place :=
  if piece = "." then here else if piece = ".." then here.dropLast else here ++ [piece]

/-- **The place that pieces lead to**, whatever exists on the way. -/
def Place.follow (here : Place) (pieces : List String) : Place := pieces.foldl Place.move here

namespace Place

@[simp] theorem follow_nil (here : Place) : follow here [] = here := rfl

@[simp] theorem follow_cons (here : Place) (piece : String) (rest : List String) :
    follow here (piece :: rest) = follow (move here piece) rest := rfl

theorem follow_append (here : Place) (as bs : List String) :
    follow here (as ++ bs) = follow (follow here as) bs := List.foldl_append

theorem follow_filter (here : Place) (pieces : List String) :
    follow here (pieces.filter (· ≠ ".")) = follow here pieces := by
  induction pieces generalizing here with
  | nil => rfl
  | cons piece rest ih =>
    by_cases h : piece = "."
    · subst h
      exact ih here
    · rw [List.filter_cons_of_pos (by simpa using h)]
      exact ih _

theorem follow_of_not_mem {pieces : List String} (here : Place) (hdot : "." ∉ pieces)
    (hup : ".." ∉ pieces) : follow here pieces = here ++ pieces := by
  induction pieces generalizing here with
  | nil => simp
  | cons piece rest ih =>
    simp only [List.mem_cons, not_or] at hdot hup
    rw [follow_cons, ih _ hdot.2 hup.2, move, if_neg (Ne.symm hdot.1), if_neg (Ne.symm hup.1)]
    simp

end Place

theorem forall_prefix_cons {α : Type} {a : α} {l : List α} {P : List α → Prop} :
    (∀ pre, pre <+: a :: l → P pre) ↔ P [] ∧ ∀ pre, pre <+: l → P (a :: pre) := by
  constructor
  · intro h
    exact ⟨h [] List.nil_prefix, fun pre hpre => h _ (List.cons_prefix_cons.2 ⟨rfl, hpre⟩)⟩
  · rintro ⟨hnil, hcons⟩ pre hpre
    rcases List.prefix_cons_iff.1 hpre with rfl | ⟨more, rfl, hmore⟩
    · exact hnil
    · exact hcons more hmore

/-! ## Directories above a place -/

namespace FileTree

variable {t : FileTree}

theorem at?_append (t : FileTree) (p q : Place) : t.at? (p ++ q) = (t.at? p).bind (at? · q) := by
  induction p generalizing t with
  | nil => rfl
  | cons name rest ih =>
    simp only [List.cons_append, at?]
    cases t.child? name with
    | none => rfl
    | some c => exact ih c

theorem look_eq_directory_of_append {p q : Place} (h : t.look (p ++ q) ≠ none) (hq : q ≠ []) :
    t.look p = some .directory := by
  unfold look at h ⊢
  rw [at?_append] at h
  cases hp : t.at? p with
  | none =>
    rw [hp] at h
    exact absurd rfl h
  | some x =>
    obtain ⟨name, rest, rfl⟩ := List.exists_cons_of_ne_nil hq
    cases x with
    | directory es => rfl
    | file c =>
      rw [hp] at h
      exact absurd rfl h
    | device =>
      rw [hp] at h
      exact absurd rfl h

theorem look_dropLast {p : Place} (h : t.look p = some .directory) :
    t.look p.dropLast = some .directory := by
  by_cases hp : p = []
  · subst hp
    exact h
  · refine look_eq_directory_of_append (q := [p.getLast hp]) ?_ (List.cons_ne_nil _ _)
    rw [List.dropLast_append_getLast, h]
    exact Option.some_ne_none _

/-! ## Walks -/

variable {here q : Place} {pieces : List String}

/-- **The way is passable**: no name is too long, and every place on it is a directory. -/
structure Passable (t : FileTree) (here : Place) (pieces : List String) : Prop where
  short : ∀ n ∈ pieces, isTooLong n = false
  open_ : ∀ pre, pre <+: pieces → t.look (Place.follow here pre) = some .directory

theorem passable_nil (h : t.look here = some .directory) : t.Passable here [] :=
  ⟨by simp, fun pre hpre => by rw [List.prefix_nil.1 hpre]; exact h⟩

theorem passable_cons {piece : String} {rest : List String} (h : t.look here = some .directory) :
    t.Passable here (piece :: rest) ↔
      isTooLong piece = false ∧ t.Passable (Place.move here piece) rest := by
  constructor
  · rintro ⟨hshort, hopen⟩
    obtain ⟨-, hopen⟩ := forall_prefix_cons.1 hopen
    obtain ⟨hpiece, hshort⟩ := List.forall_mem_cons.1 hshort
    exact ⟨hpiece, hshort, hopen⟩
  · rintro ⟨hpiece, hshort, hopen⟩
    exact ⟨List.forall_mem_cons.2 ⟨hpiece, hshort⟩, forall_prefix_cons.2 ⟨h, hopen⟩⟩

/-- **A walk succeeds exactly when the way is passable**, and ends where the pieces lead. -/
theorem walk_eq_ok_iff (h : t.look here = some .directory) :
    t.walk here pieces = .ok q ↔ t.Passable here pieces ∧ q = Place.follow here pieces := by
  induction pieces generalizing here with
  | nil => simp [walk, passable_nil h, eq_comm]
  | cons piece rest ih =>
    rw [passable_cons h, Place.follow_cons, walk, Place.move]
    by_cases hdot : piece = "."
    · subst hdot
      have hshort : isTooLong "." = false := by decide
      simp [ih h, hshort]
    by_cases hup : piece = ".."
    · subst hup
      have hshort : isTooLong ".." = false := by decide
      simp [ih (look_dropLast h), hshort]
    simp only [hdot, hup, if_false]
    by_cases hlong : isTooLong piece = true
    · simp [hlong]
    · rw [Bool.not_eq_true] at hlong
      simp only [hlong, Bool.false_eq_true, if_false, true_and]
      split
      · rename_i hnone
        simp only [reduceCtorEq, false_iff, not_and]
        intro hpass
        have := hpass.open_ [] List.nil_prefix
        rw [Place.follow_nil, hnone] at this
        cases this
      · rename_i hdir
        exact ih hdir
      · rename_i n hdir hn
        simp only [reduceCtorEq, false_iff, not_and]
        intro hpass
        have := hpass.open_ [] List.nil_prefix
        rw [Place.follow_nil, hn] at this
        exact absurd (Option.some.inj this) (by rintro rfl; exact hdir rfl)

theorem walk_filter (t : FileTree) (here : Place) (pieces : List String) :
    t.walk here (pieces.filter (· ≠ ".")) = t.walk here pieces := by
  induction pieces generalizing here with
  | nil => rfl
  | cons piece rest ih =>
    by_cases h : piece = "."
    · subst h
      rw [walk, if_pos rfl]
      exact ih here
    · rw [List.filter_cons_of_pos (by simpa using h), walk, walk, ih, ih, ih]

theorem passable_filter (h : t.look here = some .directory) :
    t.Passable here (pieces.filter (· ≠ ".")) ↔ t.Passable here pieces := by
  have hf := @walk_eq_ok_iff t here (Place.follow here pieces) (pieces.filter (· ≠ ".")) h
  have hp := @walk_eq_ok_iff t here (Place.follow here pieces) pieces h
  rw [walk_filter] at hf
  rw [Place.follow_filter] at hf
  simpa using hf.symm.trans hp

end FileTree

/-! ## Paths -/

/-- The system takes a path that is neither empty nor too long. -/
def Path.IsPresentable (p : Path) : Prop := p.text ≠ "" ∧ p.text.utf8ByteSize ≤ longestPath

/-- The path ends in a name that is neither a dot nor two. -/
def Path.EndsIn (p : Path) (last : String) : Prop :=
  p.pieces.getLast? = some last ∧ last ≠ "." ∧ last ≠ ".."

theorem Path.not_mem_names {p : Path} (hp : p.climbs = false) : ".." ∉ p.names := fun hup => by
  rw [Path.climbs, List.contains_eq_mem, decide_eq_false_iff_not] at hp
  exact hp (List.mem_of_mem_filter hup)

namespace Disk

variable {d d' : Disk} {p : Path} {q : Place}

/-- **The current directory is a directory.** -/
def Sound (d : Disk) : Prop := d.root.look d.current = some .directory

/-- **The place that a path names**, whatever exists on the way. -/
def place (d : Disk) (p : Path) : Place := Place.follow (d.start p) p.pieces

theorem place_eq_names (d : Disk) (p : Path) : d.place p = Place.follow (d.start p) p.names :=
  (Place.follow_filter _ _).symm

theorem place_of_mem_ancestors (d : Disk) (hp : p.climbs = false) {a : Path}
    (ha : a ∈ p.ancestors) : d.place a = d.start p ++ a.names := by
  have hstart : d.start a = d.start p := by
    unfold start
    rw [Path.isAbsolute_of_mem_ancestors ha]
  have hup : ".." ∉ a.names := fun hup =>
    Path.not_mem_names hp ((Path.names_of_mem_ancestors ha).subset hup)
  rw [place_eq_names, hstart, Place.follow_of_not_mem _ (by simp [Path.names]) hup]

theorem place_prefix_of_mem_ancestors (d : Disk) (hp : p.climbs = false) {a : Path}
    (ha : a ∈ p.ancestors) : d.place a <+: d.place p := by
  have hself : p ∈ p.ancestors := by
    rw [Path.ancestors_eq]
    exact List.mem_cons_self
  rw [place_of_mem_ancestors d hp ha, place_of_mem_ancestors d hp hself]
  exact List.prefix_append_right_inj _ |>.2 (Path.names_of_mem_ancestors ha)

theorem look_start (hd : d.Sound) (p : Path) : d.root.look (d.start p) = some .directory := by
  unfold start
  split
  · by_cases hc : d.current = []
    · rw [← hc]
      exact hd
    · refine FileTree.look_eq_directory_of_append (q := d.current) ?_ hc
      rw [List.nil_append, show d.root.look d.current = _ from hd]
      exact Option.some_ne_none _
  · exact hd

/-- **Every piece of a path but the last is passed through.** -/
def Reaches (d : Disk) (p : Path) : Prop := d.root.Passable (d.start p) p.pieces.dropLast

/-- Where a path leads by its text, if its way is passable. -/
def spot (d : Disk) (p : Path) : Spot :=
  match p.pieces.getLast? with
  | none => .directory (d.start p)
  | some last =>
    if last = "." ∨ last = ".." then .directory (d.place p)
    else .name (Place.follow (d.start p) p.pieces.dropLast) last p.endsInSlash

theorem place_eq_move {last : String} (h : p.pieces.getLast? = some last) :
    d.place p = Place.move (Place.follow (d.start p) p.pieces.dropLast) last := by
  have hsplit : p.pieces = p.pieces.dropLast ++ [last] :=
    (List.dropLast_append_getLast? last h).symm
  rw [place]
  conv_lhs => rw [hsplit, Place.follow_append]
  rfl

theorem place_of_pieces_eq_nil (h : p.pieces = []) : d.place p = d.start p := by
  rw [place, h, Place.follow_nil]

/-- **What a path leads to**: it resolves exactly when the system takes it and its way is
passable. -/
theorem locate_eq_ok_iff (hd : d.Sound) {s : Spot} :
    d.locate p = .ok s ↔ p.IsPresentable ∧ d.Reaches p ∧ s = d.spot p := by
  unfold locate Path.IsPresentable Reaches spot
  by_cases hempty : p.text = ""
  · simp [hempty]
  by_cases hlong : longestPath < p.text.utf8ByteSize
  · simp [hempty, hlong, Nat.not_le.2 hlong]
  simp only [hempty, hlong, if_false, not_false_eq_true, ne_eq, Nat.not_lt.1 hlong, true_and]
  cases hlast : p.pieces.getLast? with
  | none =>
    rw [List.getLast?_eq_none_iff] at hlast
    simp [hlast, FileTree.passable_nil (look_start hd p), eq_comm]
  | some last =>
    have hplace := place_eq_move (d := d) hlast
    cases hw : d.root.walk (d.start p) p.pieces.dropLast with
    | error e =>
      have hno : ¬ d.root.Passable (d.start p) p.pieces.dropLast := fun hpass => by
        have := (FileTree.walk_eq_ok_iff (look_start hd p)).2 ⟨hpass, rfl⟩
        rw [hw] at this
        cases this
      simp [hno]
    | ok here =>
      obtain ⟨hpass, rfl⟩ := (FileTree.walk_eq_ok_iff (look_start hd p)).1 hw
      by_cases hdot : last = "."
      · simp [hdot, hpass, hplace, Place.move, eq_comm]
      by_cases hup : last = ".."
      · simp [hup, hpass, hplace, Place.move, eq_comm]
      simp [hdot, hup, hpass, eq_comm]

/-- **The two kinds of spots**: a directory that the path names by a dot, two dots or nothing, or a
name in a directory. -/
theorem spot_cases (hd : d.Sound) (h : d.Reaches p) :
    (d.spot p = .directory (d.place p) ∧ d.root.look (d.place p) = some .directory ∧
      ∀ last, p.pieces.getLast? = some last → last = "." ∨ last = "..") ∨
    ∃ here last, d.spot p = .name here last p.endsInSlash ∧ d.place p = here ++ [last] ∧
      p.EndsIn last ∧ d.root.look here = some .directory := by
  unfold spot
  cases hlast : p.pieces.getLast? with
  | none =>
    have hplace := place_of_pieces_eq_nil (d := d) (List.getLast?_eq_none_iff.1 hlast)
    exact .inl ⟨by rw [hplace], by rw [hplace]; exact look_start hd p, by simp⟩
  | some last =>
    have hplace := place_eq_move (d := d) hlast
    have hhere := h.open_ _ List.prefix_rfl
    by_cases hmove : last = "." ∨ last = ".."
    · refine .inl ⟨by simp [hmove], ?_, by simpa using hmove⟩
      rw [hplace, Place.move]
      rcases hmove with rfl | rfl
      · exact hhere
      · exact FileTree.look_dropLast hhere
    · refine .inr ⟨_, last, by simp [hmove], ?_, ⟨hlast, not_or.1 hmove⟩, hhere⟩
      rw [hplace, Place.move, if_neg fun e => hmove (.inl e), if_neg fun e => hmove (.inr e)]

/-- **A path resolves up to its last piece**: the system takes it, its way is passable and no piece
is too long. -/
structure Resolves (d : Disk) (p : Path) : Prop where
  presentable : p.IsPresentable
  reaches : d.Reaches p
  short : ∀ n ∈ p.pieces, isTooLong n = false

theorem short_iff (h : d.Reaches p) {last : String} (hlast : p.pieces.getLast? = some last) :
    (∀ n ∈ p.pieces, isTooLong n = false) ↔ isTooLong last = false := by
  constructor
  · exact fun hall => hall last (List.mem_of_getLast? hlast)
  · intro hs n hn
    rw [← List.dropLast_append_getLast? last hlast] at hn
    rcases List.mem_append.1 hn with hn | hn
    · exact h.short n hn
    · rw [List.mem_singleton.1 hn]
      exact hs

/-- **How a path is located**: not at all; at a directory; or at a name in a directory, which then
decides whether the path resolves. -/
theorem locate_cases (hd : d.Sound) (p : Path) :
    (∃ e, d.locate p = .error e ∧ ¬ d.Resolves p) ∨
    (d.locate p = .ok (.directory (d.place p)) ∧ d.Resolves p ∧
      d.root.look (d.place p) = some .directory) ∨
    ∃ here last, d.locate p = .ok (.name here last p.endsInSlash) ∧ d.place p = here ++ [last] ∧
      d.root.look here = some .directory ∧ (d.Resolves p ↔ isTooLong last = false) := by
  cases hl : d.locate p with
  | error e =>
    refine .inl ⟨e, rfl, fun h => ?_⟩
    rw [(locate_eq_ok_iff hd).2 ⟨h.presentable, h.reaches, rfl⟩] at hl
    cases hl
  | ok s =>
    obtain ⟨hp, hreach, rfl⟩ := (locate_eq_ok_iff hd).1 hl
    rcases spot_cases hd hreach with ⟨hs, hdir, hlast⟩ |
      ⟨here, last, hs, hplace, ⟨hlast, -⟩, hdir⟩
    · refine .inr (.inl ⟨by rw [hs], ⟨hp, hreach, ?_⟩, hdir⟩)
      cases hl : p.pieces.getLast? with
      | none => simp [List.getLast?_eq_none_iff.1 hl]
      | some last =>
        rw [short_iff hreach hl]
        rcases hlast last hl with rfl | rfl <;> decide
    · refine .inr (.inr ⟨here, last, by rw [hs], hplace, hdir, ?_⟩)
      rw [← short_iff hreach hlast]
      exact ⟨fun h => h.short, fun h => ⟨hp, hreach, h⟩⟩

/-- **What a path finds**: the place that it names, if something is there; only a directory may
have a slash after it. -/
theorem find_eq_ok_iff (hd : d.Sound) : d.find p = .ok q ↔ d.Resolves p ∧ q = d.place p ∧
    (d.root.look q = some .directory ∨ d.root.look q ≠ none ∧ p.endsInSlash = false) := by
  unfold find
  rcases locate_cases hd p with ⟨e, hl, hno⟩ | ⟨hl, hres, hdir⟩ | ⟨here, last, hl, hplace, -, hres⟩
  · simp [hl, hno]
  · rw [hl]
    constructor
    · rintro ⟨⟩
      exact ⟨hres, rfl, .inl hdir⟩
    · rintro ⟨-, rfl, -⟩
      rfl
  · rw [hl, hres, hplace]
    simp only
    cases hlong : isTooLong last with
    | true => simp
    | false =>
      simp only [Bool.false_eq_true, if_false, true_and]
      split
      · rename_i hnone
        simp only [reduceCtorEq, false_iff, not_and]
        rintro rfl
        simp [hnone]
      · rename_i hdir
        constructor
        · rintro ⟨⟩
          exact ⟨rfl, .inl hdir⟩
        · rintro ⟨rfl, -⟩
          rfl
      · rename_i n hn hsome
        cases hslash : p.endsInSlash with
        | true =>
          simp only [if_true, reduceCtorEq, false_iff, not_and]
          rintro rfl
          simp [hsome]
          exact hn
        | false =>
          constructor
          · rintro ⟨⟩
            exact ⟨rfl, .inr ⟨by simp [hsome], rfl⟩⟩
          · rintro ⟨rfl, -⟩
            rfl

theorem holds_iff (hd : d.Sound) :
    d.holds p = true ↔ p.hasNull = false ∧ d.find p = .ok (d.place p) := by
  unfold holds
  cases hfind : d.find p with
  | error e => simp [Except.toOption]
  | ok q =>
    obtain ⟨-, rfl, -⟩ := (find_eq_ok_iff hd).1 hfind
    simp [Except.toOption]

theorem makeDirectory_eq_ok_iff (hd : d.Sound) : d.makeDirectory p = .ok d' ↔
    p.hasNull = false ∧ d.Resolves p ∧ d.root.look (d.place p) = none ∧
      d' = d.put (d.place p) (.directory []) := by
  unfold makeDirectory
  cases hnull : p.hasNull with
  | true => simp
  | false =>
    rcases locate_cases hd p with ⟨e, hl, hno⟩ | ⟨hl, hres, hdir⟩ |
      ⟨here, last, hl, hplace, -, hres⟩
    · simp [hl, hno]
    · simp [hl, hdir]
    · rw [hl, hres, hplace]
      simp only
      cases hlong : isTooLong last with
      | true => simp
      | false =>
        cases hlook : d.root.look (here ++ [last]) with
        | none => simp [eq_comm (a := d')]
        | some n => simp

theorem makeDirectory_eq_exists (hd : d.Sound) (hnull : p.hasNull = false) (h : d.Resolves p)
    (hsome : d.root.look (d.place p) ≠ none) : d.makeDirectory p = .error (.system .exists) := by
  unfold makeDirectory
  rcases locate_cases hd p with ⟨e, hl, hno⟩ | ⟨hl, -, -⟩ | ⟨here, last, hl, hplace, -, hres⟩
  · exact absurd h hno
  · simp [hnull, hl]
  · rw [hplace] at hsome
    simp [hnull, hl, hres.1 h, Option.isSome_iff_ne_none.2 hsome]

/-- **A file is written** where a path without a slash after it resolves and no directory stands. -/
theorem target_eq_ok_iff (hd : d.Sound) : d.target p = .ok q ↔ p.hasNull = false ∧
    d.Resolves p ∧ p.endsInSlash = false ∧ q = d.place p ∧ d.root.look q ≠ some .directory := by
  unfold target
  cases hnull : p.hasNull with
  | true => simp
  | false =>
    rcases locate_cases hd p with ⟨e, hl, hno⟩ | ⟨hl, hres, hdir⟩ |
      ⟨here, last, hl, hplace, -, hres⟩
    · simp [hl, hno]
    · simp only [hl, Bool.false_eq_true, if_false, reduceCtorEq, false_iff]
      rintro ⟨-, -, -, rfl, hno⟩
      exact hno hdir
    · rw [hl, hres, hplace]
      simp only
      cases hslash : p.endsInSlash with
      | true => simp
      | false =>
        cases hlong : isTooLong last with
        | true => simp
        | false =>
          by_cases hdir : d.root.look (here ++ [last]) = some .directory
          · simp only [Bool.false_eq_true, if_false, hdir, if_true, reduceCtorEq, false_iff]
            rintro ⟨-, -, -, rfl, hno⟩
            exact hno hdir
          · simp only [Bool.false_eq_true, if_false, hdir, Except.ok.injEq, true_and]
            constructor
            · rintro rfl
              exact ⟨rfl, hdir⟩
            · rintro ⟨rfl, -⟩
              rfl

end Disk

end Groundwork
