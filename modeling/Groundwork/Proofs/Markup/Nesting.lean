import Groundwork.Markup
import Mathlib.Data.List.Forall2

/-!
# Nesting line by line

Tags nest the pieces of all lines at once. It comes to the same to nest the pieces of each line
alone, and then the lines: a tag on a line of its own leaves nothing behind, and every other line
stays a line. So what a template renders can be told line by line.

* `Tree.graft`, `Tree.bind`: one tree after another, and trees in the place of contents.
* **`Tree.ofItems?_flatten`**: nesting in two steps comes to nesting at once.
* **`Tree.eval?_bind`**: rendering in two steps comes to rendering at once.
* `Sheet.ofLines?`: the lines of a template nested, with a form for each line that stays.
* **`text?_eq_intercalate`**: what is rendered is the lines of the sheet, joined by line ends.
-/

namespace Groundwork.Markup

variable {α β : Type}

/-! ## Nesting in two steps -/

namespace Tree

/-- **One tree after another.** -/
def graft : Tree α → Tree α → Tree α
  | done, u => u
  | content a next, u => content a (next.graft u)
  | choice c yes no next, u => choice c yes no (next.graft u)
  | each x list body next, u => each x list body (next.graft u)

/-- **Trees in the place of contents.** -/
def bind (k : α → Tree β) : Tree α → Tree β
  | done => done
  | content a next => (k a).graft (next.bind k)
  | choice c yes no next => choice c (yes.bind k) (no.bind k) (next.bind k)
  | each x list body next => each x list (body.bind k) (next.bind k)

end Tree

namespace Nest

variable {m m' n : Nest α}

/-- What is nested around something that was nested before. -/
def around : Nest α → Nest α → Nest α
  | top t, n => n.extend t.graft
  | choice t no outer, n => choice t no (outer.around n)
  | each t outer, n => each t (outer.around n)

/-- Trees in the place of the contents met so far. -/
def bind (k : α → Tree β) : Nest α → Nest β
  | top t => top (t.bind k)
  | choice t no outer => choice (t.bind k) (no.map (Tree.bind k)) (outer.bind k)
  | each t outer => each (t.bind k) (outer.bind k)

theorem around_extend {f : Tree α → Tree α} (hf : ∀ t u, (f t).graft u = f (t.graft u)) :
    (m.extend f).around n = (m.around n).extend f := by
  cases m with
  | top t => cases n <;> simp only [extend, around, hf]
  | choice t no outer => rfl
  | each t outer => rfl

theorem top_done_around : (top .done).around n = n := by cases n <;> rfl

/-- **What a tag does** to what is nested so far. -/
inductive Tagged : Tag → Nest α → Nest α → Prop
  | endWhen (n : Nest α) : Tagged .endWhen n (choice .done none n)
  | otherwise (t : Tree α) (outer : Nest α) :
      Tagged .otherwise (choice t none outer) (choice .done (some t) outer)
  | orWhen (c : Expr) (t : Tree α) (no : Option (Tree α)) (outer : Nest α) :
      Tagged (.orWhen c) (choice t no outer)
        (choice .done (some (.choice c t (no.getD .done) .done)) outer)
  | when (c : Expr) (t : Tree α) (no : Option (Tree α)) (outer : Nest α) :
      Tagged (.when c) (choice t no outer) (outer.extend (.choice c t (no.getD .done)))
  | endEach (n : Nest α) : Tagged .endEach n (each .done n)
  | each (x : String) (list : Expr) (t : Tree α) (outer : Nest α) :
      Tagged (.each x list) (each t outer) (outer.extend (.each x list t))

theorem add?_tag_eq_some_iff {t : Tag} : m.add? (.tag t) = some m' ↔ Tagged t m m' := by
  constructor
  · intro h
    cases t with
    | endWhen => exact Option.some.inj h ▸ .endWhen m
    | endEach => exact Option.some.inj h ▸ .endEach m
    | otherwise =>
      rcases m with _ | ⟨t, _ | no, outer⟩ | _
      · cases h
      · exact Option.some.inj h ▸ .otherwise t outer
      · cases h
      · cases h
    | orWhen c =>
      rcases m with _ | ⟨t, no, outer⟩ | _
      · cases h
      · exact Option.some.inj h ▸ .orWhen c t no outer
      · cases h
    | when c =>
      rcases m with _ | ⟨t, no, outer⟩ | _
      · cases h
      · exact Option.some.inj h ▸ .when c t no outer
      · cases h
    | each x list =>
      rcases m with _ | _ | ⟨t, outer⟩
      · cases h
      · cases h
      · exact Option.some.inj h ▸ .each x list t outer
  · intro h
    cases h <;> rfl

theorem add?_around {i : Item α} (h : m.add? i = some m') :
    (m.around n).add? i = some (m'.around n) := by
  cases i with
  | content a =>
    obtain rfl := Option.some.inj h
    rw [around_extend fun _ _ => rfl]
    rfl
  | tag t =>
    rw [add?_tag_eq_some_iff] at h ⊢
    cases h with
    | endWhen => exact .endWhen _
    | otherwise t outer => exact .otherwise t _
    | orWhen c t no outer => exact .orWhen c t no _
    | when c t no outer =>
      rw [around_extend fun _ _ => rfl]
      exact .when c t no _
    | endEach => exact .endEach _
    | each x list t outer =>
      rw [around_extend fun _ _ => rfl]
      exact .each x list t _

theorem addAll?_around {items : List (Item α)} (h : addAll? items m = some m') :
    addAll? items (m.around n) = some (m'.around n) := by
  induction items generalizing m' with
  | nil => obtain rfl := Option.some.inj h; rfl
  | cons i rest ih =>
    obtain ⟨m₁, hrest, hadd⟩ := Option.bind_eq_some_iff.1 h
    rw [addAll?, ih hrest, Option.bind_some, add?_around hadd]

theorem addAll?_append (items more : List (Item α)) (n : Nest α) :
    addAll? (items ++ more) n = (addAll? more n).bind (addAll? items) := by
  induction items with
  | nil => exact (Option.bind_fun_some _).symm
  | cons i rest ih => rw [List.cons_append, addAll?, ih, Option.bind_assoc]; rfl

theorem addAll?_of_ofItems? {items : List (Item α)} {t : Tree α}
    (h : Tree.ofItems? items = some t) (n : Nest α) :
    addAll? items n = some (n.extend t.graft) := by
  have htop : addAll? items (top .done) = some (top t) := by
    unfold Tree.ofItems? at h
    split at h
    · rename_i u hu
      rw [hu, Option.some.inj h]
    · cases h
  have hover := addAll?_around (n := n) htop
  rwa [top_done_around] at hover

/-- The items that are read in the place of one item. -/
def Expands (k : α → Tree β) : Item α → List (Item β) → Prop
  | .content a, items => Tree.ofItems? items = some (k a)
  | .tag t, items => items = [.tag t]

theorem bind_extend {k : α → Tree β} (f : Tree α → Tree α) (g : Tree β → Tree β)
    (hf : ∀ t, (f t).bind k = g (t.bind k)) : (n.extend f).bind k = (n.bind k).extend g := by
  cases n with
  | top t => exact congrArg top (hf t)
  | choice t no outer => exact congrArg (choice · _ _) (hf t)
  | each t outer => exact congrArg (each · _) (hf t)

theorem tagged_bind (k : α → Tree β) {t : Tag} (h : Tagged t m m') :
    Tagged t (m.bind k) (m'.bind k) := by
  have hdone (no : Option (Tree α)) :
      (no.getD .done).bind k = (no.map (Tree.bind k)).getD .done := by
    cases no <;> rfl
  cases h with
  | endWhen => exact .endWhen _
  | otherwise t outer => exact .otherwise (t.bind k) _
  | orWhen c t no outer =>
    have htagged := Tagged.orWhen c (t.bind k) (no.map (Tree.bind k)) (outer.bind k)
    rwa [← hdone] at htagged
  | when c t no outer =>
    rw [bind_extend (.choice c t (no.getD .done)) (.choice c (t.bind k) ((no.getD .done).bind k))
      fun _ => rfl, hdone]
    exact .when c (t.bind k) _ _
  | endEach => exact .endEach _
  | each x list t outer =>
    rw [bind_extend (.each x list t) (.each x list (t.bind k)) fun _ => rfl]
    exact .each x list (t.bind k) _

theorem addAll?_of_expands {k : α → Tree β} {i : Item α} {items : List (Item β)}
    (hi : Expands k i items) (h : m.add? i = some m') :
    addAll? items (m.bind k) = some (m'.bind k) := by
  cases i with
  | content a =>
    obtain rfl := Option.some.inj h
    rw [addAll?_of_ofItems? hi, bind_extend (.content a) (k a).graft fun _ => rfl]
  | tag t =>
    obtain rfl : items = [.tag t] := hi
    exact add?_tag_eq_some_iff.2 (tagged_bind k (add?_tag_eq_some_iff.1 h))

theorem addAll?_flatten {k : α → Tree β} {items : List (Item α)} {more : List (List (Item β))}
    (hitems : List.Forall₂ (Expands k) items more) (h : addAll? items m = some m') :
    addAll? more.flatten (m.bind k) = some (m'.bind k) := by
  induction hitems generalizing m' with
  | nil => obtain rfl := Option.some.inj h; rfl
  | cons hi _ ih =>
    obtain ⟨m₁, hrest, hadd⟩ := Option.bind_eq_some_iff.1 h
    rw [List.flatten_cons, addAll?_append, ih hrest, Option.bind_some, addAll?_of_expands hi hadd]

end Nest

namespace Tree

variable {items more : List (Item α)} {t u : Tree α}

theorem ofItems?_eq_some_iff :
    ofItems? items = some t ↔ Nest.addAll? items (.top .done) = some (.top t) := by
  unfold ofItems?
  split
  · rename_i u hu
    rw [hu, Option.some.injEq, Option.some.injEq, Nest.top.injEq]
  · rename_i hno
    exact iff_of_false nofun (hno t)

/-- **Nesting in two steps comes to nesting at once.** -/
theorem ofItems?_flatten {k : α → Tree β} {more : List (List (Item β))}
    (hitems : List.Forall₂ (Nest.Expands k) items more) (h : ofItems? items = some t) :
    ofItems? more.flatten = some (t.bind k) := by
  rw [ofItems?_eq_some_iff] at h ⊢
  exact Nest.addAll?_flatten hitems h

theorem ofItems?_append (h : ofItems? items = some t) (hmore : ofItems? more = some u) :
    ofItems? (items ++ more) = some (t.graft u) := by
  rw [ofItems?_eq_some_iff] at hmore ⊢
  rw [Nest.addAll?_append, hmore, Option.bind_some, Nest.addAll?_of_ofItems? h]
  rfl

/-! ## Rendering in two steps -/

variable {γ : Type} {f : β → Params → Option (List γ)}

theorem joined?_nil (a : Option (List β)) : joined? (some []) a = a := by
  cases a <;> rfl

theorem joined?_eq_some_iff {a b : Option (List β)} {out : List β} :
    joined? a b = some out ↔ ∃ l m, a = some l ∧ b = some m ∧ out = l ++ m := by
  cases a <;> cases b <;> simp [joined?, eq_comm]

theorem joined?_assoc (a b c : Option (List β)) :
    joined? (joined? a b) c = joined? a (joined? b c) := by
  cases a <;> cases b <;> cases c <;> simp [joined?]

theorem eval?_graft (t u : Tree β) (ps : Params) :
    (t.graft u).eval? f ps = joined? (t.eval? f ps) (u.eval? f ps) := by
  induction t with
  | done => exact (joined?_nil _).symm
  | content a next ih => rw [graft, eval?, eval?, ih, joined?_assoc]
  | choice c yes no next _ _ ih => rw [graft, eval?, eval?, ih, joined?_assoc]
  | each x list body next _ ih => rw [graft, eval?, eval?, ih, joined?_assoc]

/-- **Rendering in two steps comes to rendering at once.** -/
theorem eval?_bind (k : α → Tree β) (t : Tree α) (ps : Params) :
    (t.bind k).eval? f ps = t.eval? (fun a => (k a).eval? f) ps := by
  induction t generalizing ps with
  | done => rfl
  | content a next ih => rw [bind, eval?_graft, eval?, ih]
  | choice c yes no next hyes hno ih => simp only [bind, eval?, hyes, hno, ih]
  | each x list body next hbody ih => simp only [bind, eval?, hbody, ih]

section Views

/- Two ways to read results as a text, each of which respects appending. -/
variable {g : List β → String} {h : List γ → String} (hnil : g [] = h [])
  (hg : ∀ l m, g (l ++ m) = g l ++ g m) (hh : ∀ l m, h (l ++ m) = h l ++ h m)

include hg hh

theorem map_joined?_congr {a b : Option (List β)} {a' b' : Option (List γ)}
    (ha : a.map g = a'.map h) (hb : b.map g = b'.map h) :
    (joined? a b).map g = (joined? a' b').map h := by
  cases a <;> cases a' <;> cases b <;> cases b' <;> simp_all [joined?]

include hnil

theorem map_each?_congr {δ : Type} {e : δ → Bool → Option (List β)}
    {e' : δ → Bool → Option (List γ)}
    (he : ∀ d last, (e d last).map g = (e' d last).map h) (l : List δ) :
    (each? e l).map g = (each? e' l).map h := by
  induction l with
  | nil => exact congrArg some hnil
  | cons d rest ih => exact map_joined?_congr hg hh (he d _) ih

theorem map_eval?_congr {e : α → Params → Option (List β)} {e' : α → Params → Option (List γ)}
    (he : ∀ a ps, (e a ps).map g = (e' a ps).map h) (t : Tree α) (ps : Params) :
    (t.eval? e ps).map g = (t.eval? e' ps).map h := by
  induction t generalizing ps with
  | done => exact congrArg some hnil
  | content a next ih => exact map_joined?_congr hg hh (he a ps) (ih ps)
  | choice c yes no next hyes hno ih =>
    refine map_joined?_congr hg hh ?_ (ih ps)
    cases c.value? ps with
    | none => rfl
    | some v =>
      rw [Option.bind_some, Option.bind_some]
      split_ifs
      · exact hyes ps
      · exact hno ps
  | each x list body next hbody ih =>
    refine map_joined?_congr hg hh ?_ (ih ps)
    cases list.value? ps with
    | none => rfl
    | some v =>
      rw [Option.bind_some, Option.bind_some]
      cases v.elim (some []) Value.items? with
      | none => rfl
      | some l => exact map_each?_congr hnil hg hh (fun v last => hbody _) l

end Views

end Tree

/-! ## Sheets -/

namespace Line

variable {l : Line} {t : Tag}

/-- **A line as a whole**: a tag that stands alone but for blanks before it, or a line that neither
begins nor ends with a tag, with its own form. -/
def item? (l : Line) : Option (Item Form) :=
  match l.trimStart, l.getLast? with
  | [.tag t], _ => some (.tag t)
  | .tag _ :: _, _ => none
  | _, some (.tag _) => none
  | _, _ => (Tree.ofItems? l).map .content

end Line

/-- **Lines nested by their tags**, each with its own form. -/
abbrev Sheet := Tree Form

/-- **The sheet of some lines**, if each of them is an item and the tags nest them. -/
def Sheet.ofLines? (lines : List Line) : Option Sheet := (lines.mapM Line.item?).bind Tree.ofItems?

/-- **The lines that a sheet comes to.** -/
def Sheet.lines? (sheet : Sheet) (ps : Params) : Option (List String) :=
  sheet.eval? (fun p ps => (p.text? ps).map ([·])) ps

/-- **What some lines come to**, if their tags nest them line by line. -/
def linesOf? (lines : List Line) (ps : Params) : Option (List String) :=
  (Sheet.ofLines? lines).bind (·.lines? ps)

/-- The form of a line with its line end. -/
def ended (p : Form) : Form := p.graft (.content (.text "\n") .done)

namespace Line

variable {l : Line} {p : Form}

theorem trimStart_cases (l : Line) :
    l.trimStart = l ∨
      ∃ texts t rest, l = texts ++ .tag t :: rest ∧ l.trimStart = .tag t :: rest := by
  unfold trimStart
  split
  · rename_i t rest hdrop
    split_ifs
    · refine .inr ⟨l.takeWhile Item.isText, t, rest, ?_, rfl⟩
      rw [← hdrop, List.takeWhile_append_dropWhile]
    · exact .inl rfl
  · exact .inl rfl

theorem trimmed_of_item? {t : Tag} (h : l.item? = some (.tag t)) :
    l.trimStart ++ l.ending = [.tag t] := by
  unfold item? at h
  split at h
  · rename_i u htrim
    obtain rfl : u = t := by simpa using h
    have hlast : l.getLast? = some (.tag u) := by
      rcases trimStart_cases l with hsame | ⟨texts, t', rest, hl, hrest⟩
      · rw [← hsame, htrim]
        rfl
      · rw [hl, ← hrest, htrim, List.getLast?_concat]
    rw [htrim, ending, hlast]
    rfl
  · cases h
  · cases h
  · obtain ⟨p, -, hp⟩ := Option.map_eq_some_iff.1 h
    cases hp

theorem facts_of_item? (h : l.item? = some (.content p)) :
    Tree.ofItems? l = some p ∧ l.trimStart = l ∧ l.ending = [.content (.text "\n")] := by
  unfold item? at h
  split at h
  · cases h
  · cases h
  · cases h
  · rename_i hfirst hlast
    obtain ⟨q, hq, hp⟩ := Option.map_eq_some_iff.1 h
    obtain rfl : q = p := by simpa using hp
    refine ⟨hq, ?_, ?_⟩
    · rcases trimStart_cases l with hsame | ⟨texts, t, rest, -, hrest⟩
      · exact hsame
      · exact absurd hrest (hfirst t rest)
    · unfold ending
      split
      · rename_i t ht
        exact absurd ht (hlast t)
      · rfl

theorem expands_of_item? {i : Item Form} (h : l.item? = some i) :
    Nest.Expands ended i (l.trimStart ++ l.ending) := by
  cases i with
  | tag t => exact trimmed_of_item? h
  | content p =>
    obtain ⟨hp, htrim, hend⟩ := facts_of_item? h
    rw [htrim, hend]
    exact Tree.ofItems?_append hp rfl

end Line

/-! ## Rendering line by line -/

theorem pieces_append (lines : List Line) (last : Line) :
    pieces (lines ++ [last])
      = (lines.map fun l => l.trimStart ++ l.ending).flatten ++ last.trimStart := by
  induction lines with
  | nil => rfl
  | cons l rest ih =>
    obtain ⟨m, more, hmore⟩ : ∃ m more, rest ++ [last] = m :: more := by
      cases rest <;> exact ⟨_, _, rfl⟩
    rw [List.map_cons, List.flatten_cons, List.append_assoc, ← ih, List.cons_append, hmore, pieces,
      List.append_assoc]
    exact nofun

theorem mapM_item?_eq_some_iff {lines : List Line} {items : List (Item Form)} :
    lines.mapM Line.item? = some items ↔
      List.Forall₂ (fun l i => Line.item? l = some i) lines items := by
  induction lines generalizing items with
  | nil => cases items <;> simp
  | cons l rest ih =>
    cases items with
    | nil => simp [List.mapM_cons, Option.bind_eq_some_iff]
    | cons i more => simp [List.mapM_cons, Option.bind_eq_some_iff, ih]

section Joining

variable {lines more : List Line} {sheet sheet' : Sheet} {ps : Params}

theorem ofLines?_append (h : Sheet.ofLines? lines = some sheet)
    (h' : Sheet.ofLines? more = some sheet') :
    Sheet.ofLines? (lines ++ more) = some (Tree.graft sheet sheet') := by
  obtain ⟨items, hitems, hnest⟩ := Option.bind_eq_some_iff.1 h
  obtain ⟨items', hitems', hnest'⟩ := Option.bind_eq_some_iff.1 h'
  unfold Sheet.ofLines?
  rw [List.mapM_append, hitems, hitems']
  exact Tree.ofItems?_append hnest hnest'

theorem linesOf?_append (h : (Sheet.ofLines? lines).isSome) (h' : (Sheet.ofLines? more).isSome)
    (ps : Params) :
    linesOf? (lines ++ more) ps = joined? (linesOf? lines ps) (linesOf? more ps) := by
  obtain ⟨sheet, hsheet⟩ := Option.isSome_iff_exists.1 h
  obtain ⟨sheet', hsheet'⟩ := Option.isSome_iff_exists.1 h'
  unfold linesOf?
  rw [ofLines?_append hsheet hsheet', hsheet, hsheet']
  exact Tree.eval?_graft _ _ ps

theorem isSome_ofLines?_flatten {sections : List (List Line)}
    (h : ∀ s ∈ sections, (Sheet.ofLines? s).isSome) : (Sheet.ofLines? sections.flatten).isSome := by
  induction sections with
  | nil => rfl
  | cons s rest ih =>
    rw [List.forall_mem_cons] at h
    obtain ⟨sheet, hsheet⟩ := Option.isSome_iff_exists.1 h.1
    obtain ⟨sheet', hsheet'⟩ := Option.isSome_iff_exists.1 (ih h.2)
    rw [List.flatten_cons, ofLines?_append hsheet hsheet']
    rfl

end Joining

theorem form?_of_sheet {lines : List Line} {sheet : Sheet} {last : Line} {p : Form}
    (hsheet : Sheet.ofLines? lines = some sheet) (hlast : last.item? = some (.content p)) :
    form? (lines ++ [last]) = some ((Tree.bind ended sheet).graft p) := by
  obtain ⟨items, hitems, hnest⟩ := Option.bind_eq_some_iff.1 hsheet
  obtain ⟨hp, htrim, -⟩ := Line.facts_of_item? hlast
  have hexpands : List.Forall₂ (Nest.Expands ended) items
      (lines.map fun l => l.trimStart ++ l.ending) := by
    refine List.forall₂_map_right_iff.2 ?_
    exact (mapM_item?_eq_some_iff.1 hitems).flip.imp fun _ _ => Line.expands_of_item?
  rw [form?, pieces_append, htrim]
  exact Tree.ofItems?_append (Tree.ofItems?_flatten hexpands hnest) hp

theorem intercalate_lineFeed_concat (ls : List String) (l : String) :
    "\n".intercalate (ls ++ [l]) = String.join (ls.map (· ++ "\n")) ++ l := by
  induction ls with
  | nil => simp
  | cons m rest ih =>
    obtain ⟨m', more, hmore⟩ : ∃ m' more, rest ++ [l] = m' :: more := by
      cases rest <;> exact ⟨_, _, rfl⟩
    rw [List.cons_append, hmore, String.intercalate_cons_cons, ← hmore, ih, List.map_cons,
      String.join_cons]
    simp only [String.append_assoc]

/-- **A page**: lines that are nested on their own, and a last one that is no tag. -/
def isPage (page : List Line) : Bool :=
  match page.getLast?.bind Line.item? with
  | some (.content _) => (Sheet.ofLines? page.dropLast).isSome
  | _ => false

theorem page_cases {page : List Line} (h : isPage page = true) : ∃ lines last sheet p,
    page = lines ++ [last] ∧ Sheet.ofLines? lines = some sheet ∧
      last.item? = some (.content p) := by
  unfold isPage at h
  split at h
  · rename_i p hp
    obtain ⟨last, hlast, hitem⟩ := Option.bind_eq_some_iff.1 hp
    obtain ⟨sheet, hsheet⟩ := Option.isSome_iff_exists.1 h
    obtain ⟨lines, rfl⟩ := List.getLast?_eq_some_iff.1 hlast
    rw [List.dropLast_concat] at hsheet
    exact ⟨lines, last, sheet, p, rfl, hsheet, hitem⟩
  · cases h

theorem exists_form? {page : List Line} (h : isPage page = true) :
    ∃ p, form? page = some p := by
  obtain ⟨lines, last, sheet, p, rfl, hsheet, hlast⟩ := page_cases h
  exact ⟨_, form?_of_sheet hsheet hlast⟩

theorem ofLines?_singleton {l : Line} {p : Form} (h : l.item? = some (.content p)) :
    Sheet.ofLines? [l] = some (.content p .done) := by
  simp [Sheet.ofLines?, h, Tree.ofItems?, Nest.addAll?, Nest.add?, Nest.extend]

theorem linesOf?_ne_nil {page : List Line} (h : isPage page = true) (ps : Params) :
    linesOf? page ps ≠ some [] := by
  obtain ⟨lines, last, sheet, p, rfl, hsheet, hlast⟩ := page_cases h
  rw [linesOf?, ofLines?_append hsheet (ofLines?_singleton hlast), Option.bind_some, Sheet.lines?,
    Tree.eval?_graft]
  cases Tree.eval? (fun q qs => (Form.text? q qs).map ([·])) sheet ps <;>
    cases hp : Form.text? p ps <;> simp [joined?, Tree.eval?, hp]

/-- **The text that is rendered is the lines of the sheet**, joined by line ends. -/
theorem text?_eq_intercalate {page : List Line} (h : isPage page = true) (ps : Params) :
    (form? page).bind (·.text? ps) = (linesOf? page ps).map "\n".intercalate := by
  obtain ⟨lines, last, sheet, p, rfl, hsheet, hlast⟩ := page_cases h
  have hone := ofLines?_singleton hlast
  have hended (q : Form) (qs : Params) : ((ended q).eval? Part.texts? qs).map String.join
      = ((q.text? qs).map ([·])).map fun ls => String.join (ls.map (· ++ "\n")) := by
    rw [ended, Tree.eval?_graft, Form.text?]
    cases q.eval? Part.texts? qs <;> simp [joined?, Tree.eval?, Part.texts?]
  have hlines := Tree.map_eval?_congr (g := String.join)
    (h := fun ls => String.join (ls.map (· ++ "\n"))) rfl (by simp) (by simp) hended sheet ps
  rw [form?_of_sheet hsheet hlast, linesOf?, ofLines?_append hsheet hone, Option.bind_some,
    Option.bind_some, Form.text?, Sheet.lines?, Tree.eval?_graft, Tree.eval?_graft,
    Tree.eval?_bind]
  cases hbody : Tree.eval? (fun q qs => (Form.text? q qs).map ([·])) sheet ps with
  | none =>
    rw [hbody, Option.map_none, Option.map_eq_none_iff] at hlines
    rw [hlines]
    rfl
  | some ls =>
    rw [hbody, Option.map_some, Option.map_eq_some_iff] at hlines
    obtain ⟨texts, htexts, hjoin⟩ := hlines
    rw [htexts]
    cases hp : Tree.eval? Part.texts? p ps with
    | none => simp [joined?, Tree.eval?, Form.text?, hp]
    | some more =>
      simp [joined?, Tree.eval?, Form.text?, hp, hjoin, intercalate_lineFeed_concat]

end Groundwork.Markup
