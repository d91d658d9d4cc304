import Groundwork.Proofs.Markup.Nesting

/-!
# What fits a template

A template is rendered as long as it finds the values that it goes by: texts where it writes, lists
where it goes through them, and the entries that it asks records for. This can be told from the
template and the kinds of the values alone. An item of a list is asked for only where the length
of the list has been tested.

* `Kind`, `Context`: the kinds of the named values, and which lists are known to have an item.
* `Expr.kind?`, `Tree.fits`: what can be told of an expression and of a tree.
* **`Tree.eval?_of_fits`**, **`linesOf?_of_fits`**: a tree that fits is rendered, and what holds of
  all texts that go in holds of the lines that come out.
* **`linesOf?_congr`**: only the names that occur in the lines matter.
* `Tree.all`, **`Tree.forall_mem_of_all`**: what holds of all that stands in a tree holds of what
  the tree comes to.
-/

namespace Groundwork.Markup

/-! ## Kinds -/

/-- **The entries of a record** that are known: some are texts, others conditions. -/
structure Shape where
  texts : List String
  conditions : List String
  deriving DecidableEq, Repr

/-- **The kind of a value.** A list has records of one shape. -/
inductive Kind where
  | text
  | condition
  | number
  | record (s : Shape)
  | list (s : Shape)
  deriving DecidableEq, Repr

/-- **What is known of named values**: their kinds, and which of them are lists with an item. -/
structure Context where
  kinds : Keyed Kind
  filled : List String
  deriving Repr

section Fits

variable (P : String → Prop)

/-- **The value has the entries of the shape**, and its texts are as they should be. -/
structure Shape.Fits (s : Shape) (v : Value) : Prop where
  text : ∀ x ∈ s.texts, ∃ t, v.named? x = some (.text t) ∧ P t
  condition : ∀ x ∈ s.conditions, ∃ b, v.named? x = some (.boolean b)

/-- **The value is of the kind**, and its texts are as they should be. -/
inductive Kind.Fits : Kind → Value → Prop
  | text {t : String} (h : P t) : Fits .text (.text t)
  | condition (b : Bool) : Fits .condition (.boolean b)
  | number (mantissa : Int) (decimals : Nat) : Fits .number (.number mantissa decimals)
  | record {s : Shape} {v : Value} (h : s.Fits P v) : Fits (.record s) v
  | list {s : Shape} {items : List Value} (h : ∀ v ∈ items, s.Fits P v) :
      Fits (.list s) (.list items)

/-- **The named values are what is known of them.** -/
structure Context.Fits (c : Context) (ps : Params) : Prop where
  kinds : ∀ x k, c.kinds.get? x = some k → ∃ v, ps.get? x = some v ∧ k.Fits P v
  filled : ∀ x ∈ c.filled, ps.get? x ≠ some (.list [])

end Fits

/-! ## Expressions -/

/-- The kind of an entry of a record. -/
def Kind.entry? (x : String) : Kind → Option Kind
  | .record s =>
    if x ∈ s.texts then some .text else if x ∈ s.conditions then some .condition else none
  | _ => none

/-- The case filters make texts of texts; the length of a list is a number. -/
def Filter.kind? : Filter → Kind → Option Kind
  | .camel, .text | .pascal, .text | .snake, .text => some .text
  | .length, .list _ => some .number
  | _, _ => none

/-- The kind of the first item of a list that is known to have one. -/
def Context.item? (c : Context) : Expr → Nat → Option Kind
  | .name x, 0 =>
    match c.kinds.get? x with
    | some (.list s) => if x ∈ c.filled then some (.record s) else none
    | _ => none
  | _, _ => none

namespace Expr

/-- **The kind of an expression**, if it can be told. -/
def kind? (c : Context) : Expr → Option Kind
  | .name x => c.kinds.get? x
  | .entry e x => (e.kind? c).bind (Kind.entry? x)
  | .item e index => c.item? e index
  | .filtered e f => (e.kind? c).bind f.kind?
  | .isText .. | .isNumber .. | .negation _ | .both .. => none

/-- **The expression can be tested**: all that is compared or negated in it is of a known kind. -/
def isTestable (c : Context) : Expr → Bool
  | .isText e _ | .isNumber e _ | .negation e => e.isTestable c
  | .both a b => a.isTestable c && b.isTestable c
  | e => (e.kind? c).isSome

end Expr

/-- What is known where a condition holds: a list of a tested length has an item. -/
def Context.given (c : Context) : Expr → Context
  | .isNumber (.filtered (.name x) .length) (_ + 1) => { c with filled := x :: c.filled }
  | _ => c

/-- What is known inside a list. -/
def Context.within (c : Context) (x : String) (s : Shape) : Context where
  kinds := (x, .record s) :: ("loop", .record ⟨[], ["last"]⟩) :: c.kinds
  filled := c.filled.filter fun y => y ≠ x ∧ y ≠ "loop"

section Soundness

variable {P : String → Prop} {c : Context} {ps : Params} {s : Shape} {x : String} {e : Expr}

theorem Shape.Fits.of_entry? {k : Kind} {v : Value} (h : s.Fits P v)
    (hk : Kind.entry? x (.record s) = some k) : ∃ w, v.named? x = some w ∧ k.Fits P w := by
  simp only [Kind.entry?] at hk
  split_ifs at hk with htext hcondition
  · obtain ⟨t, ht, hPt⟩ := h.text x htext
    exact ⟨.text t, ht, Option.some.inj hk ▸ .text hPt⟩
  · obtain ⟨b, hb⟩ := h.condition x hcondition
    exact ⟨.boolean b, hb, Option.some.inj hk ▸ .condition b⟩

/-- **The texts are kept by the case filters.** -/
def KeptByFilters (P : String → Prop) : Prop :=
  ∀ t, P t → P (Identifier.camel t) ∧ P (Identifier.pascal t) ∧ P (Identifier.snake t)

theorem Kind.Fits.of_filter (hP : KeptByFilters P) {f : Filter} {k k' : Kind} {v : Value}
    (h : k.Fits P v) (hk : f.kind? k = some k') : ∃ w, f.result? v = some w ∧ k'.Fits P w := by
  cases h with
  | @text t ht =>
    obtain ⟨hcamel, hpascal, hsnake⟩ := hP t ht
    cases f with
    | camel => exact ⟨_, rfl, Option.some.inj hk ▸ .text hcamel⟩
    | pascal => exact ⟨_, rfl, Option.some.inj hk ▸ .text hpascal⟩
    | snake => exact ⟨_, rfl, Option.some.inj hk ▸ .text hsnake⟩
    | length => cases hk
  | list hitems =>
    cases f with
    | length => exact ⟨_, rfl, Option.some.inj hk ▸ .number _ _⟩
    | camel | pascal | snake => cases hk
  | condition b | number n d | record hs => cases f <;> cases hk

section Values

variable (hc : c.Fits P ps)

include hc

theorem Context.Fits.of_item? {index : Nat} {k : Kind} (h : c.item? e index = some k) :
    ∃ v, (e.item index).value? ps = some (some v) ∧ k.Fits P v := by
  unfold Context.item? at h
  split at h
  · rename_i x
    split at h
    · rename_i s hs
      split_ifs at h with hx
      obtain ⟨v, hv, hk⟩ := hc.kinds x _ hs
      cases hk with | @list _ items hitems =>
      cases items with
      | nil => exact absurd hv (hc.filled x hx)
      | cons w rest =>
        refine ⟨w, ?_, Option.some.inj h ▸ .record (hitems w List.mem_cons_self)⟩
        simp only [Expr.value?, hv, List.getElem?_cons_zero]
    · cases h
  · cases h

variable (hP : KeptByFilters P)

include hP

theorem Expr.value?_of_kind? {k : Kind} (h : e.kind? c = some k) :
    ∃ v, e.value? ps = some (some v) ∧ k.Fits P v := by
  induction e generalizing k with
  | name x =>
    obtain ⟨v, hv, hk⟩ := hc.kinds x k h
    exact ⟨v, congrArg some hv, hk⟩
  | entry e x ih =>
    obtain ⟨k₁, hk₁, hentry⟩ := Option.bind_eq_some_iff.1 h
    obtain ⟨v, hv, hfits⟩ := ih hk₁
    cases hfits with
    | record hs =>
      obtain ⟨w, hw, hk⟩ := hs.of_entry? hentry
      exact ⟨w, by simp only [value?, hv, hw], hk⟩
    | text | condition | number | list => cases hentry
  | item e index ih => exact hc.of_item? h
  | filtered e f ih =>
    obtain ⟨k₁, hk₁, hfilter⟩ := Option.bind_eq_some_iff.1 h
    obtain ⟨v, hv, hfits⟩ := ih hk₁
    obtain ⟨w, hw, hk⟩ := hfits.of_filter hP hfilter
    exact ⟨w, by simp only [value?, hv, hw, Option.map_some], hk⟩
  | isText | isNumber | negation | both => cases h

theorem Expr.exists_value?_of_isTestable (h : e.isTestable c = true) :
    ∃ v, e.value? ps = some v := by
  have hkind {e : Expr} (h : (e.kind? c).isSome = true) : ∃ v, e.value? ps = some v := by
    obtain ⟨k, hk⟩ := Option.isSome_iff_exists.1 h
    obtain ⟨v, hv, -⟩ := value?_of_kind? hc hP hk
    exact ⟨some v, hv⟩
  induction e with
  | name | entry | item | filtered => exact hkind h
  | isText e _ ih | isNumber e _ ih | negation e ih =>
    obtain ⟨v, hv⟩ := ih h
    exact ⟨_, by rw [value?, hv, Option.map_some]⟩
  | both a b iha ihb =>
    rw [isTestable, Bool.and_eq_true] at h
    obtain ⟨v, hv⟩ := iha h.1
    obtain ⟨w, hw⟩ := ihb h.2
    simp only [value?, hv, hw]
    split_ifs <;> exact ⟨_, rfl⟩

end Values

theorem Context.Fits.given (hc : c.Fits P ps) {v : Option Value} (hv : e.value? ps = some v)
    (htrue : isTruthy v = true) : (c.given e).Fits P ps := by
  unfold Context.given
  split
  · rename_i x n
    refine ⟨hc.kinds, fun y hy => ?_⟩
    rcases List.mem_cons.1 hy with rfl | hy
    · intro hempty
      have hone : Nat.pow 10 0 = 1 := rfl
      have hzero : (Value.number 0 0).isNumber (n + 1) = false := by
        rw [Value.isNumber, decide_eq_false_iff_not, hone]
        omega
      simp only [Expr.value?, hempty, Filter.result?, Value.length?, Option.map_some,
        List.length_nil, Int.natCast_zero, Option.any_some, hzero, Option.some.injEq] at hv
      rw [← hv] at htrue
      cases htrue
    · exact hc.filled y hy
  · exact hc

theorem Context.Fits.bound (hc : c.Fits P ps) {v : Value} (hv : s.Fits P v) (x : String)
    (last : Bool) : (c.within x s).Fits P (Markup.bound x v last ps) := by
  refine ⟨fun y k hk => ?_, fun y hy => ?_⟩
  · simp only [within, Keyed.get?] at hk
    simp only [Markup.bound, Keyed.get?]
    split_ifs at hk ⊢ with hx hloop
    · exact ⟨v, rfl, Option.some.inj hk ▸ .record hv⟩
    · refine ⟨_, rfl, Option.some.inj hk ▸ .record ⟨List.forall_mem_nil _, fun z hz => ?_⟩⟩
      exact ⟨last, by rw [List.mem_singleton.1 hz]; rfl⟩
    · exact hc.kinds y k hk
  · obtain ⟨hy, hne⟩ := List.mem_filter.1 hy
    obtain ⟨hx, hloop⟩ := of_decide_eq_true hne
    simp only [Markup.bound, Keyed.get?, if_neg hx, if_neg hloop]
    exact hc.filled y hy

end Soundness

/-! ## Trees -/

variable {α β : Type}

/-- **A tree fits what is known** of the named values, if its contents do. -/
def Tree.fits (ok : Context → α → Bool) : Context → Tree α → Bool
  | _, .done => true
  | c, .content a next => ok c a && next.fits ok c
  | c, .choice e yes no next =>
    e.isTestable c && yes.fits ok (c.given e) && no.fits ok c && next.fits ok c
  | c, .each x list body next =>
    match list.kind? c with
    | some (.list s) => body.fits ok (c.within x s) && next.fits ok c
    | _ => false

/-- **Results with a property**, of which there are some. -/
def Gives (Q : β → Prop) (results : Option (List β)) : Prop :=
  ∃ out, results = some out ∧ ∀ b ∈ out, Q b

theorem Gives.joined? {Q : β → Prop} {a b : Option (List β)} (ha : Gives Q a) (hb : Gives Q b) :
    Gives Q (joined? a b) := by
  obtain ⟨l, rfl, hl⟩ := ha
  obtain ⟨m, rfl, hm⟩ := hb
  exact ⟨l ++ m, rfl, List.forall_mem_append.2 ⟨hl, hm⟩⟩

theorem Gives.each? {Q : β → Prop} {f : Value → Bool → Option (List β)} {items : List Value}
    (h : ∀ v ∈ items, ∀ last, Gives Q (f v last)) : Gives Q (each? f items) := by
  induction items with
  | nil => exact ⟨[], rfl, List.forall_mem_nil Q⟩
  | cons v rest ih =>
    rw [List.forall_mem_cons] at h
    exact (h.1 _).joined? (ih h.2)

/-- **A tree that fits is rendered.** What holds of all that its contents come to, where the values
are what is known of them, holds of all that comes out. -/
theorem Tree.eval?_of_fits {P : String → Prop} {Q : β → Prop} (hP : KeptByFilters P)
    {ok : Context → α → Bool} {f : α → Params → Option (List β)}
    (hok : ∀ c a ps, ok c a = true → c.Fits P ps → Gives Q (f a ps)) {t : Tree α} {c : Context}
    {ps : Params} (h : t.fits ok c = true) (hc : c.Fits P ps) : Gives Q (t.eval? f ps) := by
  induction t generalizing c ps with
  | done => exact ⟨[], rfl, List.forall_mem_nil Q⟩
  | content a next ih =>
    rw [fits, Bool.and_eq_true] at h
    exact (hok c a ps h.1 hc).joined? (ih h.2 hc)
  | choice e yes no next hyes hno ih =>
    simp only [fits, Bool.and_eq_true] at h
    obtain ⟨⟨⟨he, hyes'⟩, hno'⟩, hnext⟩ := h
    obtain ⟨v, hv⟩ := Expr.exists_value?_of_isTestable hc hP he
    refine Gives.joined? ?_ (ih hnext hc)
    rw [hv, Option.bind_some]
    split_ifs with htrue
    · exact hyes hyes' (hc.given hv htrue)
    · exact hno hno' hc
  | each x list body next hbody ih =>
    unfold fits at h
    split at h
    · rename_i s hs
      rw [Bool.and_eq_true] at h
      obtain ⟨v, hv, hk⟩ := Expr.value?_of_kind? hc hP hs
      cases hk with
      | list hitems =>
        refine Gives.joined? ?_ (ih h.2 hc)
        rw [hv]
        exact Gives.each? fun v hv last => hbody h.1 (hc.bound (hitems v hv) x last)
    · cases h

/-! ## Lines -/

/-- A part fits: a text that is written out is as it should be, and an output writes a text. -/
def Part.fits (ok : String → Bool) (c : Context) : Part → Bool
  | .text t => ok t
  | .output e => e.kind? c = some .text

/-- **The lines fit what is known** of the named values. -/
def fitsLines (ok : String → Bool) (c : Context) (lines : List Line) : Bool :=
  (Sheet.ofLines? lines).any (Tree.fits (fun c p => Tree.fits (Part.fits ok) c p) c)

section Lines

variable {Q : String → Prop} {ok : String → Bool} {c : Context} {ps : Params}
  (hQ : KeptByFilters Q) (hok : ∀ t, ok t = true → Q t)

include hQ hok

theorem Part.texts?_of_fits {a : Part} (h : a.fits ok c = true) (hc : c.Fits Q ps) :
    Gives Q (a.texts? ps) := by
  cases a with
  | text t => exact ⟨[t], rfl, List.forall_mem_singleton.2 (hok t h)⟩
  | output e =>
    obtain ⟨v, hv, hk⟩ := Expr.value?_of_kind? hc hQ (of_decide_eq_true h)
    cases hk with
    | @text t ht => exact ⟨[t], by rw [texts?, hv]; rfl, List.forall_mem_singleton.2 ht⟩

variable (hnil : Q "") (happend : ∀ a b, Q a → Q b → Q (a ++ b))

include hnil happend

theorem Form.text?_of_fits {p : Form} (h : Tree.fits (Part.fits ok) c p = true)
    (hc : c.Fits Q ps) : ∃ text, p.text? ps = some text ∧ Q text := by
  have hpart (c : Context) (a : Part) (ps : Params) (ha : a.fits ok c = true)
      (hc : c.Fits Q ps) : Gives Q (a.texts? ps) := Part.texts?_of_fits hQ hok ha hc
  obtain ⟨texts, htexts, hall⟩ := Tree.eval?_of_fits hQ hpart h hc
  refine ⟨String.join texts, congrArg (Option.map String.join) htexts, ?_⟩
  clear htexts
  induction texts with
  | nil => exact hnil
  | cons t rest ih =>
    rw [List.forall_mem_cons] at hall
    rw [String.join_cons]
    exact happend _ _ hall.1 (ih hall.2)

/-- **Lines that fit are rendered**, and what holds of the texts that go in holds of the lines. -/
theorem linesOf?_of_fits {lines : List Line} (h : fitsLines ok c lines = true)
    (hc : c.Fits Q ps) : Gives Q (linesOf? lines ps) := by
  obtain ⟨sheet, hsheet, hfits⟩ := (Option.any_eq_true _ _).1 h
  rw [linesOf?, hsheet]
  refine Tree.eval?_of_fits hQ (fun _ _ _ hp hc => ?_) hfits hc
  obtain ⟨text, htext, hq⟩ := Form.text?_of_fits hQ hok hnil happend hp hc
  exact ⟨[text], by rw [htext]; rfl, List.forall_mem_singleton.2 hq⟩

end Lines

/-! ## Names -/

/-- The named values agree under some names. -/
def Agree (names : List String) (ps qs : Params) : Prop := ∀ x ∈ names, ps.get? x = qs.get? x

theorem agree_append {l m : List String} {ps qs : Params} :
    Agree (l ++ m) ps qs ↔ Agree l ps qs ∧ Agree m ps qs := List.forall_mem_append

/-- The names in an expression. -/
def Expr.names : Expr → List String
  | .name x => [x]
  | .entry e _ | .item e _ | .filtered e _ | .isText e _ | .isNumber e _ | .negation e => e.names
  | .both a b => a.names ++ b.names

/-- The names in a part. -/
def Part.names : Part → List String
  | .text _ => []
  | .output e => e.names

/-- **The names in a tree**, but for those that its lists bring in. -/
def Tree.names (f : α → List String) : Tree α → List String
  | .done => []
  | .content a next => f a ++ next.names f
  | .choice e yes no next => e.names ++ yes.names f ++ no.names f ++ next.names f
  | .each x list body next =>
    list.names ++ (body.names f).filter (fun y => y ≠ x ∧ y ≠ "loop") ++ next.names f

/-- **The names in some lines.** -/
def namesIn (lines : List Line) : List String :=
  ((Sheet.ofLines? lines).map (Tree.names (Tree.names Part.names))).getD []

section Congruence

variable {ps qs : Params}

theorem Agree.bound {x : String} {names : List String}
    (h : Agree (names.filter fun y => y ≠ x ∧ y ≠ "loop") ps qs) (v : Value) (last : Bool) :
    Agree names (bound x v last ps) (bound x v last qs) := by
  intro y hy
  simp only [Markup.bound, Keyed.get?]
  split_ifs with hx hloop
  · rfl
  · rfl
  · exact h y (List.mem_filter.2 ⟨hy, decide_eq_true ⟨hx, hloop⟩⟩)

theorem Expr.value?_congr {e : Expr} (h : Agree e.names ps qs) : e.value? ps = e.value? qs := by
  induction e with
  | name x => exact congrArg some (h x List.mem_cons_self)
  | entry e x ih | item e i ih | filtered e f ih | isText e t ih | isNumber e n ih
  | negation e ih => simp only [value?, ih h]
  | both a b iha ihb =>
    obtain ⟨ha, hb⟩ := agree_append.1 h
    simp only [value?, iha ha, ihb hb]

theorem Tree.eval?_congr {names : α → List String} {f : α → Params → Option (List β)}
    (hf : ∀ a ps qs, Agree (names a) ps qs → f a ps = f a qs) {t : Tree α}
    (h : Agree (t.names names) ps qs) : t.eval? f ps = t.eval? f qs := by
  induction t generalizing ps qs with
  | done => rfl
  | content a next ih =>
    obtain ⟨ha, hnext⟩ := agree_append.1 h
    rw [eval?, eval?, hf a ps qs ha, ih hnext]
  | choice e yes no next hyes hno ih =>
    simp only [Tree.names, agree_append] at h
    obtain ⟨⟨⟨he, hyes'⟩, hno'⟩, hnext⟩ := h
    rw [eval?, eval?, Expr.value?_congr he, hyes hyes', hno hno', ih hnext]
  | each x list body next hbody ih =>
    simp only [Tree.names, agree_append] at h
    obtain ⟨⟨hlist, hbody'⟩, hnext⟩ := h
    have hsame (v : Value) (last : Bool) :
        body.eval? f (Markup.bound x v last ps) = body.eval? f (Markup.bound x v last qs) :=
      hbody (Agree.bound hbody' v last)
    simp only [eval?, Expr.value?_congr hlist, hsame, ih hnext]

/-- **Only the names in the lines matter.** -/
theorem linesOf?_congr {lines : List Line} (h : Agree (namesIn lines) ps qs) :
    linesOf? lines ps = linesOf? lines qs := by
  unfold linesOf?
  unfold namesIn at h
  cases hsheet : Sheet.ofLines? lines with
  | none => rfl
  | some sheet =>
    rw [hsheet] at h
    refine Tree.eval?_congr (fun p ps qs hp => ?_) h
    have hpart (a : Part) (ps qs : Params) (ha : Agree a.names ps qs) :
        a.texts? ps = a.texts? qs := by
      cases a with
      | text t => rfl
      | output e => rw [Part.texts?, Part.texts?, Expr.value?_congr ha]
    rw [Form.text?, Form.text?, Tree.eval?_congr hpart hp]

end Congruence

/-! ## Beginnings -/

/-- All contents of the tree are as they should be. -/
def Tree.all (ok : α → Bool) : Tree α → Bool
  | .done => true
  | .content a next => ok a && next.all ok
  | .choice _ yes no next => yes.all ok && no.all ok && next.all ok
  | .each _ _ body next => body.all ok && next.all ok

theorem Tree.forall_mem_of_all {Q : β → Prop} {ok : α → Bool} {f : α → Params → Option (List β)}
    (hok : ∀ a ps out, ok a = true → f a ps = some out → ∀ b ∈ out, Q b) {t : Tree α} {ps : Params}
    {out : List β} (h : t.all ok = true) (hout : t.eval? f ps = some out) : ∀ b ∈ out, Q b := by
  have heach {items : List Value} {g : Value → Bool → Option (List β)}
      (hg : ∀ v last out, g v last = some out → ∀ b ∈ out, Q b) {out : List β}
      (hout : each? g items = some out) : ∀ b ∈ out, Q b := by
    induction items generalizing out with
    | nil => exact Option.some.inj hout ▸ List.forall_mem_nil Q
    | cons v rest ih =>
      obtain ⟨l, m, hl, hm, rfl⟩ := Tree.joined?_eq_some_iff.1 hout
      exact List.forall_mem_append.2 ⟨hg v _ l hl, ih hm⟩
  induction t generalizing ps out with
  | done => exact Option.some.inj hout ▸ List.forall_mem_nil Q
  | content a next ih =>
    rw [all, Bool.and_eq_true] at h
    obtain ⟨l, m, hl, hm, rfl⟩ := Tree.joined?_eq_some_iff.1 hout
    exact List.forall_mem_append.2 ⟨hok a ps l h.1 hl, ih h.2 hm⟩
  | choice e yes no next hyes hno ih =>
    simp only [all, Bool.and_eq_true] at h
    obtain ⟨l, m, hl, hm, rfl⟩ := Tree.joined?_eq_some_iff.1 hout
    obtain ⟨v, -, hl⟩ := Option.bind_eq_some_iff.1 hl
    refine List.forall_mem_append.2 ⟨?_, ih h.2 hm⟩
    split_ifs at hl
    · exact hyes h.1.1 hl
    · exact hno h.1.2 hl
  | each x list body next hbody ih =>
    rw [all, Bool.and_eq_true] at h
    obtain ⟨l, m, hl, hm, rfl⟩ := Tree.joined?_eq_some_iff.1 hout
    obtain ⟨v, -, hl⟩ := Option.bind_eq_some_iff.1 hl
    obtain ⟨items, -, hl⟩ := Option.bind_eq_some_iff.1 hl
    exact List.forall_mem_append.2
      ⟨heach (fun v last out hout => hbody h.1 hout) hl, ih h.2 hm⟩

end Groundwork.Markup
