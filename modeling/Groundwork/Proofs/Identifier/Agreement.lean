import Groundwork.Proofs.Identifier.Pieces

/-!
# Names that are written alike

The same words are written in many ways: `blog_post`, `blogPost`, `Blog-Post` and ` blog  post`. A
name of words of at least two letters is cut exactly between them, however it is written, and so
each of its spellings is that of the words.

* `IsWord`, `IsGap`: what a name is written of.
* `Continues`, `Writes`: the names that write some words, from left to right.
* **`wordsFrom_stands`**: a word is cut off where the next one begins.
* **`spellings_of_writes`**: the spellings of a name are those of its words, so that camel case and
  snake case lead to each other.
-/

namespace Groundwork.Identifier

open Text

variable {c d : Char} {cs gap rest w name : List Char} {ws : List (List Char)}

/-! ## What is written -/

/-- **A word**: two letters or more in lower case. -/
structure IsWord (w : List Char) : Prop where
  two_le_length : 2 ≤ w.length
  isLower : ∀ c ∈ w, c.isLower = true

instance (w : List Char) : Decidable (IsWord w) :=
  decidable_of_iff (2 ≤ w.length ∧ w.all Char.isLower = true)
    ⟨fun h => ⟨h.1, List.all_eq_true.1 h.2⟩, fun h => ⟨h.1, List.all_eq_true.2 h.2⟩⟩

/-- **A gap** of underscores, hyphens and spaces. -/
def IsGap (cs : List Char) : Prop := ∀ c ∈ cs, c = '_' ∨ c = '-' ∨ c = ' '

instance (cs : List Char) : Decidable (IsGap cs) :=
  decidable_of_iff (cs.all fun c => c = '_' || c = '-' || c = ' ') (by simp [IsGap, or_assoc])

/-- **The text writes the words after others.** Each stands in lower case or with a capital, and
behind a gap; without one it needs the capital. A gap may end the text. -/
inductive Continues : List (List Char) → List Char → Prop
  | finish {gap : List Char} (isGap : IsGap gap) : Continues [] gap
  | apart {gap cs w rest : List Char} {ws : List (List Char)} (isGap : IsGap gap) (ne_nil : gap ≠ [])
      (isWord : IsWord w) (stands : cs = w ∨ cs = capital w) (more : Continues ws rest) :
      Continues (w :: ws) (gap ++ (cs ++ rest))
  | joined {w rest : List Char} {ws : List (List Char)} (isWord : IsWord w)
      (more : Continues ws rest) : Continues (w :: ws) (capital w ++ rest)

/-- **The text writes the words**, of which there is at least one. It may begin with a gap. -/
inductive Writes : List (List Char) → List Char → Prop
  | begin {gap cs w rest : List Char} {ws : List (List Char)} (isGap : IsGap gap) (isWord : IsWord w)
      (stands : cs = w ∨ cs = capital w) (more : Continues ws rest) :
      Writes (w :: ws) (gap ++ (cs ++ rest))

/-! ## Words -/

namespace IsWord

variable (hw : IsWord w)

include hw

theorem exists_cons : ∃ c d tail, w = c :: d :: tail := by
  match w, hw.two_le_length with
  | c :: d :: tail, _ => exact ⟨c, d, tail, rfl⟩

theorem isPiece : IsPiece w := by
  obtain ⟨c, d, tail, rfl⟩ := hw.exists_cons
  exact .letters hw.isLower

theorem isAlphanum_of_stands (hcs : cs = w ∨ cs = capital w) : ∀ c ∈ cs, c.isAlphanum = true := by
  have hall := hw.isPiece.isAlphanum
  rw [List.forall_mem_append] at hall
  rcases hcs with rfl | rfl
  · exact hall.1
  · exact hall.2

theorem spellings_of_stands (hcs : cs = w ∨ cs = capital w) :
    lowerWord (cs.map fun c => [c]) = w ∧ capitalWord (cs.map fun c => [c]) = capital w := by
  have hascii : ∀ c ∈ cs, isAscii c = true :=
    fun c hc => isAscii_of_isAlphanum (hw.isAlphanum_of_stands hcs c hc)
  have hlower : cs.map asciiLowerChar = w := by
    rcases hcs with rfl | rfl
    · exact hw.isPiece.map_asciiLowerChar.1
    · exact hw.isPiece.map_asciiLowerChar.2
  rw [lowerWord_singletons hascii, capitalWord_singletons hascii, hlower]
  exact ⟨rfl, rfl⟩

end IsWord

/-! ## Letters -/

theorem isUpper_eq_false_of_isLower (h : c.isLower = true) : c.isUpper = false := by
  rw [Bool.eq_false_iff]
  intro hupper
  rw [(isLower_eq_false_of_isUpper hupper).1] at h
  cases h

theorem isSeparator_eq_false_of_isAlpha (h : c.isAlpha = true) : isSeparator [c] = false := by
  rw [Bool.eq_false_iff]
  intro hsep
  simp only [isSeparator, List.cons.injEq, and_true, Bool.or_eq_true, decide_eq_true_eq] at hsep
  rcases hsep with (rfl | rfl) | rfl <;> revert h <;> decide

theorem endsWord_singletons (hc : isAscii c = true) (hd : isAscii d = true) (gs : List Cluster) :
    endsWord [c] ([d] :: gs) = (c.isLower && d.isUpper
      || c.isUpper && d.isUpper && gs.head?.any isLower
      || (c.isLower || c.isUpper) && d.isDigit
      || c.isDigit && (d.isLower || d.isUpper)) := by
  obtain ⟨hcu, hcl, hcd⟩ := kinds_singleton hc
  obtain ⟨hdu, hdl, hdd⟩ := kinds_singleton hd
  rw [endsWord, hcu, hcl, hcd, hdu, hdl, hdd]

theorem endsWord_of_isLower (hc : c.isAlpha = true) (hd : d.isLower = true) (gs : List Cluster) :
    endsWord [c] ([d] :: gs) = false := by
  rw [endsWord_singletons (isAscii_of_isAlpha hc) (isAscii_of_isLower hd)]
  simp [isUpper_eq_false_of_isLower hd, isDigit_eq_false_of_isLower hd,
    (isLower_asciiLowerChar hc).1]

theorem endsWord_of_isUpper (hc : c.isLower = true) (hd : d.isUpper = true) (gs : List Cluster) :
    endsWord [c] ([d] :: gs) = true := by
  have halpha : d.isAlpha = true := isAlpha_iff.2 (.inl hd)
  rw [endsWord_singletons (isAscii_of_isLower hc) (isAscii_of_isAlpha halpha)]
  simp [hc, hd]

theorem endsWord_of_isSeparator (hc : c.isAlpha = true) (hd : isSeparator [d] = true)
    (gs : List Cluster) : endsWord [c] ([d] :: gs) = false := by
  have hmarks : isAscii d = true ∧ d.isUpper = false ∧ d.isLower = false ∧ d.isDigit = false := by
    simp only [isSeparator, List.cons.injEq, and_true, Bool.or_eq_true, decide_eq_true_eq] at hd
    rcases hd with (rfl | rfl) | rfl <;> decide
  obtain ⟨hascii, hupper, hlower, hdigit⟩ := hmarks
  rw [endsWord_singletons (isAscii_of_isAlpha hc) hascii]
  simp [hupper, hlower, hdigit]

/-! ## Words cut off -/

/-- **A word is cut off before the text**: it is at its end, or goes on with a separator or a
capital. -/
def CutsOff (rest : List Char) : Prop :=
  ∀ d ∈ rest.head?, isSeparator [d] = true ∨ d.isUpper = true

theorem wordsFrom_of_isLower {word : List Cluster} (hne : cs ≠ [])
    (hcs : ∀ c ∈ cs, c.isLower = true) (hrest : CutsOff rest) :
    wordsFrom word ((cs ++ rest).map fun c => [c])
      = (word ++ cs.map fun c => [c]) :: wordsFrom [] (rest.map fun c => [c]) := by
  induction cs generalizing word with
  | nil => exact absurd rfl hne
  | cons c more ih =>
    obtain ⟨hc, hmore⟩ := List.forall_mem_cons.1 hcs
    have halpha : c.isAlpha = true := isAlpha_iff.2 (.inr hc)
    have hsep : ¬ isSeparator [c] = true := by simp [isSeparator_eq_false_of_isAlpha halpha]
    rw [List.cons_append, List.map_cons, wordsFrom, if_neg hsep]
    cases more with
    | cons d tail =>
      have hd : d.isLower = true := hmore d List.mem_cons_self
      have hends : ¬ endsWord [c] (((d :: tail) ++ rest).map fun c => [c]) = true := by
        rw [List.cons_append, List.map_cons, endsWord_of_isLower halpha hd]
        exact Bool.false_ne_true
      rw [if_neg hends, ih (List.cons_ne_nil d tail) hmore]
      simp
    | nil =>
      rw [List.nil_append]
      cases rest with
      | nil => simp [wordsFrom, endsWord]
      | cons d tail =>
        rcases hrest d rfl with hd | hd
        · simp [wordsFrom, endsWord_of_isSeparator halpha hd, hd]
        · simp [endsWord_of_isUpper hc hd]

/-- **A word is cut off** where the text goes on, whether it stands with a capital or not. -/
theorem wordsFrom_stands (hw : IsWord w) (hcs : cs = w ∨ cs = capital w) (hrest : CutsOff rest) :
    wordsFrom [] ((cs ++ rest).map fun c => [c])
      = (cs.map fun c => [c]) :: wordsFrom [] (rest.map fun c => [c]) := by
  obtain ⟨c, d, tail, rfl⟩ := hw.exists_cons
  rcases hcs with rfl | rfl
  · exact wordsFrom_of_isLower (List.cons_ne_nil _ _) hw.isLower hrest
  · obtain ⟨hc, htail⟩ := List.forall_mem_cons.1 hw.isLower
    have hd : d.isLower = true := htail d List.mem_cons_self
    have halpha : (asciiUpperChar c).isAlpha = true :=
      isAlpha_iff.2 (.inl (asciiUpperChar_of_isLower hc).1)
    have hsep : ¬ isSeparator [asciiUpperChar c] = true := by
      simp [isSeparator_eq_false_of_isAlpha halpha]
    have hends : ¬ endsWord [asciiUpperChar c] (((d :: tail) ++ rest).map fun c => [c]) = true := by
      rw [List.cons_append, List.map_cons, endsWord_of_isLower halpha hd]
      exact Bool.false_ne_true
    rw [capital, List.cons_append, List.map_cons, wordsFrom, if_neg hsep, if_neg hends,
      wordsFrom_of_isLower (List.cons_ne_nil _ _) htail hrest]
    rfl

theorem IsGap.isSeparator (h : IsGap gap) : ∀ c ∈ gap, Identifier.isSeparator [c] = true := by
  intro c hc
  rcases h c hc with rfl | rfl | rfl <;> rfl

theorem wordsFrom_gap (h : IsGap gap) (cs : List Char) :
    wordsFrom [] ((gap ++ cs).map fun c => [c]) = wordsFrom [] (cs.map fun c => [c]) := by
  have hsep := h.isSeparator
  clear h
  induction gap with
  | nil => rfl
  | cons c rest ih =>
    obtain ⟨hc, hrest⟩ := List.forall_mem_cons.1 hsep
    rw [List.cons_append, List.map_cons, wordsFrom, if_pos hc]
    exact ih hrest

namespace Continues

theorem cutsOff (h : Continues ws rest) : CutsOff rest := by
  cases h with
  | finish hgap => exact fun d hd => .inl (hgap.isSeparator d (List.mem_of_mem_head? hd))
  | apart hgap hne =>
    obtain ⟨c, more, rfl⟩ := List.exists_cons_of_ne_nil hne
    rintro d ⟨⟩
    exact .inl (hgap.isSeparator c List.mem_cons_self)
  | joined hw =>
    obtain ⟨c, d, tail, rfl⟩ := hw.exists_cons
    rintro d ⟨⟩
    exact .inr (asciiUpperChar_of_isLower (hw.isLower c List.mem_cons_self)).1

theorem isPlain (h : Continues ws rest) : IsPlain rest := by
  induction h with
  | finish hgap => exact fun c hc => .inr (hgap.isSeparator c hc)
  | apart hgap _ hw hcs _ ih =>
    unfold IsPlain
    rw [List.forall_mem_append, List.forall_mem_append]
    exact ⟨fun c hc => .inr (hgap.isSeparator c hc),
      fun c hc => .inl (hw.isAlphanum_of_stands hcs c hc), ih⟩
  | joined hw _ ih =>
    unfold IsPlain
    rw [List.forall_mem_append]
    exact ⟨fun c hc => .inl (hw.isAlphanum_of_stands (.inr rfl) c hc), ih⟩

theorem isWord (h : Continues ws rest) : ∀ w ∈ ws, IsWord w := by
  induction h with
  | finish => exact List.forall_mem_nil _
  | apart _ _ hw _ _ ih => exact List.forall_mem_cons.2 ⟨hw, ih⟩
  | joined hw _ ih => exact List.forall_mem_cons.2 ⟨hw, ih⟩

theorem words_eq (h : Continues ws rest) :
    (wordsFrom [] (rest.map fun c => [c])).map lowerWord = ws ∧
      (wordsFrom [] (rest.map fun c => [c])).map capitalWord = ws.map capital := by
  induction h with
  | @finish gap hgap =>
    have hnone := wordsFrom_gap hgap []
    rw [List.append_nil] at hnone
    rw [hnone]
    exact ⟨rfl, rfl⟩
  | apart hgap _ hw hcs hmore ih =>
    obtain ⟨hlower, hcapital⟩ := hw.spellings_of_stands hcs
    rw [wordsFrom_gap hgap, wordsFrom_stands hw hcs hmore.cutsOff, List.map_cons, List.map_cons,
      hlower, hcapital, ih.1, ih.2]
    exact ⟨rfl, rfl⟩
  | joined hw hmore ih =>
    obtain ⟨hlower, hcapital⟩ := hw.spellings_of_stands (.inr rfl)
    rw [wordsFrom_stands hw (.inr rfl) hmore.cutsOff, List.map_cons, List.map_cons, hlower,
      hcapital, ih.1, ih.2]
    exact ⟨rfl, rfl⟩

end Continues

namespace Writes

theorem continues (h : Writes ws name) : Continues ws ('_' :: name) := by
  cases h with
  | begin hgap hw hcs hmore =>
    exact .apart (List.forall_mem_cons.2 ⟨.inl rfl, hgap⟩) (List.cons_ne_nil _ _) hw hcs hmore

theorem words_eq (h : Writes ws name) :
    (words name).map lowerWord = ws ∧ (words name).map capitalWord = ws.map capital := by
  have hplain : IsPlain name := fun c hc => h.continues.isPlain c (List.mem_cons_of_mem _ hc)
  have hmark : IsGap ['_'] := List.forall_mem_singleton.2 (.inl rfl)
  rw [words, hplain.clusters_eq, ← wordsFrom_gap hmark]
  exact h.continues.words_eq

end Writes

/-! ## Spellings -/

theorem writes_camel (hw : IsWord w) (hws : ∀ v ∈ ws, IsWord v) :
    Writes (w :: ws) (w ++ ws.flatMap capital) := by
  have hmore : Continues ws (ws.flatMap capital) := by
    induction ws with
    | nil => exact .finish (List.forall_mem_nil _)
    | cons v rest ih =>
      obtain ⟨hv, hrest⟩ := List.forall_mem_cons.1 hws
      exact .joined hv (ih hrest)
  exact .begin (List.forall_mem_nil _) hw (.inl rfl) hmore

theorem writes_snake (hw : IsWord w) (hws : ∀ v ∈ ws, IsWord v) :
    Writes (w :: ws) (['_'].intercalate (w :: ws)) := by
  have hmark : IsGap ['_'] := List.forall_mem_singleton.2 (.inl rfl)
  obtain ⟨rest, hrest, hmore⟩ : ∃ rest, ['_'].intercalate (w :: ws) = w ++ rest ∧
      Continues ws rest := by
    induction ws generalizing w with
    | nil => exact ⟨[], by simp, .finish (List.forall_mem_nil _)⟩
    | cons v more ih =>
      obtain ⟨hv, hmore⟩ := List.forall_mem_cons.1 hws
      obtain ⟨rest, hrest, hcontinues⟩ := ih hv hmore
      refine ⟨['_'] ++ (v ++ rest), ?_, .apart hmark (List.cons_ne_nil _ _) hv (.inl rfl) hcontinues⟩
      rw [List.intercalate_cons_cons, hrest, List.append_assoc]
  rw [hrest]
  exact .begin (List.forall_mem_nil _) hw (.inl rfl) hmore

section Spellings

variable {x : String} (h : Writes (w :: ws) x.toList)

include h

theorem toList_camel_of_writes : (camel x).toList = w ++ ws.flatMap capital := by
  obtain ⟨hlower, hcapital⟩ := h.words_eq
  obtain ⟨g, gs, hwords, hg, -⟩ := List.map_eq_cons_iff.1 hlower
  rw [hwords, List.map_cons, List.map_cons, List.cons.injEq] at hcapital
  rw [camel, String.toList_ofList, camelChars, hwords]
  dsimp only
  rw [hg, List.flatMap_def, hcapital.2, ← List.flatMap_def]

theorem toList_snake_of_writes : (snake x).toList = ['_'].intercalate (w :: ws) := by
  rw [snake, String.toList_ofList, h.words_eq.1]

theorem toList_pascal_of_writes : (pascal x).toList = (w :: ws).flatMap capital := by
  have hw : IsWord w := h.continues.isWord w List.mem_cons_self
  obtain ⟨c, d, tail, rfl⟩ := hw.exists_cons
  have hupper : upperChar c = [asciiUpperChar c] :=
    if_pos (isAscii_of_isLower (hw.isLower c List.mem_cons_self))
  rw [pascal, upperFirst, String.toList_ofList, toList_camel_of_writes h, List.cons_append,
    upperFirstChars, hupper]
  rfl

end Spellings

/-- **The spellings of a name are those of its words**, however it is written. Camel case and snake
case are two ways to write it, and so each of them leads to the other. -/
theorem spellings_of_writes {x : String} (h : Writes (w :: ws) x.toList) :
    (camel x).toList = w ++ ws.flatMap capital ∧
      (snake x).toList = ['_'].intercalate (w :: ws) ∧
      (pascal x).toList = (w :: ws).flatMap capital ∧
      snake (camel x) = snake x ∧ camel (snake x) = camel x := by
  obtain ⟨hw, hws⟩ := List.forall_mem_cons.1 h.continues.isWord
  have hcamel := toList_camel_of_writes h
  have hsnake := toList_snake_of_writes h
  have hwrites_camel : Writes (w :: ws) (camel x).toList := hcamel ▸ writes_camel hw hws
  have hwrites_snake : Writes (w :: ws) (snake x).toList := hsnake ▸ writes_snake hw hws
  refine ⟨hcamel, hsnake, toList_pascal_of_writes h, ?_, ?_⟩
  · rw [← String.toList_inj, toList_snake_of_writes hwrites_camel, hsnake]
  · rw [← String.toList_inj, toList_camel_of_writes hwrites_snake, hcamel]

/-- Words set apart in several ways, with a gap at either end. -/
theorem spellings_of_blog_post :
    let words := ["blog".toList, "post".toList, "tag".toList, "list".toList]
    let x := " BlogPost_- tag-List_"
    Writes words x.toList ∧ camel x = "blogPostTagList" ∧ snake (camel x) = snake x ∧
      camel (snake x) = camel x := by
  intro words x
  have hwords : IsWord "blog".toList ∧ IsWord "post".toList ∧ IsWord "tag".toList ∧
      IsWord "list".toList := by decide
  have hgaps : IsGap [' '] ∧ IsGap ['_', '-', ' '] ∧ IsGap ['-'] ∧ IsGap ['_'] := by decide
  obtain ⟨hblog, hpost, htag, hlist⟩ := hwords
  obtain ⟨hspace, hrun, hhyphen, hunderscore⟩ := hgaps
  have hend : Continues ["list".toList] "-List_".toList :=
    .apart hhyphen (by decide) hlist (.inr rfl) (.finish hunderscore)
  have hmore : Continues ["post".toList, "tag".toList, "list".toList] "Post_- tag-List_".toList :=
    .joined hpost (.apart hrun (by decide) htag (.inl rfl) hend)
  have hx : x.toList = [' '] ++ (capital "blog".toList ++ "Post_- tag-List_".toList) := by decide
  have h : Writes words x.toList := hx ▸ .begin hspace hblog (.inr rfl) hmore
  obtain ⟨hcamel, -, -, hsnake_camel, hcamel_snake⟩ := spellings_of_writes h
  exact ⟨h, String.toList_inj.1 hcamel, hsnake_camel, hcamel_snake⟩

end Groundwork.Identifier
