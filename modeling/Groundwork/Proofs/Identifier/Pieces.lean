import Groundwork.Proofs.Identifier.Ascii
import Mathlib.Data.List.SplitBy
import Mathlib.Data.Set.List

/-!
# The pieces of a name

Two names may have one camel case: `foo_bar` and `fooBar`, or `x_1` and `x1`. Of a name of ASCII
letters, digits and separators its camel case tells the words of letters, up to their case, and the
digits, but not how the digits were divided into words.

* `pieces`: the words of letters in lower case, and the digits one by one.
* `spelled`: camel case, made of pieces.
* **`pieces_of_camelChars`**: the pieces of a name are read back from its camel case.
* **`camel_eq_camel_iff`**: two names have one camel case exactly when they have the same pieces.
-/

namespace Groundwork.Identifier

open Text

variable {c : Char} {cs name : List Char} {word gs w : List Cluster}

/-! ## What a word holds together -/

/-- **No word ends between the two**, for one continuation at least. -/
def Joined (g h : Cluster) : Prop := ∃ rest, endsWord g (h :: rest) = false

/-- The word so far holds together, also with a cluster that follows and is no separator. -/
structure HoldsTogether (word gs : List Cluster) : Prop where
  chain : word.IsChain Joined
  next : ∀ g ∈ word.getLast?, ∀ h ∈ gs.head?, isSeparator h = false → Joined g h

theorem holdsTogether_nil (gs : List Cluster) : HoldsTogether [] gs :=
  ⟨List.isChain_nil, fun _ hg => by cases hg⟩

theorem isChain_of_mem_wordsFrom (hword : HoldsTogether word gs) (h : w ∈ wordsFrom word gs) :
    w.IsChain Joined := by
  induction gs generalizing word with
  | nil =>
    rw [wordsFrom] at h
    split_ifs at h
    · cases h
    · exact List.mem_singleton.1 h ▸ hword.chain
  | cons g rest ih =>
    have hlonger (hsep : ¬ isSeparator g = true) : (word ++ [g]).IsChain Joined :=
      List.isChain_append.2 ⟨hword.chain, List.isChain_singleton _, fun l hl h hh => by
        obtain rfl : g = h := by simpa using hh
        exact hword.next l hl g rfl (by simpa using hsep)⟩
    rw [wordsFrom] at h
    split_ifs at h with hsep hempty hends
    · exact ih (holdsTogether_nil rest) h
    · rcases List.mem_cons.1 h with rfl | h
      · exact hword.chain
      · exact ih (holdsTogether_nil rest) h
    · rcases List.mem_cons.1 h with rfl | h
      · exact hlonger hsep
      · exact ih (holdsTogether_nil rest) h
    · refine ih ⟨hlonger hsep, fun l hl d hd _ => ?_⟩ h
      obtain rfl : g = l := by simpa using hl
      obtain ⟨tail, rfl⟩ := List.head?_eq_some_iff.1 hd
      exact ⟨tail, by simpa using hends⟩

theorem isChain_of_mem_words (h : w ∈ words name) : w.IsChain Joined :=
  isChain_of_mem_wordsFrom (holdsTogether_nil _) h

/-! ## Plain names -/

/-- **A plain name** is made of ASCII letters and digits and of separators. -/
def IsPlain (name : List Char) : Prop :=
  ∀ c ∈ name, c.isAlphanum = true ∨ isSeparator [c] = true

instance (name : List Char) : Decidable (IsPlain name) :=
  decidable_of_iff (name.all fun c => c.isAlphanum || isSeparator [c]) (by simp [IsPlain])

theorem IsPlain.clusters_eq (h : IsPlain name) : clusters name = name.map fun c => [c] := by
  have hascii : ∀ c ∈ name, isAscii c = true ∧ c ≠ '\r' := by
    intro c hc
    rcases h c hc with halnum | hsep
    · exact ⟨isAscii_of_isAlphanum halnum, fun heq => absurd (heq ▸ halnum) (by decide)⟩
    · simp only [isSeparator, List.cons.injEq, and_true, Bool.or_eq_true, decide_eq_true_eq] at hsep
      rcases hsep with (rfl | rfl) | rfl <;> decide
  exact clusters_of_isAscii (fun c hc => (hascii c hc).1) fun hmem => (hascii _ hmem).2 rfl

/-- The characters of a word of a plain name: letters or digits. -/
def IsSpelling (cs : List Char) : Prop :=
  cs ≠ [] ∧ ((∀ c ∈ cs, c.isAlpha = true) ∨ ∀ c ∈ cs, c.isDigit = true)

theorem isDigit_eq_of_joined {c d : Char} (hc : c.isAlphanum = true) (hd : d.isAlphanum = true)
    (h : Joined [c] [d]) : c.isDigit = d.isDigit := by
  obtain ⟨rest, h⟩ := h
  obtain ⟨hcu, hcl, hcd⟩ := kinds_singleton (isAscii_of_isAlphanum hc)
  obtain ⟨hdu, hdl, hdd⟩ := kinds_singleton (isAscii_of_isAlphanum hd)
  simp only [endsWord, hcu, hcl, hcd, hdu, hdl, hdd] at h
  simp only [isAlphanum_iff, isAlpha_iff] at hc hd
  cases hcdigit : c.isDigit <;> cases hddigit : d.isDigit <;> simp_all

theorem IsPlain.exists_spelling (h : IsPlain name) (hw : w ∈ words name) :
    ∃ cs, w = cs.map (fun c => [c]) ∧ IsSpelling cs := by
  have hmem : ∀ g ∈ w, ∃ c, c.isAlphanum = true ∧ [c] = g := by
    intro g hg
    obtain ⟨hcluster, hsep⟩ := mem_of_mem_words hw hg
    rw [h.clusters_eq] at hcluster
    obtain ⟨c, hc, rfl⟩ := List.mem_map.1 hcluster
    exact ⟨c, (h c hc).resolve_right (by simp [hsep]), rfl⟩
  have hrange : w ∈ Set.range (List.map fun c : Char => [c]) := by
    rw [Set.range_list_map]
    exact fun g hg => (hmem g hg).imp fun _ => And.right
  obtain ⟨cs, rfl⟩ := hrange
  have hne : cs ≠ [] := by simpa using ne_nil_of_mem_words hw
  have halnum : ∀ c ∈ cs, c.isAlphanum = true := by simpa using hmem
  have hchain : cs.IsChain fun c d => c.isDigit = d.isDigit :=
    ((List.isChain_map _).1 (isChain_of_mem_words hw)).imp_of_mem_imp fun c d hc hd =>
      isDigit_eq_of_joined (halnum c hc) (halnum d hd)
  refine ⟨cs, rfl, hne, ?_⟩
  obtain ⟨c, rest, rfl⟩ := List.exists_cons_of_ne_nil hne
  have : IsTrans Char fun c d => c.isDigit = d.isDigit := ⟨fun _ _ _ => Eq.trans⟩
  have hall : ∀ d ∈ c :: rest, c.isDigit = d.isDigit :=
    List.forall_mem_cons.2 ⟨rfl, fun d hd => hchain.rel_cons hd⟩
  -- all are digits, or none is and so all are letters
  cases hdigit : c.isDigit with
  | true => exact .inr fun d hd => (hall d hd).symm.trans hdigit
  | false =>
    refine .inl fun d hd => (Bool.or_eq_true_iff.1 (halnum d hd)).resolve_right ?_
    rw [← hall d hd, hdigit]
    exact Bool.false_ne_true

/-! ## Pieces -/

/-- **The pieces of a word**: its digits one by one, or the word in lower case. -/
def wordPieces (word : List Cluster) : List (List Char) :=
  if word.all isDigit then word else [lowerWord word]

/-- **The pieces of a name**: its words of letters in lower case, and its digits one by one. -/
def pieces (name : List Char) : List (List Char) := (words name).flatMap wordPieces

/-- **A piece** of a plain name. -/
inductive IsPiece : List Char → Prop
  | digit {d : Char} (isDigit : d.isDigit = true) : IsPiece [d]
  | letters {c : Char} {rest : List Char} (isLower : ∀ d ∈ c :: rest, d.isLower = true) :
      IsPiece (c :: rest)

/-- A piece with its first character in upper case. -/
def capital : List Char → List Char
  | [] => []
  | c :: rest => asciiUpperChar c :: rest

/-- **Pieces as they stand in camel case**: all but the first with a capital. -/
def spelled : List (List Char) → List (List Char)
  | [] => []
  | p :: ps => p :: ps.map capital

theorem map_eq_self {α : Type} {f : α → α} {l : List α} (h : ∀ a ∈ l, f a = a) : l.map f = l :=
  (List.map_congr_left h).trans (List.map_id' l)

theorem spelled_append {ps : List (List Char)} (h : ps ≠ []) (qs : List (List Char)) :
    spelled (ps ++ qs) = spelled ps ++ qs.map capital := by
  obtain ⟨p, rest, rfl⟩ := List.exists_cons_of_ne_nil h
  simp [spelled]

theorem spelled_of_map_capital {ps : List (List Char)} (h : ps.map capital = ps) :
    spelled ps = ps := by
  cases ps with
  | nil => rfl
  | cons p rest => rw [spelled, (List.cons.inj h).2]

/-- **What the pieces of a word spell**: the word at the beginning of a name, and after it. -/
structure Spells (word : List Cluster) (ps : List (List Char)) : Prop where
  isPiece : ∀ p ∈ ps, IsPiece p
  first : (spelled ps).flatten = lowerWord word
  later : (ps.map capital).flatten = capitalWord word

section Spelling

variable (h : ∀ c ∈ cs, isAscii c = true)

include h

theorem lowerWord_singletons : lowerWord (cs.map fun c => [c]) = cs.map asciiLowerChar := by
  rw [lowerWord, ← List.flatMap_def, List.flatMap_singleton', lower_of_isAscii h]

theorem capitalWord_singletons :
    capitalWord (cs.map fun c => [c]) = capital (cs.map asciiLowerChar) := by
  cases cs with
  | nil => rfl
  | cons c rest =>
    obtain ⟨hc, hrest⟩ := List.forall_mem_cons.1 h
    have hupper : upper [c] = [asciiUpperChar c] := upper_of_isAscii (by simpa using hc)
    rw [List.map_cons, capitalWord, hupper, List.map_cons, capital,
      asciiUpperChar_asciiLowerChar hc, ← List.flatMap_def, List.flatMap_singleton',
      lower_of_isAscii hrest]
    rfl

end Spelling

theorem spells_of_isAlpha (hne : cs ≠ []) (h : ∀ c ∈ cs, c.isAlpha = true) :
    Spells (cs.map fun c => [c]) (wordPieces (cs.map fun c => [c])) := by
  have hascii : ∀ c ∈ cs, isAscii c = true := fun c hc => isAscii_of_isAlpha (h c hc)
  have hpieces : wordPieces (cs.map fun c => [c]) = [cs.map asciiLowerChar] := by
    obtain ⟨c, rest, rfl⟩ := List.exists_cons_of_ne_nil hne
    have hdigit : isDigit [c] = false := by
      rw [(kinds_singleton (hascii c List.mem_cons_self)).2.2,
        (isLower_asciiLowerChar (h c List.mem_cons_self)).1]
    rw [wordPieces, if_neg (by simp [hdigit]), lowerWord_singletons hascii]
  have hpiece : IsPiece (cs.map asciiLowerChar) := by
    have hlower : ∀ d ∈ cs.map asciiLowerChar, d.isLower = true :=
      List.forall_mem_map.2 fun c hc => (isLower_asciiLowerChar (h c hc)).2
    obtain ⟨c, rest, rfl⟩ := List.exists_cons_of_ne_nil hne
    exact .letters hlower
  rw [hpieces]
  refine ⟨List.forall_mem_singleton.2 hpiece, ?_, ?_⟩
  · rw [lowerWord_singletons hascii]
    exact List.flatten_singleton
  · rw [capitalWord_singletons hascii]
    exact List.flatten_singleton

theorem spells_of_isDigit (h : ∀ c ∈ cs, c.isDigit = true) :
    Spells (cs.map fun c => [c]) (wordPieces (cs.map fun c => [c])) := by
  have hascii : ∀ c ∈ cs, isAscii c = true := fun c hc => isAscii_of_isDigit (h c hc)
  have hpieces : wordPieces (cs.map fun c => [c]) = cs.map fun c => [c] := by
    refine if_pos (List.all_eq_true.2 (List.forall_mem_map.2 fun c hc => ?_))
    rw [(kinds_singleton (hascii c hc)).2.2, h c hc]
  have hcapital : (cs.map fun c => [c]).map capital = cs.map fun c => [c] := by
    refine map_eq_self (List.forall_mem_map.2 fun c hc => ?_)
    rw [capital, (asciiUpperChar_of_isDigit (h c hc)).2.1]
  have hlower : cs.map asciiLowerChar = cs :=
    map_eq_self fun c hc => (asciiUpperChar_of_isDigit (h c hc)).2.2
  have hflatten : (cs.map fun c => [c]).flatten = cs := by
    rw [← List.flatMap_def, List.flatMap_singleton']
  have hcapitalword : capital cs = cs := by
    cases cs with
    | nil => rfl
    | cons c rest => rw [capital, (asciiUpperChar_of_isDigit (h c List.mem_cons_self)).2.1]
  rw [hpieces]
  refine ⟨List.forall_mem_map.2 fun c hc => .digit (h c hc), ?_, ?_⟩
  · rw [spelled_of_map_capital hcapital, hflatten, lowerWord_singletons hascii, hlower]
  · rw [hcapital, hflatten, capitalWord_singletons hascii, hlower, hcapitalword]

theorem spells_of_isSpelling (h : IsSpelling cs) :
    Spells (cs.map fun c => [c]) (wordPieces (cs.map fun c => [c])) :=
  h.2.elim (spells_of_isAlpha h.1) spells_of_isDigit

theorem IsPlain.spells (h : IsPlain name) (hw : w ∈ words name) : Spells w (wordPieces w) := by
  obtain ⟨cs, rfl, hspelling⟩ := h.exists_spelling hw
  exact spells_of_isSpelling hspelling

theorem IsPlain.isPiece_of_mem_pieces (h : IsPlain name) {p : List Char} (hp : p ∈ pieces name) :
    IsPiece p := by
  obtain ⟨w, hw, hp⟩ := List.mem_flatMap.1 hp
  exact (h.spells hw).isPiece p hp

theorem IsPlain.flatten_spelled (h : IsPlain name) :
    (spelled (pieces name)).flatten = camelChars name := by
  unfold pieces camelChars
  cases hwords : words name with
  | nil => rfl
  | cons first others =>
    have hmem {w : List Cluster} (hw : w ∈ first :: others) : Spells w (wordPieces w) :=
      h.spells (hwords ▸ hw)
    have hfirst : Spells first (wordPieces first) := hmem List.mem_cons_self
    have hne : wordPieces first ≠ [] := by
      intro hnil
      have hlower : lowerWord first = [] := by rw [← hfirst.first, hnil]; rfl
      exact lowerWord_ne_nil (hwords ▸ List.mem_cons_self) hlower
    have hothers : ((others.flatMap wordPieces).map capital).flatten
        = others.flatMap capitalWord := by
      rw [← List.flatMap_def, List.flatMap_assoc]
      refine List.flatMap_congr fun w hw => ?_
      rw [List.flatMap_def, (hmem (List.mem_cons_of_mem _ hw)).later]
    rw [List.flatMap_cons, spelled_append hne, List.flatten_append, hfirst.first, hothers]

theorem IsPiece.isAlphanum {p : List Char} (h : IsPiece p) :
    ∀ c ∈ p ++ capital p, c.isAlphanum = true := by
  cases h with
  | digit hdigit =>
    rw [capital, (asciiUpperChar_of_isDigit hdigit).2.1]
    simp [isAlphanum_iff, hdigit]
  | letters hlower =>
    obtain ⟨hc, hrest⟩ := List.forall_mem_cons.1 hlower
    have hupper := (asciiUpperChar_of_isLower hc).1
    simp only [capital, List.forall_mem_append, List.forall_mem_cons]
    simp +contextual [isAlphanum_iff, isAlpha_iff, hc, hrest, hupper]

theorem IsPlain.isAlphanum_of_mem_camelChars (h : IsPlain name) (hc : c ∈ camelChars name) :
    c.isAlphanum = true := by
  have hspelled : ∀ q ∈ spelled (pieces name), ∃ p, IsPiece p ∧ q ⊆ p ++ capital p := by
    have hpieces : ∀ p ∈ pieces name, IsPiece p := fun _ => h.isPiece_of_mem_pieces
    cases hps : pieces name with
    | nil => exact List.forall_mem_nil _
    | cons p rest =>
      rw [hps] at hpieces
      refine List.forall_mem_cons.2 ⟨⟨p, hpieces p List.mem_cons_self, by simp⟩, ?_⟩
      exact List.forall_mem_map.2 fun q hq => ⟨q, hpieces q (List.mem_cons_of_mem _ hq), by simp⟩
  rw [← h.flatten_spelled] at hc
  obtain ⟨q, hq, hcq⟩ := List.mem_flatten.1 hc
  obtain ⟨p, hp, hsub⟩ := hspelled q hq
  exact hp.isAlphanum c (hsub hcq)

/-! ## Reading the pieces back -/

/-- In camel case a letter in lower case continues a word of letters, and nothing else does. -/
def continuesWord (c d : Char) : Bool := !c.isDigit && d.isLower

variable {p : List Char} {ps : List (List Char)}

theorem isChain_continuesWord (hc : c.isDigit = false) (h : ∀ d ∈ cs, d.isLower = true) :
    (c :: cs).IsChain fun c d => continuesWord c d = true := by
  induction cs generalizing c with
  | nil => exact List.isChain_singleton c
  | cons d rest ih =>
    obtain ⟨hd, hrest⟩ := List.forall_mem_cons.1 h
    exact List.isChain_cons_cons.2
      ⟨by simp [continuesWord, hc, hd], ih (isDigit_eq_false_of_isLower hd) hrest⟩

theorem IsPiece.isChain (h : IsPiece p) :
    p ≠ [] ∧ p.IsChain fun c d => continuesWord c d = true := by
  cases h with
  | digit => exact ⟨List.cons_ne_nil _ _, List.isChain_singleton _⟩
  | letters hlower =>
    obtain ⟨hc, hrest⟩ := List.forall_mem_cons.1 hlower
    exact ⟨List.cons_ne_nil _ _, isChain_continuesWord (isDigit_eq_false_of_isLower hc) hrest⟩

theorem IsPiece.isChain_capital (h : IsPiece p) :
    (∃ d rest, capital p = d :: rest ∧ d.isLower = false) ∧
      (capital p).IsChain fun c d => continuesWord c d = true := by
  cases h with
  | digit hdigit =>
    obtain ⟨hlower, hupper, -⟩ := asciiUpperChar_of_isDigit hdigit
    rw [capital, hupper]
    exact ⟨⟨_, _, rfl, hlower⟩, List.isChain_singleton _⟩
  | letters hlower =>
    obtain ⟨hc, hrest⟩ := List.forall_mem_cons.1 hlower
    obtain ⟨hnot, hdigit⟩ := isLower_eq_false_of_isUpper (asciiUpperChar_of_isLower hc).1
    exact ⟨⟨_, _, rfl, hnot⟩, isChain_continuesWord hdigit hrest⟩

theorem IsPiece.map_asciiLowerChar (h : IsPiece p) :
    p.map asciiLowerChar = p ∧ (capital p).map asciiLowerChar = p := by
  cases h with
  | digit hdigit =>
    obtain ⟨-, hupper, hlower⟩ := asciiUpperChar_of_isDigit hdigit
    simp [capital, hupper, hlower]
  | @letters c rest hlower =>
    obtain ⟨hc, hrest⟩ := List.forall_mem_cons.1 hlower
    obtain ⟨-, hback, hsame⟩ := asciiUpperChar_of_isLower hc
    have hrestsame : rest.map asciiLowerChar = rest :=
      map_eq_self fun d hd => (asciiUpperChar_of_isLower (hrest d hd)).2.2
    rw [capital, List.map_cons, List.map_cons, hback, hsame, hrestsame]
    exact ⟨rfl, rfl⟩

theorem splitBy_flatten_spelled (h : ∀ p ∈ ps, IsPiece p) :
    (spelled ps).flatten.splitBy continuesWord = spelled ps := by
  cases ps with
  | nil => rfl
  | cons p rest =>
    obtain ⟨hp, hrest⟩ := List.forall_mem_cons.1 h
    -- each part is one word, and none but the first begins with a letter in lower case
    have hcapital : ∀ q ∈ rest.map capital, (∃ d tail, q = d :: tail ∧ d.isLower = false) ∧
        q.IsChain fun c d => continuesWord c d = true :=
      List.forall_mem_map.2 fun q hq => (hrest q hq).isChain_capital
    have hne : ∀ q ∈ spelled (p :: rest), q ≠ [] := List.forall_mem_cons.2
      ⟨hp.isChain.1, fun q hq => by
        obtain ⟨⟨d, tail, rfl, -⟩, -⟩ := hcapital q hq
        exact List.cons_ne_nil d tail⟩
    have hcut : ∀ a ∈ spelled (p :: rest), ∀ b ∈ rest.map capital,
        ∃ ha hb, continuesWord (a.getLast ha) (b.head hb) = false := by
      intro a ha b hb
      obtain ⟨⟨d, tail, rfl, hd⟩, -⟩ := hcapital b hb
      exact ⟨hne a ha, List.cons_ne_nil d tail, by simp [continuesWord, hd]⟩
    refine List.splitBy_flatten (fun hnil => hne [] hnil rfl) ?_ (List.Pairwise.isChain ?_)
    · exact List.forall_mem_cons.2 ⟨hp.isChain.2, fun q hq => (hcapital q hq).2⟩
    · exact List.pairwise_cons.2 ⟨hcut p List.mem_cons_self,
        List.pairwise_of_forall_mem_list fun a ha => hcut a (List.mem_cons_of_mem _ ha)⟩

theorem map_asciiLower_spelled (h : ∀ p ∈ ps, IsPiece p) :
    (spelled ps).map (·.map asciiLowerChar) = ps := by
  cases ps with
  | nil => rfl
  | cons p rest =>
    obtain ⟨hp, hrest⟩ := List.forall_mem_cons.1 h
    have hback : (rest.map capital).map (·.map asciiLowerChar) = rest := by
      rw [List.map_map]
      exact map_eq_self fun q hq => (hrest q hq).map_asciiLowerChar.2
    rw [spelled, List.map_cons, hback, hp.map_asciiLowerChar.1]

/-- **The pieces of a plain name are read back** from its camel case. -/
theorem pieces_of_camelChars (h : IsPlain name) :
    ((camelChars name).splitBy continuesWord).map (·.map asciiLowerChar) = pieces name := by
  have hpieces : ∀ p ∈ pieces name, IsPiece p := fun _ => h.isPiece_of_mem_pieces
  rw [← h.flatten_spelled, splitBy_flatten_spelled hpieces, map_asciiLower_spelled hpieces]

/-- **Two plain names have one camel case** exactly when they have the same pieces. -/
theorem camel_eq_camel_iff {a b : String} (ha : IsPlain a.toList) (hb : IsPlain b.toList) :
    camel a = camel b ↔ pieces a.toList = pieces b.toList := by
  rw [camel, camel, String.ofList_inj]
  constructor
  · intro h
    rw [← pieces_of_camelChars ha, ← pieces_of_camelChars hb, h]
  · intro h
    rw [← ha.flatten_spelled, ← hb.flatten_spelled, h]

/-- How digits are divided into words is lost. -/
example : camel "item_1_2Name" = camel "ITEM12_name" := by decide

end Groundwork.Identifier
