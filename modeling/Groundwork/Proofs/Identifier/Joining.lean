import Groundwork.Proofs.Identifier.Casing
import Groundwork.Proofs.Layout.Columns

/-!
# Names set apart by a separator

No rule for the end of a word looks across a separator, whatever stands on its two sides. So the
words of two ASCII names with a separator between them are those of the one and then those of the
other, and a spelling of the whole is made of spellings of the parts.

* **`Identifier.words_append_separator`**: the words of two names, one after the other.
* `Identifier.pascalChars_of_isAscii`: Pascal case gives every word its capital, the first one too.
* **`Identifier.spellings_of_separated`**: camel case and Pascal case of the whole, and the class
  of a migration, which is called like its file.
-/

namespace Groundwork

namespace Text

variable {t : Tail} {c s : Char} {cs ds : List Char}

/-! ## Clusters -/

/-- **The classes of the ASCII characters.** -/
def IsAsciiClass (k : ClusterClass) : Prop := IsPlainClass k ∨ k = .carriageReturn

theorem isAsciiClass_clusterClass (hc : isAscii c = true) : IsAsciiClass (clusterClass c) := by
  by_cases hr : c = '\r'
  · exact .inr (if_pos hr)
  · exact .inl ((facts_of_isAscii hc).1 hr)

theorem eq_lineFeed_of_clusterClass (hc : isAscii c = true) (h : clusterClass c = .lineFeed) :
    c = '\n' := by
  revert h
  exact forall_isAscii hc (by decide +kernel)

theorem Tail.eq_of_joins (ht : IsAsciiClass t.last) (hc : isAscii c = true)
    (h : t.joins c = true) : t.last = .carriageReturn ∧ c = '\n' := by
  have hconsonant := (facts_of_isAscii hc).2.1
  have hclass : t.last = .carriageReturn ∧ clusterClass c = .lineFeed := by
    unfold Tail.joins at h
    rcases ht with (hlast | hlast | hlast) | hlast <;>
      rcases isAsciiClass_clusterClass hc with (hclass | hclass | hclass) | hclass <;>
        simp_all [ClusterClass.isBreak]
  exact ⟨hclass.1, eq_lineFeed_of_clusterClass hc hclass.2⟩

theorem clustersFrom_append_cons (hs : isAscii s = true) (hne : s ≠ '\n')
    (hcs : ∀ c ∈ cs, isAscii c = true) (ht : IsAsciiClass t.last) (openCluster : List Char) :
    clustersFrom t openCluster (cs ++ s :: ds)
      = clustersFrom t openCluster cs ++ clustersFrom (.start s) [s] ds := by
  induction cs generalizing t openCluster with
  | nil =>
    have hjoins : ¬ t.joins s = true := fun h => hne (Tail.eq_of_joins ht hs h).2
    exact if_neg hjoins
  | cons c rest ih =>
    obtain ⟨hc, hrest⟩ := List.forall_mem_cons.1 hcs
    have hclass : IsAsciiClass (clusterClass c) := isAsciiClass_clusterClass hc
    rw [List.cons_append, clustersFrom, clustersFrom]
    split
    · exact ih hrest hclass (c :: openCluster)
    · rw [ih hrest hclass [c], List.cons_append]

theorem clusters_append_cons (hs : isAscii s = true) (hne : s ≠ '\n') (hr : s ≠ '\r')
    (hcs : ∀ c ∈ cs, isAscii c = true) (hds : ∀ d ∈ ds, isAscii d = true) :
    clusters (cs ++ s :: ds) = clusters cs ++ [s] :: clusters ds := by
  have hclass : IsPlainClass (clusterClass s) := (facts_of_isAscii hs).1 hr
  have hright : clustersFrom (.start s) [s] ds = [s] :: clusters ds := by
    cases ds with
    | nil => rfl
    | cons d rest =>
      refine if_neg fun hjoins => ?_
      have hlast : clusterClass s = .carriageReturn :=
        (Tail.eq_of_joins (.inl hclass) (hds d List.mem_cons_self) hjoins).1
      rw [hlast] at hclass
      exact absurd hclass (by decide)
  rw [← hright]
  cases cs with
  | nil => rfl
  | cons c rest =>
    obtain ⟨hc, hrest⟩ := List.forall_mem_cons.1 hcs
    exact clustersFrom_append_cons hs hne hrest (isAsciiClass_clusterClass hc) [c]

theorem forall_mem_tail_of_mem_clustersFrom {openCluster g : List Char}
    (hcs : ∀ c ∈ cs, isAscii c = true) (ht : IsAsciiClass t.last) (hne : openCluster ≠ [])
    (hopen : ∀ d ∈ openCluster.dropLast, d = '\n') (hg : g ∈ clustersFrom t openCluster cs) :
    ∀ d ∈ g.tail, d = '\n' := by
  have hdone {o : List Char} (ho : ∀ d ∈ o.dropLast, d = '\n') :
      ∀ d ∈ o.reverse.tail, d = '\n' := by
    simpa [List.tail_reverse] using ho
  induction cs generalizing t openCluster with
  | nil =>
    rw [clustersFrom, List.mem_singleton] at hg
    exact hg ▸ hdone hopen
  | cons c rest ih =>
    obtain ⟨hc, hrest⟩ := List.forall_mem_cons.1 hcs
    have hclass : IsAsciiClass (clusterClass c) := isAsciiClass_clusterClass hc
    rw [clustersFrom] at hg
    split at hg
    · rename_i hjoins
      have hlonger : ∀ d ∈ (c :: openCluster).dropLast, d = '\n' := by
        rw [List.dropLast_cons_of_ne_nil hne]
        exact List.forall_mem_cons.2 ⟨(Tail.eq_of_joins ht hc hjoins).2, hopen⟩
      exact ih hrest hclass (List.cons_ne_nil _ _) hlonger hg
    · rcases List.mem_cons.1 hg with rfl | hg
      · exact hdone hopen
      · exact ih hrest hclass (List.cons_ne_nil _ _) (List.forall_mem_nil _) hg

end Text

open Text

namespace Identifier

variable {s : Char} {as bs : List Char}

/-! ## Words -/

theorem kinds_of_isSeparator {g : Cluster} (hg : isSeparator g = true) :
    isUpper g = false ∧ isLower g = false ∧ isDigit g = false := by
  simp only [isSeparator, Bool.or_eq_true, decide_eq_true_eq] at hg
  rcases hg with (rfl | rfl) | rfl <;> decide

theorem endsWord_append_separator {g : Cluster} (hg : isSeparator g = true) (d : Cluster)
    (gs hs : List Cluster) : endsWord d (gs ++ g :: hs) = endsWord d gs := by
  obtain ⟨hupper, hlower, hdigit⟩ := kinds_of_isSeparator hg
  match gs with
  | [] => simp [endsWord, hupper, hlower, hdigit]
  | [h] => simp [endsWord, hlower]
  | h :: h' :: rest => rfl

theorem wordsFrom_append_separator {g : Cluster} (hg : isSeparator g = true)
    (word gs hs : List Cluster) :
    wordsFrom word (gs ++ g :: hs) = wordsFrom word gs ++ wordsFrom [] hs := by
  induction gs generalizing word with
  | nil =>
    cases word with
    | nil => exact if_pos hg
    | cons => exact if_pos hg
  | cons d rest ih =>
    rw [List.cons_append, wordsFrom, wordsFrom, endsWord_append_separator hg]
    split_ifs <;> simp only [ih, List.cons_append]

theorem facts_of_isSeparator (hs : isSeparator [s] = true) :
    isAscii s = true ∧ s ≠ '\n' ∧ s ≠ '\r' := by
  simp only [isSeparator, List.cons.injEq, and_true, Bool.or_eq_true, decide_eq_true_eq] at hs
  rcases hs with (rfl | rfl) | rfl <;> decide

/-- **The words of two names** with a separator between them are those of the one and those of the
other. -/
theorem words_append_separator (hs : isSeparator [s] = true) (has : ∀ c ∈ as, isAscii c = true)
    (hbs : ∀ c ∈ bs, isAscii c = true) : words (as ++ s :: bs) = words as ++ words bs := by
  obtain ⟨hascii, hne, hr⟩ := facts_of_isSeparator hs
  rw [words, clusters_append_cons hascii hne hr has hbs, wordsFrom_append_separator hs]
  rfl

theorem words_ne_nil {c : Char} (hc : c ∈ as) (hsep : isSeparator [c] = false) :
    words as ≠ [] := by
  intro hnil
  rw [words_eq_nil_iff] at hnil
  rw [← clusters_flatten as] at hc
  obtain ⟨g, hg, hcg⟩ := List.mem_flatten.1 hc
  have hgsep := hnil g hg
  simp only [isSeparator, Bool.or_eq_true, decide_eq_true_eq] at hgsep
  rcases hgsep with (rfl | rfl) | rfl <;> obtain rfl := List.mem_singleton.1 hcg <;>
    exact absurd hsep (by decide)

theorem exists_cons_of_mem_words {w : List Cluster} {g : Cluster}
    (hbs : ∀ c ∈ bs, isAscii c = true) (hw : w ∈ words bs) (hg : g ∈ w) :
    ∃ c rest, g = c :: rest ∧ isAscii c = true ∧ ∀ d ∈ rest, d = '\n' := by
  have hmem := (mem_of_mem_words hw hg).1
  obtain ⟨c, rest, rfl⟩ := List.exists_cons_of_ne_nil (ne_nil_of_mem_clusters hmem)
  refine ⟨c, rest, rfl, ?_, ?_⟩
  · exact hbs c (mem_of_mem_flatten hw (List.mem_flatten_of_mem hg List.mem_cons_self))
  · cases bs with
    | nil => cases hmem
    | cons b more =>
      obtain ⟨hb, hmore⟩ := List.forall_mem_cons.1 hbs
      exact forall_mem_tail_of_mem_clustersFrom hmore (isAsciiClass_clusterClass hb)
        (List.cons_ne_nil _ _) (List.forall_mem_nil _) hmem

/-! ## Spellings -/

/-- **A word of an ASCII name gets its capital** alike from the spelling of a later word and from
that of a first word with its first character changed. -/
theorem upperFirstChars_lowerWord {w : List Cluster} (hbs : ∀ c ∈ bs, isAscii c = true)
    (hw : w ∈ words bs) (others : List Char) :
    upperFirstChars (lowerWord w ++ others) = capitalWord w ++ others := by
  obtain ⟨g, rest, rfl⟩ := List.exists_cons_of_ne_nil (ne_nil_of_mem_words hw)
  have hascii : ∀ d ∈ (g :: rest).flatten, isAscii d = true :=
    fun d hd => hbs d (mem_of_mem_flatten hw hd)
  obtain ⟨c, feeds, rfl, hc, hfeeds⟩ := exists_cons_of_mem_words hbs hw List.mem_cons_self
  rw [List.flatten_cons, List.forall_mem_append] at hascii
  obtain ⟨hg, hrest⟩ := hascii
  have hsame : feeds.map asciiLowerChar = feeds.map asciiUpperChar :=
    List.map_congr_left fun d hd => by rw [hfeeds d hd]; rfl
  have hlower : lowerWord ((c :: feeds) :: rest)
      = asciiLowerChar c :: feeds.map asciiUpperChar ++ rest.flatten.map asciiLowerChar := by
    rw [lowerWord, List.flatten_cons, lower_of_isAscii (List.forall_mem_append.2 ⟨hg, hrest⟩),
      List.map_append, List.map_cons, hsame]
  have hcapital : capitalWord ((c :: feeds) :: rest)
      = asciiUpperChar c :: feeds.map asciiUpperChar ++ rest.flatten.map asciiLowerChar := by
    rw [capitalWord, upper_of_isAscii hg, lower_of_isAscii hrest, List.map_cons]
  have hfirst : upperChar (asciiLowerChar c) = [asciiUpperChar c] := by
    rw [← asciiUpperChar_asciiLowerChar hc]
    exact if_pos (forall_isAscii hc (by decide +kernel))
  rw [hlower, hcapital, List.cons_append, List.cons_append, upperFirstChars, hfirst]
  rfl

/-- **Pascal case gives every word its capital**, the first one too. -/
theorem pascalChars_of_isAscii (hbs : ∀ c ∈ bs, isAscii c = true) :
    upperFirstChars (camelChars bs) = (words bs).flatMap capitalWord := by
  unfold camelChars
  cases hwords : words bs with
  | nil => rfl
  | cons first others =>
    exact upperFirstChars_lowerWord hbs (hwords ▸ List.mem_cons_self) _

theorem upperFirstChars_append (hne : as ≠ []) (bs : List Char) :
    upperFirstChars (as ++ bs) = upperFirstChars as ++ bs := by
  obtain ⟨c, rest, rfl⟩ := List.exists_cons_of_ne_nil hne
  rw [List.cons_append, upperFirstChars, upperFirstChars, List.append_assoc]

theorem camelChars_append_separator (hs : isSeparator [s] = true)
    (has : ∀ c ∈ as, isAscii c = true) (hbs : ∀ c ∈ bs, isAscii c = true) (hne : words as ≠ []) :
    camelChars (as ++ s :: bs) = camelChars as ++ upperFirstChars (camelChars bs) := by
  obtain ⟨first, others, hwords⟩ := List.exists_cons_of_ne_nil hne
  have hall := words_append_separator hs has hbs
  rw [hwords, List.cons_append] at hall
  rw [pascalChars_of_isAscii hbs, camelChars, camelChars, hall, hwords]
  simp only [List.flatMap_append, List.append_assoc]

end Identifier

/-! ## The class of a migration -/

namespace Layout

/-- The line opens a class. -/
def opensClass (line : String) : Bool := startsWith "class " line

end Layout

theorem sections_migrationClass : Template.migration.sections
    = [Page.migrationHead] ++ ([[Page.migrationClass]] ++ ([Page.migrationUp, [Page.tableLine]]
      ++ (Page.columns ++ [Page.written "", Page.stamps, Page.migrationTail]))) := rfl

/-- The line of a migration that opens its class. -/
def Template.Stretch.opened : Stretch .migration "class " where
  before := _
  body := _
  after := _
  sections_eq := sections_migrationClass
  apart_before := by decide +kernel
  apart_after := by decide +kernel

theorem Resource.filter_opensClass (r : Resource) (o : PlanOptions) :
    (r.lines o .migration).filter Layout.opensClass
      = ["class Create" ++ (Identifier.pascal r.plural ++ " extends Migration")] := by
  have hopens : Layout.opensClass
      ("class Create" ++ (Identifier.pascal r.plural ++ " extends Migration")) = true := by
    have hclass : "class Create" = "class " ++ "Create" := rfl
    rw [Layout.opensClass, hclass, String.append_assoc]
    exact Layout.startsWith_append _ _
  refine (Template.Stretch.opened.filter_lines (r.linesOf?_migrationClass o _)).trans ?_
  exact List.filter_cons_of_pos hopens

/-! ## Spellings of the whole -/

namespace Identifier

/-- The text has ASCII characters alone. -/
def IsAsciiText (x : String) : Prop := ∀ c ∈ x.toList, isAscii c = true

instance (x : String) : Decidable (IsAsciiText x) :=
  decidable_of_iff (x.toList.all isAscii) List.all_eq_true

/-- The text has a word: a character that is no separator. -/
def HasWord (x : String) : Prop := ∃ c ∈ x.toList, isSeparator [c] = false

instance (x : String) : Decidable (HasWord x) :=
  decidable_of_iff (x.toList.any fun c => !isSeparator [c]) (by simp [HasWord])

variable {a b : String} {s : Char}

/-- **Camel case goes part by part** where a separator sets a name apart, and so does Pascal
case. -/
theorem camel_append_separator (ha : IsAsciiText a) (hb : IsAsciiText b) (hne : HasWord a)
    (hs : isSeparator [s] = true) :
    camel (a ++ String.singleton s ++ b) = camel a ++ pascal b ∧
      pascal (a ++ String.singleton s ++ b) = pascal a ++ pascal b := by
  obtain ⟨c, hc, hsep⟩ := hne
  have hwords : words a.toList ≠ [] := words_ne_nil hc hsep
  have hwhole : (a ++ String.singleton s ++ b).toList = a.toList ++ s :: b.toList := by
    simp [String.toList_append]
  have hcamel := camelChars_append_separator hs ha hb hwords
  have hfirst : camelChars a.toList ≠ [] := mt camelChars_eq_nil_iff.1 hwords
  unfold pascal upperFirst camel
  simp only [String.toList_ofList, ← String.ofList_append, hwhole, hcamel,
    upperFirstChars_append hfirst, and_self]

/-- **Spellings go part by part** where a separator sets a name apart, whatever stands on its two
sides. So the class of a migration is called like its file: with the time left out, the name of the
file in Pascal case is the name of the class. -/
theorem spellings_of_separated (hb : IsAsciiText b) :
    (∀ (a : String) (s : Char), IsAsciiText a → HasWord a → isSeparator [s] = true →
      camel (a ++ String.singleton s ++ b) = camel a ++ pascal b ∧
        pascal (a ++ String.singleton s ++ b) = pascal a ++ pascal b) ∧
    ∀ (r : Resource) (o : PlanOptions), r.plural = b →
      artifactPath .migration r o.timestamp = .ofSegments
        ["database", "migrations", o.timestamp.stamp ++ "_" ++ ("create_" ++ b) ++ ".php"] ∧
      Renderer.standard .migration (templateParams r o .migration)
        = .ok ("\n".intercalate (r.lines o .migration)) ∧
      (r.lines o .migration).filter Layout.opensClass
        = ["class " ++ ("Create" ++ pascal b) ++ " extends Migration"] ∧
      "Create" ++ pascal b = pascal ("create_" ++ b) := by
  have hparts (a : String) (s : Char) (ha : IsAsciiText a) (hne : HasWord a)
      (hs : isSeparator [s] = true) := camel_append_separator ha hb hne hs
  refine ⟨hparts, ?_⟩
  rintro r o rfl
  refine ⟨?_, Renderer.standard_templateParams r o .migration, ?_, ?_⟩
  · have hmark : "_create_" = "_" ++ "create_" := rfl
    rw [artifactPath, artifactSegments, hmark]
    simp only [String.append_assoc]
  · have hclass : "class Create" = "class " ++ "Create" := rfl
    rw [r.filter_opensClass, hclass]
    simp only [String.append_assoc]
  · have hcreate : pascal "create" = "Create" := by decide +kernel
    have hsplit : "create_" ++ r.plural = "create" ++ String.singleton '_' ++ r.plural := rfl
    rw [hsplit, (hparts "create" '_' (by decide) (by decide) rfl).2, hcreate]

/-- Acronyms, digits and runs of separators on both sides. -/
theorem spellings_of_separated_acronyms :
    let a := "-HTTPServer2_"
    let b := "_v2 beta-APIDocs\r\n3x"
    IsAsciiText a ∧ IsAsciiText b ∧ HasWord a ∧
      camel (a ++ String.singleton ' ' ++ b) = camel a ++ pascal b := by
  intro a b
  have hb : IsAsciiText b := by decide
  have ha : IsAsciiText a := by decide
  have hne : HasWord a := by decide
  exact ⟨ha, hb, hne, ((spellings_of_separated hb).1 a ' ' ha hne rfl).1⟩

end Identifier

end Groundwork
