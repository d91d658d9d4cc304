import Groundwork.Proofs.Layout.Sections
import Mathlib.Data.List.TakeWhile

/-!
# The blocks of a file

What a file says of the fields stands in blocks of its lines, each between a line that opens it and
one that closes it, or on lines that begin in a way of their own. That no other line begins so is
checked on the templates: a line that is told apart by what is written out needs no more than that.

* `startsWith`, `block`: the lines that begin alike, and those between two others.
* `apart`, `isFilled`: checks that no line begins so, and that no line is blank.
* **`Resource.exists_frame`**: what comes before and after some sections of a file.
* `Template.Stretch`, **`Template.Stretch.filterMap_lines`**: what is read off lines of one
  beginning is read off the sections alone that have such lines.
* `Template.Block`, **`Template.Block.read_lines`**: a block holds what its sections come to.
* `columnBlock`, `entryBlock` and their companions: the blocks, as read off the lines of a file, and
  what stands in them.
-/

namespace Groundwork

open Markup

namespace Layout

/-! ## Beginnings of lines -/

section Beginnings

variable {start line rest : String}

/-- The line begins with a text. -/
def startsWith (start line : String) : Bool := start.toList.isPrefixOf line.toList

theorem startsWith_iff : startsWith start line = true ↔ start.toList <+: line.toList :=
  List.isPrefixOf_iff_prefix

theorem startsWith_append (start rest : String) : startsWith start (start ++ rest) = true := by
  rw [startsWith_iff, String.toList_append]
  exact List.prefix_append _ _

theorem startsWith_self (line : String) : startsWith line line = true :=
  startsWith_iff.2 (List.prefix_refl _)

theorem ne_of_startsWith_eq_false (h : startsWith start line = false) : line ≠ start := by
  rintro rfl
  rw [startsWith_self] at h
  cases h

theorem encode_prefix_of_startsWith (h : startsWith start line = true) :
    Text.encode start <+: Text.encode line := by
  obtain ⟨rest, hrest⟩ := startsWith_iff.1 h
  rw [Text.encode_eq_flatMap, Text.encode_eq_flatMap, ← hrest, List.flatMap_append]
  exact List.prefix_append _ _

end Beginnings

/-! ## Checks on templates -/

/-- **Nothing that the form writes begins so**, whatever its outputs are. -/
def misses : List UInt8 → Form → Bool
  | start, .done => !start.isEmpty
  | start, .content (.text t) next =>
    if (Text.encode t).isPrefixOf start then misses (start.drop (Text.encode t).length) next
    else !start.isPrefixOf (Text.encode t)
  | _, _ => false

/-- The form begins with a text that is not blank. -/
def isFilled : Form → Bool
  | .content (.text t) _ => (Text.encode t).any (· ≠ 32)
  | _ => false

/-- No line is blank. -/
def filled (lines : List Line) : Bool := (Sheet.ofLines? lines).any (Tree.all isFilled)

/-- No line begins so. -/
def apart (start : String) (lines : List Line) : Bool :=
  (Sheet.ofLines? lines).any (Tree.all (misses (Text.encode start)))

section Checks

variable {p : Form} {ps : Params} {text : String} {lines : List Line} {ls : List String}

theorem text?_content_text {t : String} {next : Form}
    (h : Form.text? (.content (.text t) next) ps = some text) :
    ∃ more, next.text? ps = some more ∧ text = t ++ more := by
  obtain ⟨texts, htexts, rfl⟩ := Option.map_eq_some_iff.1 h
  obtain ⟨l, m, hl, hm, rfl⟩ := Tree.joined?_eq_some_iff.1 htexts
  obtain rfl := Option.some.inj hl
  exact ⟨String.join m, by rw [text?_eq, hm, Option.map_some], String.join_cons⟩

theorem not_prefix_of_misses {start : List UInt8} (h : misses start p = true)
    (htext : p.text? ps = some text) : ¬ start <+: Text.encode text := by
  induction start, p using misses.induct generalizing text with
  | case1 start =>
    obtain rfl : "" = text := Option.some.inj htext
    intro hprefix
    obtain rfl := List.prefix_nil.1 hprefix
    cases h
  | case2 start t next hprefix ih =>
    obtain ⟨more, hmore, rfl⟩ := text?_content_text htext
    obtain ⟨rest, rfl⟩ := List.isPrefixOf_iff_prefix.1 hprefix
    rw [misses, if_pos hprefix, List.drop_left] at h
    rw [List.drop_left] at ih
    rw [Text.encode_append, List.prefix_append_right_inj]
    exact ih h hmore
  | case3 start t next hprefix =>
    obtain ⟨more, -, rfl⟩ := text?_content_text htext
    rw [misses, if_neg hprefix, Bool.not_eq_true', Bool.eq_false_iff] at h
    rw [Text.encode_append]
    intro hstart
    rcases List.prefix_or_prefix_of_prefix hstart (List.prefix_append _ _) with hp | hp
    · exact h (List.isPrefixOf_iff_prefix.2 hp)
    · exact hprefix (List.isPrefixOf_iff_prefix.2 hp)
  | case4 start p hdone htexts =>
    unfold misses at h
    split at h
    · exact absurd rfl hdone
    · exact absurd rfl (htexts _ _)
    · cases h

theorem exists_ne_blank_of_isFilled (h : isFilled p = true) (htext : p.text? ps = some text) :
    ∃ c ∈ text.toList, c ≠ ' ' := by
  unfold isFilled at h
  split at h
  · rename_i t next
    obtain ⟨more, -, rfl⟩ := text?_content_text htext
    rw [Text.encode_eq_flatMap, List.any_eq_true] at h
    obtain ⟨byte, hbyte, hne⟩ := h
    obtain ⟨c, hc, hmem⟩ := List.mem_flatMap.1 hbyte
    refine ⟨c, by rw [String.toList_append]; exact List.mem_append_left _ hc, ?_⟩
    rintro rfl
    have hblank : String.utf8EncodeChar ' ' = [32] := by decide
    rw [hblank, List.mem_singleton] at hmem
    rw [hmem] at hne
    exact absurd hne (by decide)
  · cases h

theorem forall_mem_of_check {Q : String → Prop} {ok : Form → Bool}
    (hok : ∀ p ps text, ok p = true → Form.text? p ps = some text → Q text)
    (h : (Sheet.ofLines? lines).any (Tree.all ok) = true) (hls : linesOf? lines ps = some ls) :
    ∀ l ∈ ls, Q l := by
  obtain ⟨sheet, hsheet, hall⟩ := (Option.any_eq_true _ _).1 h
  rw [linesOf?, hsheet, Option.bind_some] at hls
  refine Tree.forall_mem_of_all (fun p ps out hp hout => ?_) hall hls
  obtain ⟨text, htext, rfl⟩ := Option.map_eq_some_iff.1 hout
  exact List.forall_mem_singleton.2 (hok p ps text hp htext)

theorem exists_ne_blank_of_filled (h : filled lines = true) (hls : linesOf? lines ps = some ls) :
    ∀ l ∈ ls, ∃ c ∈ l.toList, c ≠ ' ' :=
  forall_mem_of_check (fun _ _ _ => exists_ne_blank_of_isFilled) h hls

theorem startsWith_of_apart {start : String} (h : apart start lines = true)
    (hls : linesOf? lines ps = some ls) : ∀ l ∈ ls, startsWith start l = false := by
  refine forall_mem_of_check (fun p ps text hp htext => ?_) h hls
  rw [Bool.eq_false_iff]
  exact fun hstart => not_prefix_of_misses hp htext (encode_prefix_of_startsWith hstart)

end Checks

/-! ## Blocks -/

/-- **The lines of a block**: those between the first line that opens it and the next that closes
it. -/
def block (opening closing : String) (lines : List String) : List String :=
  ((lines.dropWhile (· ≠ opening)).drop 1).takeWhile (· ≠ closing)

section Blocks

variable {opening closing : String} {before body after lines : List String}

theorem block_append (h : ∀ l ∈ before, l ≠ opening) :
    block opening closing (before ++ lines) = block opening closing lines := by
  unfold block
  rw [List.dropWhile_append_of_pos fun l hl => decide_eq_true (h l hl)]

theorem block_opening (h : ∀ l ∈ body, l ≠ closing) :
    block opening closing (opening :: (body ++ closing :: after)) = body := by
  unfold block
  rw [List.dropWhile_cons_of_neg (by simp), List.drop_one, List.tail_cons,
    List.takeWhile_append_of_pos fun l hl => decide_eq_true (h l hl),
    List.takeWhile_cons_of_neg (by simp), List.append_nil]

theorem block_eq_nil (h : ∀ l ∈ lines, l ≠ opening) : block opening closing lines = [] := by
  rw [← List.append_nil lines, block_append h]
  rfl

end Blocks

end Layout

/-! ## Sections of a file -/

open Layout

theorem Template.isSome_ofLines?_sections (t : Template) :
    ∀ s ∈ t.sections, (Sheet.ofLines? s).isSome := by
  have hall : t.sections.all (fun s => (Sheet.ofLines? s).isSome) = true := by
    cases t <;> decide +kernel
  exact List.all_eq_true.1 hall

namespace Resource

variable {r : Resource} {o : PlanOptions} {t : Template} {before middle after : List (List Line)}
  {ls : List String} {start opening closing : String}

/-- **A file around some sections**: the lines of the sections before, theirs, and the lines of the
sections after. -/
theorem exists_frame (h : t.sections = before ++ (middle ++ after))
    (hls : linesOf? middle.flatten (templateParams r o t) = some ls) : ∃ b a,
      linesOf? before.flatten (templateParams r o t) = some b ∧
        linesOf? after.flatten (templateParams r o t) = some a ∧
          r.lines o t = b ++ (ls ++ a) := by
  have hall := t.isSome_ofLines?_sections
  rw [h, List.forall_mem_append, List.forall_mem_append] at hall
  obtain ⟨hbefore, hmiddle, hafter⟩ := hall
  have hrest : (Sheet.ofLines? (middle.flatten ++ after.flatten)).isSome := by
    rw [← List.flatten_append]
    exact isSome_ofLines?_flatten (List.forall_mem_append.2 ⟨hmiddle, hafter⟩)
  have hlines := r.linesOf?_eq o t
  rw [Template.page, h, List.flatten_append, List.flatten_append,
    linesOf?_append (isSome_ofLines?_flatten hbefore) hrest,
    linesOf?_append (isSome_ofLines?_flatten hmiddle) (isSome_ofLines?_flatten hafter), hls]
    at hlines
  obtain ⟨b, m, hb, hm, hsum⟩ := Tree.joined?_eq_some_iff.1 hlines
  obtain ⟨l, a, hl, ha, rfl⟩ := Tree.joined?_eq_some_iff.1 hm
  obtain rfl := Option.some.inj hl
  exact ⟨b, a, hb, ha, hsum⟩

/-- **A block holds what its sections come to.** What comes before is told apart from the line that
opens it by its beginning. -/
theorem block_of_frame {opens closes : List Line}
    (h : t.sections = before ++ (opens :: (middle ++ (closes :: after))))
    (hopens : linesOf? opens (templateParams r o t) = some [opening])
    (hcloses : linesOf? closes (templateParams r o t) = some [closing])
    (hstart : startsWith start opening = true) (hbefore : apart start before.flatten = true)
    (hls : linesOf? middle.flatten (templateParams r o t) = some ls) (hne : ∀ l ∈ ls, l ≠ closing) :
    block opening closing (r.lines o t) = ls := by
  have hsections : t.sections = before ++ ((opens :: (middle ++ [closes])) ++ after) := by
    rw [h, List.cons_append, List.append_assoc]
    rfl
  have hblock : linesOf? (opens :: (middle ++ [closes])).flatten (templateParams r o t)
      = some (opening :: (ls ++ [closing])) := by
    rw [List.flatten_cons, List.flatten_append, List.flatten_singleton]
    exact linesOf?_append_eq hopens (linesOf?_append_eq hls hcloses)
  obtain ⟨b, a, hb, -, hlines⟩ := exists_frame hsections hblock
  have hother : ∀ l ∈ b, l ≠ opening := by
    rintro l hl rfl
    rw [startsWith_of_apart hbefore hb l hl] at hstart
    cases hstart
  rw [hlines, block_append hother, List.cons_append, List.append_assoc]
  exact block_opening hne

end Resource

/-- **A stretch of a template**: some sections of it, and no line of the others begins so. -/
structure Template.Stretch (t : Template) (start : String) where
  before : List (List Line)
  body : List (List Line)
  after : List (List Line)
  sections_eq : t.sections = before ++ (body ++ after)
  apart_before : apart start before.flatten = true
  apart_after : apart start after.flatten = true

namespace Template.Stretch

variable {t : Template} {start : String} (s : t.Stretch start) {r : Resource} {o : PlanOptions}
  {ls : List String} (hls : linesOf? s.body.flatten (templateParams r o t) = some ls)

include hls

theorem filterMap_lines {α : Type} {read : String → Option α}
    (hread : ∀ l, startsWith start l = false → read l = none) :
    (r.lines o t).filterMap read = ls.filterMap read := by
  obtain ⟨b, a, hb, ha, hlines⟩ := Resource.exists_frame s.sections_eq hls
  have hnone {ms : List String} (hms : ∀ l ∈ ms, startsWith start l = false) :
      ms.filterMap read = [] := List.filterMap_eq_nil_iff.2 fun l hl => hread l (hms l hl)
  rw [hlines, List.filterMap_append, List.filterMap_append,
    hnone (startsWith_of_apart s.apart_before hb), hnone (startsWith_of_apart s.apart_after ha),
    List.nil_append, List.append_nil]

theorem filter_lines :
    (r.lines o t).filter (startsWith start) = ls.filter (startsWith start) := by
  rw [← List.filterMap_eq_filter]
  exact s.filterMap_lines hls fun l hl => by simp [hl]

end Template.Stretch

/-- **A block of a template**: some sections between a line that opens them and one that closes
them. No line before begins like the one, and none of their own like the other. -/
structure Template.Block (t : Template) where
  before : List (List Line)
  opening : String
  body : List (List Line)
  closing : String
  after : List (List Line)
  sections_eq : t.sections
    = before ++ (Page.written opening :: (body ++ (Page.written closing :: after)))
  apart_before : apart opening before.flatten = true
  apart_body : apart closing body.flatten = true

namespace Template.Block

theorem read_lines {t : Template} (b : t.Block) {r : Resource} {o : PlanOptions} {ls : List String}
    (hls : linesOf? b.body.flatten (templateParams r o t) = some ls) :
    block b.opening b.closing (r.lines o t) = ls :=
  Resource.block_of_frame b.sections_eq (linesOf?_written _ _) (linesOf?_written _ _)
    (startsWith_self b.opening) b.apart_before hls
    fun l hl => ne_of_startsWith_eq_false (startsWith_of_apart b.apart_body hls l hl)

/-- The entries of a factory. -/
def entries : Block .factory where
  before := [Page.factoryHead]
  opening := "    return ["
  body := [Page.entries]
  closing := "    ];"
  after := [Page.written "\x7d);"]
  sections_eq := rfl
  apart_before := by decide +kernel
  apart_body := by decide +kernel

/-- The attributes of a model that may be filled. -/
def fillable : Block .model where
  before := Page.modelKey ++ [Page.written ""]
  opening := "    protected $fillable = ["
  body := [Page.fillable]
  closing := "    ];"
  after := Page.listed "    protected $casts = [" Page.casts
    ++ (Page.listed "    protected $dates = [" Page.dates ++ [Page.boot, Page.written "\x7d"])
  sections_eq := rfl
  apart_before := by decide +kernel
  apart_body := by decide +kernel

/-- The attributes of a model that are cast. -/
def casts : Block .model where
  before := Page.modelKey
    ++ (Page.listed "    protected $fillable = [" Page.fillable ++ [Page.written ""])
  opening := "    protected $casts = ["
  body := [Page.casts]
  closing := "    ];"
  after := Page.listed "    protected $dates = [" Page.dates ++ [Page.boot, Page.written "\x7d"]
  sections_eq := rfl
  apart_before := by decide +kernel
  apart_body := by decide +kernel

/-- The attributes of a model that are dates. -/
def dates : Block .model where
  before := Page.modelKey ++ (Page.listed "    protected $fillable = [" Page.fillable
    ++ (Page.listed "    protected $casts = [" Page.casts ++ [Page.written ""]))
  opening := "    protected $dates = ["
  body := [Page.dates]
  closing := "    ];"
  after := [Page.boot, Page.written "\x7d"]
  sections_eq := rfl
  apart_before := by decide +kernel
  apart_body := by decide +kernel

/-- The entries of the array that a resource returns. -/
def array : Block .resource where
  before := [Page.presenterHead]
  opening := "        return ["
  body := Page.array
  closing := "        ];"
  after := [Page.written "    \x7d", Page.written "\x7d"]
  sections_eq := rfl
  apart_before := by decide +kernel
  apart_body := by decide +kernel

/-- The rules of a controller. -/
def rules : Block .controller where
  before := [Page.controllerHead]
  opening := "    private $rules = ["
  body := [Page.rules]
  closing := "    ];"
  after := [Page.reading, Page.creating, Page.updating, Page.deleting]
  sections_eq := rfl
  apart_before := by decide +kernel
  apart_body := by decide +kernel

end Template.Block

/-! ## The blocks -/

namespace Layout

/-- **The lines of the columns** of a table: those up to the first blank one. -/
def columnBlock (table : String) (lines : List String) : List String :=
  block ("        Schema::create('" ++ (table ++ "', function (Blueprint $table) \x7b")) "" lines

/-- **The lines of the entries** of a factory. -/
def entryBlock (lines : List String) : List String := block "    return [" "    ];" lines

/-- **The lines of the attributes that may be filled.** -/
def fillableBlock (lines : List String) : List String :=
  block "    protected $fillable = [" "    ];" lines

/-- **The lines of the attributes that are cast.** -/
def castBlock (lines : List String) : List String := block "    protected $casts = [" "    ];" lines

/-- **The lines of the attributes that are dates.** -/
def dateBlock (lines : List String) : List String := block "    protected $dates = [" "    ];" lines

/-- **The lines of the hook** that makes up keys. -/
def hookBlock (lines : List String) : List String :=
  block "        static::creating(function (self $model) \x7b" "        \x7d);" lines

/-- **The lines of the array** that a resource returns. -/
def arrayBlock (lines : List String) : List String := block "        return [" "        ];" lines

/-- **The lines of the rules** of a controller. -/
def ruleBlock (lines : List String) : List String := block "    private $rules = [" "    ];" lines

end Layout

namespace Resource

variable (r : Resource) (o : PlanOptions)

theorem columnBlock_eq : columnBlock r.plural (r.lines o .migration) = r.columnLines := by
  have hsections : Template.migration.sections
      = [Page.migrationHead, [Page.migrationClass], Page.migrationUp] ++ ([Page.tableLine]
        :: (Page.columns ++ (Page.written "" :: [Page.stamps, Page.migrationTail]))) := rfl
  refine block_of_frame hsections (r.linesOf?_tableLine o _) (linesOf?_written _ _)
    (startsWith_append _ _) (by decide +kernel) (r.linesOf?_columns o _) ?_
  rintro l hl rfl
  have hfilled : filled Page.columns.flatten = true := by decide +kernel
  obtain ⟨c, hc, -⟩ := exists_ne_blank_of_filled hfilled (r.linesOf?_columns o .migration) "" hl
  exact absurd hc List.not_mem_nil

theorem entryBlock_eq : entryBlock (r.lines o .factory) = r.entryLines :=
  Template.Block.entries.read_lines (r.linesOf?_entries o _)

theorem fillableBlock_eq : fillableBlock (r.lines o .model) = r.fillableLines :=
  Template.Block.fillable.read_lines (r.linesOf?_fillable o _)

theorem castBlock_eq : castBlock (r.lines o .model) = r.castLines :=
  Template.Block.casts.read_lines (r.linesOf?_casts o _)

theorem dateBlock_eq : dateBlock (r.lines o .model) = r.dateLines :=
  Template.Block.dates.read_lines (r.linesOf?_dates o _)

theorem hookBlock_eq : hookBlock (r.lines o .model) = if r.usesGeneratedKey then
    (r.keyFields.filter fun f => f.type.text = "uuid").flatMap Field.hookLines else [] := by
  have hsections : Template.model.sections
      = (Page.modelKey ++ (Page.listed "    protected $fillable = [" Page.fillable
          ++ (Page.listed "    protected $casts = [" Page.casts
            ++ Page.listed "    protected $dates = [" Page.dates)))
        ++ ([Page.boot] ++ [Page.written "\x7d"]) := rfl
  have hboot : linesOf? [Page.boot].flatten (templateParams r o .model) = some r.bootLines := by
    rw [List.flatten_singleton]
    exact r.linesOf?_boot o _
  obtain ⟨b, a, hb, ha, hlines⟩ := exists_frame hsections hboot
  obtain rfl := Option.some.inj ((linesOf?_written _ _).symm.trans ha)
  have hbefore : ∀ l ∈ b, startsWith "        static::creating(function (self $model) \x7b" l
      = false := startsWith_of_apart (by decide +kernel) hb
  rw [hookBlock, hlines, block_append fun l hl => ne_of_startsWith_eq_false (hbefore l hl),
    bootLines]
  split_ifs
  · have hapart : apart "        \x7d);" (Page.eachField "primaryKeyFields" Page.hook) = true := by
      decide +kernel
    have hkeys := startsWith_of_apart hapart (r.linesOf?_hooks o .model)
    have hhead : ∀ l ∈ ["", "    protected static function boot()", "    \x7b",
        "        parent::boot();", ""],
      l ≠ "        static::creating(function (self $model) \x7b" := by
      decide
    simp only [List.append_assoc, List.cons_append, List.nil_append]
    exact (block_append hhead).trans
      (block_opening fun l hl => ne_of_startsWith_eq_false (hkeys l hl))
  · exact block_eq_nil (by decide)

theorem arrayBlock_eq : arrayBlock (r.lines o .resource) = r.arrayLines :=
  Template.Block.array.read_lines (r.linesOf?_array o _)

theorem ruleBlock_eq : ruleBlock (r.lines o .controller) = r.ruleLines :=
  Template.Block.rules.read_lines (r.linesOf?_rules o _)

end Resource

end Groundwork
