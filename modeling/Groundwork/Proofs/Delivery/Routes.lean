import Groundwork.Proofs.Disk.Reading
import Groundwork.Proofs.Generation
import Groundwork.Proofs.Layout.Sections
import Groundwork.Proofs.Plan.Distinct
import Groundwork.Proofs.Plan.SharedPaths
import Groundwork.Proofs.Text.Bytes

/-!
# The routes over a history of runs

One run after another adds its routes to one file. Each run adds a block that begins and ends with a
line feed, and none of its other files comes to the place of the routes. So nothing in the file is
ever lost, and each statement is a line of its own, whatever the file ended with before.

* `routeStatements`: the five statements of a resource.
* `Run`, `Runs`: runs of the program, and histories of runs that succeed.
* `Run.Plain`: what is asked of a run.
* **`Run.adds_routes`**: what one run makes of the routes.
* **`Runs.routes_eq`**: what a history makes of them.
-/

namespace Groundwork

open Text (OneLine encode oneLine_append Rooted)

/-! ## The statements of a resource -/

/-- **The route statements** of a resource with this name in Pascal case and this plural. -/
def routeStatements (pascalName plural : String) : List String :=
  [ "$router->get('/" ++ plural ++ "', '" ++ pascalName ++ "Controller@getMany');",
    "$router->get('/" ++ plural ++ "/\x7bid\x7d', '" ++ pascalName ++ "Controller@getOne');",
    "$router->put('/" ++ plural ++ "/\x7bid\x7d', '" ++ pascalName ++ "Controller@update');",
    "$router->delete('/" ++ plural ++ "/\x7bid\x7d', '" ++ pascalName ++ "Controller@delete');",
    "$router->post('/" ++ plural ++ "', '" ++ pascalName ++ "Controller@create');" ]

theorem lines_routes (r : Resource) (o : PlanOptions) :
    r.lines o .routes = routeStatements r.pascalName r.plural := by
  have hlines : Markup.linesOf? Template.routes.page (templateParams r o .routes)
      = some (routeStatements r.pascalName r.plural) := by
    simp [Markup.linesOf?, Markup.Sheet.ofLines?, Template.page, Template.sections, Page.routes,
      Markup.Tree.ofItems?, r.get?_pluralName, r.get?_pascalName, Value.output, routeStatements,
      String.append_assoc]
  exact Option.some.inj ((r.linesOf?_eq o .routes).symm.trans hlines)

theorem oneLine_of_mem_routeStatements {pascalName plural : String} (hname : OneLine pascalName)
    (hplural : OneLine plural) : ∀ s ∈ routeStatements pascalName plural, OneLine s := by
  have hline {front middle back : String} (hfront : OneLine front) (hmiddle : OneLine middle)
      (hback : OneLine back) : OneLine (front ++ plural ++ middle ++ pascalName ++ back) := by
    rw [oneLine_append, oneLine_append, oneLine_append, oneLine_append]
    exact ⟨⟨⟨⟨hfront, hplural⟩, hmiddle⟩, hname⟩, hback⟩
  intro s hs
  rw [routeStatements, List.mem_cons, List.mem_cons, List.mem_cons, List.mem_cons,
    List.mem_singleton] at hs
  rcases hs with rfl | rfl | rfl | rfl | rfl <;>
    exact hline (by decide) (by decide) (by decide)

/-- **The block of statements**: each on a line of its own, with a line feed before the first. -/
def routesBlock (statements : List String) : List UInt8 :=
  encode ("\n" ++ "\n".intercalate statements ++ "\n")

theorem splitOn_append_routesBlock {statements : List String} (hne : statements ≠ [])
    (h : ∀ s ∈ statements, OneLine s) (old : List UInt8) :
    (old ++ routesBlock statements).splitOn 10 =
      old.splitOn 10 ++ (statements.map encode ++ [[]]) := by
  have hblock : routesBlock statements =
      10 :: ([10].intercalate (statements.map encode) ++ 10 :: []) := by
    rw [routesBlock, Text.encode_append, Text.encode_append, Text.encode_intercalate,
      Text.encode_lineFeed]
    rfl
  have hlines : ∀ l ∈ statements.map encode, 10 ∉ l :=
    List.forall_mem_map.2 fun s hs => Text.lineFeed_not_mem_encode (h s hs)
  rw [hblock, List.splitOn_append_cons_self, List.splitOn_append_cons_self,
    List.splitOn_intercalate 10 hlines (by simpa using hne)]
  rfl

/-! ## Steps at one place -/

namespace Disk

variable {d : Disk} {base : Path} {q : Place} {before : List (Artifact × Outcome)}
  {old : Option (List UInt8)}

theorem contentsAfter_of_ne {steps : List (Artifact × Outcome)}
    (h : ∀ step ∈ steps, d.find (base.join step.1.path) ≠ .ok q) :
    d.contentsAfter base q steps old = old := by
  unfold contentsAfter
  induction steps with
  | nil => rfl
  | cons step rest ih =>
    obtain ⟨hhead, htail⟩ := List.forall_mem_cons.1 h
    rw [List.foldl_cons, if_neg hhead]
    exact ih htail

theorem contentsAfter_concat {last : Artifact × Outcome}
    (h : ∀ step ∈ before, d.find (base.join step.1.path) ≠ .ok q)
    (hlast : d.find (base.join last.1.path) = .ok q) :
    d.contentsAfter base q (before ++ [last]) old =
      last.2.onContents (encode last.1.contents) old := by
  have hbefore : d.contentsAfter base q before old = old := contentsAfter_of_ne h
  unfold contentsAfter at hbefore ⊢
  rw [List.foldl_append, hbefore, List.foldl_cons, List.foldl_nil, if_pos hlast]

end Disk

theorem Disk.read_eq_ok {d : Disk} {p : Path} {q : Place} {c : List UInt8}
    (hnull : p.hasNull = false) (hfind : d.find p = .ok q) (hc : d.root.contents? q = some c) :
    d.read p = .ok c := by
  have hlook : d.root.look q = some (.file c) := FileTree.contents?_eq_some_iff.1 hc
  rw [Disk.read_of_look? (Disk.look?_eq_some_iff.2 ⟨hnull, q, hfind, hlook⟩), Node.bytes?]

namespace World

variable {force : Bool} {base : Path} {a : Artifact} {o : Outcome} {w w' : World}
  {steps : List (Artifact × Outcome)}

theorem hasNull_of_deliverFile (hd : w.disk.Sound)
    (h : w.deliverFile force base a = (.ok o, w')) : (base.join a.path).hasNull = false := by
  obtain ⟨hholds, -⟩ | ⟨hchange, -⟩ | ⟨e, context, -, ho⟩ := deliverFile_cases h
  · exact ((Disk.holds_iff hd).1 hholds).1
  · exact Disk.hasNull_of_change hd hchange
  · cases ho

theorem Delivers.hasNull (h : Delivers force base w steps w') (hd : w.disk.Sound) :
    ∀ step ∈ steps, (base.join step.1.path).hasNull = false := by
  induction h with
  | nil w => exact List.forall_mem_nil _
  | cons file rest ih =>
    refine List.forall_mem_cons.2 ⟨hasNull_of_deliverFile hd file, ?_⟩
    exact ih ((deliverFile_keeps hd file).sound hd)

end World

/-! ## One delivery -/

section Delivery

variable {r : Resource} {o : PlanOptions} {time : Timestamp} {t : Template} {base : Path}
  {d d' : Disk} {steps : List (Artifact × Outcome)}

theorem place_ne_routesPlace (h : (artifactPath t r time).Inside) (ht : t ≠ .routes) (d : Disk)
    (base : Path) : d.place (base.join (artifactPath t r time)) ≠ d.routesPlace base := by
  rw [Disk.routesPlace, ← artifactPath_routes r time]
  exact fun hplace => ht (place_artifactPath_inj h (inside_routes r time) hplace)

/-- **What a delivery makes of the routes**: its block is added to them, and they are found where
they were. -/
theorem DeliveredAll.adds_routes (h : DeliveredAll base steps d d')
    (hfiles : steps.map Prod.fst = r.standardFiles o)
    (hinside : ∀ t, (artifactPath t r o.timestamp).Inside)
    (hdev : d.root.look (d.routesPlace base) ≠ some .device) :
    d'.find (base.join ⟨"routes/web.php"⟩) = .ok (d.routesPlace base) ∧
      d'.root.contents? (d.routesPlace base) =
        some ((d.root.contents? (d.routesPlace base)).getD [] ++
          routesBlock (routeStatements r.pascalName r.plural)) := by
  obtain ⟨own, last, rfl, hown⟩ := exists_ownSteps hfiles
  have hmem : (r.routesFile o, last) ∈ own ++ [(r.routesFile o, last)] :=
    List.mem_append_right own (List.mem_singleton_self _)
  have hfound := h.found _ hmem
  rw [place_routesFile] at hfound
  have hother : ∀ step ∈ own, d'.find (base.join step.1.path) ≠ .ok (d.routesPlace base) := by
    intro step hstep
    obtain ⟨t, ht, hfile⟩ := exists_of_mem_ownFiles hown hstep
    rw [h.found step (List.mem_append_left _ hstep), hfile]
    exact fun hplace => place_ne_routesPlace (hinside t) ht d base (Except.ok.inj hplace)
  have hblock : encode (r.routesFile o).contents =
      routesBlock (routeStatements r.pascalName r.plural) := by
    rw [Resource.routesFile, lines_routes]
    rfl
  obtain rfl : last = .appended := h.allowed _ hmem
  refine ⟨?_, ?_⟩
  · rwa [Resource.routesFile, artifactPath_routes] at hfound
  · rw [h.contents _ hdev, Disk.contentsAfter_concat hother hfound, hblock]
    rfl

end Delivery

/-! ## One run -/

/-- **A run of the program**: where it takes place, what it is called with, and the input that it
reads its answers from. -/
structure Run where
  host : Host
  arguments : Arguments
  settings : Settings
  time : Timestamp
  answers : List UInt8

namespace Run

/-- The run on a disk. -/
def execute (run : Run) (d : Disk) : Except Failure Summary × World :=
  World.generate run.host run.arguments run.settings Renderer.standard run.time
    ⟨d, run.answers, []⟩

/-- The name of the resource in Pascal case. -/
def pascalName (run : Run) : String := Identifier.pascal run.arguments.description.name

/-- The route statements of the run's resource. -/
def routes (run : Run) : List String :=
  routeStatements run.pascalName run.arguments.description.plural

/-- **What is asked of a run**: it works below the base and does not refresh the autoloader; its
name and plural are of one line; and its resource's files are below the base, as far as the name in
Pascal case does not begin with a slash and no path climbs. -/
structure Plain (base : Path) (run : Run) : Prop where
  base : run.arguments.base run.host = base
  noRefresh : (run.arguments.apply run.settings).dumpAutoload = false
  name : OneLine run.arguments.description.name
  plural : OneLine run.arguments.description.plural
  relative : ¬ Rooted run.pascalName.toList
  level : ∀ r, run.arguments.description.resource.result = .ok r →
    ∀ t, (artifactPath t r run.time).climbs = false

variable {base : Path} {run : Run} {r : Resource} {t : Template}

theorem names_of_resource (h : run.arguments.description.resource.result = .ok r) :
    r.pascalName = run.pascalName ∧ r.plural = run.arguments.description.plural := by
  obtain ⟨fields, -, hbuild⟩ := Description.result_resource_eq_ok_iff.1 h
  obtain ⟨-, hname, hplural, -, -⟩ := Resource.build_eq_ok_iff.1 hbuild
  refine ⟨?_, hplural⟩
  rw [Resource.pascalName, hname]
  rfl

theorem Plain.oneLine (h : run.Plain base) : ∀ s ∈ run.routes, OneLine s :=
  oneLine_of_mem_routeStatements (Identifier.oneLine_upperFirst (Identifier.oneLine_camel h.name))
    h.plural

theorem Plain.inside (h : run.Plain base)
    (hr : run.arguments.description.resource.result = .ok r) (t : Template) :
    (artifactPath t r run.time).Inside := by
  refine inside_of_not_rooted ?_ (h.level r hr t)
  rw [(names_of_resource hr).1]
  exact h.relative

theorem plain_of_slashless (hbase : run.arguments.base run.host = base)
    (hoff : (run.arguments.apply run.settings).dumpAutoload = false)
    (hname : OneLine run.arguments.description.name)
    (hplural : OneLine run.arguments.description.plural) (hslash : '/' ∉ run.pascalName.toList)
    (hslash' : '/' ∉ run.arguments.description.plural.toList) : run.Plain base where
  base := hbase
  noRefresh := hoff
  name := hname
  plural := hplural
  relative := fun hrooted => hslash (List.mem_of_head? hrooted)
  level := fun r hr t => by
    obtain ⟨hpascal, hrplural⟩ := names_of_resource hr
    rw [← hpascal] at hslash
    rw [← hrplural] at hslash'
    exact (Resource.Slashless.inside ⟨hslash, hslash'⟩ t run.time).level

variable {d : Disk} {summary : Summary} {w : World}

/-- **What one run makes of the routes**: its block is added to them, and they are read at their
path. -/
theorem adds_routes (hd : d.Sound) (hup : base.climbs = false) (hplain : run.Plain base)
    (hdev : d.root.look (d.routesPlace base) ≠ some .device)
    (h : run.execute d = (.ok summary, w)) :
    d.Keeps w.disk ∧ ∃ c,
      c = (d.root.contents? (d.routesPlace base)).getD [] ++ routesBlock run.routes ∧
      w.disk.root.contents? (d.routesPlace base) = some c ∧
      w.disk.read (base.join ⟨"routes/web.php"⟩) = .ok c := by
  unfold execute at h
  obtain ⟨r, ns, steps, hr, hruns, hfiles⟩ := World.exists_run_of_generate hplain.noRefresh h
  rw [hplain.base] at hruns
  have hall : ∀ step ∈ steps, (base.join step.1.path).climbs = false := by
    intro step hstep
    have hmem := List.mem_map_of_mem (f := Prod.fst) hstep
    rw [hfiles] at hmem
    obtain ⟨t, ht⟩ := exists_path_of_mem hmem
    rw [ht]
    exact (hplain.inside hr t).climbs_join hup
  have hdelivered := hruns.deliveredAll hd hall
  have hnull : (base.join ⟨"routes/web.php"⟩).hasNull = false := by
    have hmem : r.routesFile _ ∈ steps.map Prod.fst := hfiles ▸ routesFile_mem r _
    obtain ⟨step, hstep, hfile⟩ := List.mem_map.1 hmem
    have hnone := hruns.hasNull hd step hstep
    rwa [hfile, Resource.routesFile, artifactPath_routes] at hnone
  obtain ⟨hname, hplural⟩ := names_of_resource hr
  obtain ⟨hfound, hcontents⟩ := hdelivered.adds_routes hfiles (hplain.inside hr) hdev
  rw [hname, hplural] at hcontents
  exact ⟨hdelivered.keeps, _, rfl, hcontents, Disk.read_eq_ok hnull hfound hcontents⟩

end Run

/-! ## Histories -/

/-- **Runs that succeed**, one after another on one disk. -/
inductive Runs : Disk → List Run → Disk → Prop
  | nil (d : Disk) : Runs d [] d
  | cons {d d' : Disk} {run : Run} {runs : List Run} {summary : Summary} {w : World}
      (first : run.execute d = (.ok summary, w)) (rest : Runs w.disk runs d') :
      Runs d (run :: runs) d'

namespace Runs

variable {d d' : Disk} {base : Path} {runs : List Run}

/-- What a history adds to the routes: the blocks of its runs. -/
def blocks (runs : List Run) : List UInt8 := runs.flatMap fun run => routesBlock run.routes

/-- **The routes after a history** are those before it and the blocks of its runs. -/
theorem adds_routes (h : Runs d runs d') (hd : d.Sound) (hup : base.climbs = false)
    (hplain : ∀ run ∈ runs, run.Plain base)
    (hdev : d.root.look (d.routesPlace base) ≠ some .device) (hne : runs ≠ []) :
    d'.read (base.join ⟨"routes/web.php"⟩) =
      .ok ((d.root.contents? (d.routesPlace base)).getD [] ++ blocks runs) := by
  induction h with
  | nil d => exact absurd rfl hne
  | @cons d d' run runs summary w first rest ih =>
    obtain ⟨hhead, htail⟩ := List.forall_mem_cons.1 hplain
    obtain ⟨hkeeps, c, hc, hcontents, hread⟩ := Run.adds_routes hd hup hhead hdev first
    cases rest with
    | nil =>
      rw [hread, hc, blocks, List.flatMap_singleton]
    | cons second more =>
      have hplace : w.disk.routesPlace base = d.routesPlace base := hkeeps.place _
      have hfile : w.disk.root.look (w.disk.routesPlace base) ≠ some .device := by
        rw [hplace, FileTree.contents?_eq_some_iff.1 hcontents]
        exact nofun
      have hlater := ih (hkeeps.sound hd) htail hfile (List.cons_ne_nil _ _)
      rw [hplace, hcontents, Option.getD_some, hc, List.append_assoc] at hlater
      exact hlater

theorem splitOn_append_blocks (h : ∀ run ∈ runs, ∀ s ∈ run.routes, OneLine s) (old : List UInt8) :
    (old ++ blocks runs).splitOn 10 =
      old.splitOn 10 ++ runs.flatMap fun run => run.routes.map encode ++ [[]] := by
  induction runs generalizing old with
  | nil => simp [blocks]
  | cons run rest ih =>
    obtain ⟨hrun, hrest⟩ := List.forall_mem_cons.1 h
    have hblocks : blocks (run :: rest) = routesBlock run.routes ++ blocks rest :=
      List.flatMap_cons
    have hne : run.routes ≠ [] := List.cons_ne_nil _ _
    rw [hblocks, ← List.append_assoc, ih hrest, splitOn_append_routesBlock hne hrun,
      List.append_assoc, List.flatMap_cons]

/-- **The routes over a history of runs.** Without any run the disk is as before. Else the file is
read at its path, and it holds what was in it before, if anything, followed by the block of each
run. Its lines are those from before and, for each run, its five statements and the end of the last
one, whatever the file ended with before. -/
theorem routes_eq (h : Runs d runs d') (hd : d.Sound) (hup : base.climbs = false)
    (hplain : ∀ run ∈ runs, run.Plain base)
    (hdev : d.root.look (d.routesPlace base) ≠ some .device) :
    let old := (d.root.contents? (d.routesPlace base)).getD []
    let new := old ++ runs.flatMap fun run =>
      encode ("\n" ++ "\n".intercalate run.routes ++ "\n")
    (runs = [] → d' = d) ∧
      (runs ≠ [] → d'.read (base.join ⟨"routes/web.php"⟩) = .ok new) ∧
      new.splitOn 10 = old.splitOn 10 ++ runs.flatMap fun run => run.routes.map encode ++ [[]] := by
  refine ⟨?_, h.adds_routes hd hup hplain hdev, ?_⟩
  · rintro rfl
    cases h
    rfl
  · exact splitOn_append_blocks (fun run hrun => (hplain run hrun).oneLine) _

/-- A run in a project with an input of its own. -/
def plainRun (plural input : String) : Run where
  host := .plain
  arguments := .plain "a" plural
  settings := .standard
  time := ⟨2017, 9, 16, 10, 3, 50⟩
  answers := encode input

/-- Two runs on routes whose last line has no end: the second run asks about files of the first, and
is given different answers. -/
theorem routes_eq_of_two_runs : ∃ d',
    Runs (.project [("web.php", .file (encode "<?php"))]) [plainRun "b" "", plainRun "c" "y\nno\n"]
      d' ∧
      d'.read ⟨"./routes/web.php"⟩ = .ok (encode ("<?php\n" ++
        "$router->get('/b', 'AController@getMany');\n" ++
        "$router->get('/b/\x7bid\x7d', 'AController@getOne');\n" ++
        "$router->put('/b/\x7bid\x7d', 'AController@update');\n" ++
        "$router->delete('/b/\x7bid\x7d', 'AController@delete');\n" ++
        "$router->post('/b', 'AController@create');\n\n" ++
        "$router->get('/c', 'AController@getMany');\n" ++
        "$router->get('/c/\x7bid\x7d', 'AController@getOne');\n" ++
        "$router->put('/c/\x7bid\x7d', 'AController@update');\n" ++
        "$router->delete('/c/\x7bid\x7d', 'AController@delete');\n" ++
        "$router->post('/c', 'AController@create');\n")) := by
  have hsome : ((World.diskAfter? ((plainRun "b" "").execute
      (.project [("web.php", .file (encode "<?php"))]))).bind fun d =>
        World.diskAfter? ((plainRun "c" "y\nno\n").execute d)).isSome = true := by decide +kernel
  obtain ⟨d', hd'⟩ := Option.isSome_iff_exists.1 hsome
  obtain ⟨d₁, hd₁, hd₂⟩ := Option.bind_eq_some_iff.1 hd'
  obtain ⟨summary₁, w₁, hfirst, rfl⟩ := World.exists_of_diskAfter? hd₁
  obtain ⟨summary₂, w₂, hsecond, -⟩ := World.exists_of_diskAfter? hd₂
  have hruns : Runs (.project [("web.php", .file (encode "<?php"))])
      [plainRun "b" "", plainRun "c" "y\nno\n"] w₂.disk := .cons hfirst (.cons hsecond (.nil _))
  have hplain : ∀ run ∈ [plainRun "b" "", plainRun "c" "y\nno\n"], run.Plain ⟨"."⟩ := by
    refine List.forall_mem_cons.2 ⟨?_, List.forall_mem_singleton.2 ?_⟩
    · exact Run.plain_of_slashless rfl rfl (by decide) (by decide) (by decide) (by decide)
    · exact Run.plain_of_slashless rfl rfl (by decide) (by decide) (by decide) (by decide)
  obtain ⟨-, hread, -⟩ := routes_eq hruns rfl (by decide) hplain (by decide +kernel)
  refine ⟨w₂.disk, hruns, (hread (List.cons_ne_nil _ _)).trans (congrArg Except.ok ?_)⟩
  decide +kernel

end Runs

end Groundwork
