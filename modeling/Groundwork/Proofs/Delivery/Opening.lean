import Groundwork.Proofs.Generation
import Groundwork.Proofs.Text.Bytes

/-!
# The tag that new files open with

The files of a resource open with the language tag, all but the routes: these are added to a file
that the project is taken to have. Whether it has is not looked at. Where the file is missing it is
made of the routes alone, and so it is the one new file that may lack the tag.

* `Text.Opens`, `Disk.Opened`: contents with the tag, and disks with files as before or with it.
* `World.look_of_deliverFile`: one step of a delivery, seen from one place.
* `World.Delivers.found`: what was delivered is found.
* `World.Delivers.opened`, `World.Delivers.look_other`: what a run of files with the tag does.
* **`World.generate_opens_iff`**: when all new files of a generation open with the tag.
-/

namespace Groundwork

open Text (encode encode_append)

/-! ## Tagged contents -/

/-- **The contents open with the language tag** and a blank line. -/
def Text.Opens (c : List UInt8) : Prop := encode "<?php\n\n" <+: c

instance (c : List UInt8) : Decidable (Text.Opens c) := inferInstanceAs (Decidable (_ <+: _))

open Text (Opens)

theorem Text.Opens.append {c : List UInt8} (h : Opens c) (more : List UInt8) : Opens (c ++ more) :=
  h.trans (List.prefix_append c more)

theorem opens_encode (text : String) : Opens (encode ("<?php\n\n" ++ text ++ "\n")) := by
  rw [encode_append]
  refine Text.Opens.append ?_ _
  rw [encode_append]
  exact List.prefix_append _ _

theorem not_opens_encode (text : String) : ¬ Opens (encode ("\n" ++ text ++ "\n")) := by
  have htag : encode "<?php\n\n" = 60 :: [63, 112, 104, 112, 10, 10] := by decide
  rw [encode_append, encode_append, Text.encode_lineFeed, Opens, htag]
  rintro ⟨more, hmore⟩
  exact absurd (List.head_eq_of_cons_eq hmore) (by decide)

namespace Disk

/-- **Every new file opens with the tag.** -/
def OpensNew (d d' : Disk) : Prop :=
  ∀ q c, d.root.look q = none → d'.root.look q = some (.file c) → Opens c

/-- **Every file is as it was, or opens with the tag.** -/
def Opened (d d' : Disk) : Prop :=
  ∀ q c, d'.root.look q = some (.file c) → d.root.look q = some (.file c) ∨ Opens c

variable {d d₁ d' : Disk}

theorem Opened.refl (d : Disk) : d.Opened d := fun _ _ h => .inl h

theorem Opened.trans (h : d.Opened d₁) (h' : d₁.Opened d') : d.Opened d' := fun q c hq =>
  (h' q c hq).elim (h q c) .inr

theorem Opened.opensNew (h : d.Opened d') : d.OpensNew d' := fun q c hnone hq =>
  (h q c hq).resolve_left fun hold => by rw [hnone] at hold; cases hold

end Disk

namespace World

variable {force : Bool} {base : Path} {a : Artifact} {o : Outcome} {w w' : World}
  {steps : List (Artifact × Outcome)} {q : Place}

/-! ## One step -/

/-- **One step, seen from one place**: it is as before, or a new directory, or the destination,
where the contents are altered. -/
theorem look_of_deliverFile (hd : w.disk.Sound) (h : w.deliverFile force base a = (.ok o, w'))
    (q : Place) :
    w'.disk.root.look q = w.disk.root.look q ∨
      w.disk.root.look q = none ∧ w'.disk.root.look q = some .directory ∨
      q = w.disk.place (base.join a.path) ∧
        w'.disk.root.look q = some (Node.altered a.change (w.disk.root.look q)) := by
  obtain ⟨-, -, -, hdisk, -⟩ | ⟨hchange, -⟩ | ⟨e, context, -, ho⟩ := deliverFile_cases h
  · rw [hdisk]
    exact .inl rfl
  · have hchanged := Disk.change_ok hd hchange
    by_cases hq : q = w.disk.place (base.join a.path)
    · subst hq
      exact .inr (.inr ⟨rfl, hchanged.look_place⟩)
    · rcases hchanged.look_other q hq with hsame | ⟨hnone, hdir, -⟩
      · exact .inl hsame
      · exact .inr (.inl ⟨hnone, hdir⟩)
  · cases ho

theorem found_of_deliverFile (hd : w.disk.Sound) (h : w.deliverFile force base a = (.ok o, w')) :
    w'.disk.find (base.join a.path) = .ok (w.disk.place (base.join a.path)) := by
  obtain ⟨hholds, -, -, hdisk, -⟩ | ⟨hchange, -⟩ | ⟨e, context, -, ho⟩ := deliverFile_cases h
  · rw [hdisk]
    exact ((Disk.holds_iff hd).1 hholds).2
  · exact (Disk.change_ok hd hchange).found
  · cases ho

theorem look_place_of_append (hd : w.disk.Sound) (hmode : a.mode = .append)
    (h : w.deliverFile force base a = (.ok o, w')) :
    w'.disk.root.look (w.disk.place (base.join a.path)) =
      some (Node.altered a.change (w.disk.root.look (w.disk.place (base.join a.path)))) := by
  obtain ⟨-, -, hcreate, -⟩ | ⟨hchange, -⟩ | ⟨e, context, -, ho⟩ := deliverFile_cases h
  · rw [hmode] at hcreate
    cases hcreate
  · exact (Disk.change_ok hd hchange).look_place
  · cases ho

theorem opened_of_deliverFile (hd : w.disk.Sound) (hmode : a.mode = .create)
    (htag : Opens (encode a.contents)) (h : w.deliverFile force base a = (.ok o, w')) :
    w.disk.Opened w'.disk := by
  intro q c hq
  rcases look_of_deliverFile hd h q with hsame | ⟨-, hdir⟩ | ⟨-, halt⟩
  · exact .inl (hsame ▸ hq)
  · rw [hdir] at hq
    cases hq
  · have hnew (old : List UInt8) : a.change old = encode a.contents := by
      unfold Artifact.change
      rw [hmode]
    rw [halt] at hq
    rcases altered_cases a.change (w.disk.root.look q) with ⟨-, hn⟩ | ⟨old, -, hn⟩ | ⟨-, hn⟩
    · rw [hn] at hq
      cases hq
    · rw [hn, hnew] at hq
      cases hq
      exact .inr htag
    · rw [hn, hnew] at hq
      cases hq
      exact .inr htag

/-! ## Runs -/

theorem Delivers.keeps (h : Delivers force base w steps w') (hd : w.disk.Sound) :
    w.disk.Keeps w'.disk := by
  induction h with
  | nil w => exact .refl w.disk
  | cons file _ ih =>
    have hstep := deliverFile_keeps hd file
    exact hstep.trans (ih (hstep.sound hd))

/-- **A run of files with the tag** leaves every file as it was or with the tag. -/
theorem Delivers.opened (h : Delivers force base w steps w') (hd : w.disk.Sound)
    (htag : ∀ step ∈ steps, step.1.mode = .create ∧ Opens (encode step.1.contents)) :
    w.disk.Opened w'.disk := by
  induction h with
  | nil w => exact .refl w.disk
  | cons file _ ih =>
    obtain ⟨⟨hmode, hhead⟩, hrest⟩ := List.forall_mem_cons.1 htag
    exact (opened_of_deliverFile hd hmode hhead file).trans
      (ih ((deliverFile_keeps hd file).sound hd) hrest)

/-- **All that was delivered is found** at its destination. -/
theorem Delivers.found (h : Delivers force base w steps w') (hd : w.disk.Sound) :
    ∀ step ∈ steps,
      w'.disk.find (base.join step.1.path) = .ok (w.disk.place (base.join step.1.path)) := by
  induction h with
  | nil w => exact List.forall_mem_nil _
  | cons file rest ih =>
    have hstep := deliverFile_keeps hd file
    have hd₁ := hstep.sound hd
    refine List.forall_mem_cons.2 ⟨?_, fun step hmem => ?_⟩
    · exact (rest.keeps hd₁).find hd₁ (found_of_deliverFile hd file)
    · rw [← hstep.place]
      exact ih hd₁ step hmem

theorem Delivers.look_place (h : Delivers force base w steps w') (hd : w.disk.Sound) :
    ∀ step ∈ steps, w'.disk.root.look (w.disk.place (base.join step.1.path)) ≠ none := by
  intro step hstep
  obtain ⟨-, -, hdir | ⟨hsome, -⟩⟩ :=
    (Disk.find_eq_ok_iff ((h.keeps hd).sound hd)).1 (h.found hd step hstep)
  · rw [hdir]
    exact Option.some_ne_none _
  · exact hsome

/-- **A place that is no destination** is as it was after a run, or a new directory. -/
theorem Delivers.look_other (h : Delivers force base w steps w') (hd : w.disk.Sound)
    (hq : ∀ step ∈ steps, w.disk.place (base.join step.1.path) ≠ q) :
    w'.disk.root.look q = w.disk.root.look q ∨
      w.disk.root.look q = none ∧ w'.disk.root.look q = some .directory := by
  induction h with
  | nil w => exact .inl rfl
  | cons file rest ih =>
    obtain ⟨hhead, htail⟩ := List.forall_mem_cons.1 hq
    have hstep := deliverFile_keeps hd file
    have hlater := ih (hstep.sound hd) fun step hmem => by
      rw [hstep.place]
      exact htail step hmem
    rcases look_of_deliverFile hd file q with hsame | ⟨hnone, hdir⟩ | ⟨hplace, -⟩
    · rwa [hsame] at hlater
    · rcases hlater with hsame | ⟨hnone₁, -⟩
      · exact .inr ⟨hnone, hsame.trans hdir⟩
      · rw [hnone₁] at hdir
        cases hdir
    · exact absurd hplace.symm hhead

/-! ## The routes after the other files -/

section Routes

variable {w₁ : World} {r : Resource} {op : PlanOptions}

variable (hd : w.disk.Sound) (hown : Delivers force base w steps w₁)
  (hfiles : steps.map Prod.fst = r.ownFiles op)
  (hroutes : w₁.deliverFile force base (r.routesFile op) = (.ok o, w'))

include hd hown hfiles in
theorem opened_of_ownFiles : w.disk.Opened w₁.disk := by
  refine hown.opened hd fun step hstep => ?_
  obtain ⟨t, -, hfile⟩ := exists_of_mem_ownFiles hfiles hstep
  rw [hfile]
  exact ⟨rfl, opens_encode _⟩

include hd hown in
theorem place_routesFile_after : w₁.disk.place (base.join (r.routesFile op).path) =
    w.disk.routesPlace base := by
  rw [(hown.keeps hd).place, place_routesFile]

include hd hown hfiles hroutes in
theorem opens_of_ne_routesPlace {c : List UInt8} (hq : q ≠ w.disk.routesPlace base)
    (hnone : w.disk.root.look q = none) (hfile : w'.disk.root.look q = some (.file c)) :
    Opens c := by
  rcases look_of_deliverFile ((hown.keeps hd).sound hd) hroutes q with
    hsame | ⟨-, hdir⟩ | ⟨hplace, -⟩
  · exact (opened_of_ownFiles hd hown hfiles).opensNew q c hnone (hsame ▸ hfile)
  · rw [hdir] at hfile
    cases hfile
  · exact absurd (hplace.trans (place_routesFile_after hd hown)) hq

include hd hown hroutes in
theorem look_routesPlace : w'.disk.root.look (w.disk.routesPlace base) =
    some (Node.altered (r.routesFile op).change (w₁.disk.root.look (w.disk.routesPlace base))) := by
  have hlook := look_place_of_append ((hown.keeps hd).sound hd) rfl hroutes
  rwa [place_routesFile_after hd hown] at hlook

include hd hown hroutes in
theorem look_routesPlace_ne_directory :
    w₁.disk.root.look (w.disk.routesPlace base) ≠ some .directory := by
  intro hdir
  have hkept := (deliverFile_keeps ((hown.keeps hd).sound hd) hroutes).directory hdir
  rw [look_routesPlace hd hown hroutes] at hkept
  exact altered_ne_directory _ _ (Option.some.inj hkept)

include hd hown hfiles hroutes in
theorem opens_of_shared {c : List UInt8} {t : Template} (ht : t ≠ .routes)
    (hplace : w.disk.place (base.join (artifactPath t r op.timestamp)) = w.disk.routesPlace base)
    (hnone : w.disk.root.look (w.disk.routesPlace base) = none)
    (hfile : w'.disk.root.look (w.disk.routesPlace base) = some (.file c)) : Opens c := by
  obtain ⟨b, hb, hpath⟩ := exists_mem_ownFiles (r := r) (o := op) ht
  rw [← hfiles] at hb
  obtain ⟨step, hstep, rfl⟩ := List.mem_map.1 hb
  have hthere := hown.look_place hd step hstep
  rw [hpath, hplace] at hthere
  rw [look_routesPlace hd hown hroutes] at hfile
  rcases altered_cases (r.routesFile op).change (w₁.disk.root.look (w.disk.routesPlace base)) with
    ⟨-, hn⟩ | ⟨old, hold, hn⟩ | ⟨hno | hdir, -⟩
  · rw [hn] at hfile
    cases hfile
  · rw [hn] at hfile
    cases hfile
    exact Text.Opens.append ((opened_of_ownFiles hd hown hfiles).opensNew _ old hnone hold) _
  · exact absurd hno hthere
  · exact absurd hdir (look_routesPlace_ne_directory hd hown hroutes)

include hd hown hfiles hroutes in
theorem look_routesPlace_of_missing
    (hplace : ∀ t ≠ Template.routes,
      w.disk.place (base.join (artifactPath t r op.timestamp)) ≠ w.disk.routesPlace base)
    (hnone : w.disk.root.look (w.disk.routesPlace base) = none) :
    w'.disk.root.look (w.disk.routesPlace base) =
      some (.file (encode ("\n" ++ "\n".intercalate (r.lines op .routes) ++ "\n"))) := by
  have hother (step : Artifact × Outcome) (hstep : step ∈ steps) :
      w.disk.place (base.join step.1.path) ≠ w.disk.routesPlace base := by
    obtain ⟨t, ht, hfile⟩ := exists_of_mem_ownFiles hfiles hstep
    rw [hfile]
    exact hplace t ht
  have hleft : w₁.disk.root.look (w.disk.routesPlace base) = none := by
    rcases hown.look_other hd hother with hsame | ⟨-, hdir⟩
    · rw [hsame, hnone]
    · exact absurd hdir (look_routesPlace_ne_directory hd hown hroutes)
  rw [look_routesPlace hd hown hroutes, hleft]
  rfl

end Routes

/-! ## Generations -/

/-- **The new files of a generation** open with the language tag, all but the routes. These do too
exactly if something was at their place before, or one of the resource's other files has gone there;
else they are the block of routes alone, without the tag. -/
theorem generate_opens_iff {h : Host} {a : Arguments} {s : Settings} {time : Timestamp}
    {summary : Summary} (hd : w.disk.Sound) (hoff : (a.apply s).dumpAutoload = false)
    (hok : w.generate h a s Renderer.standard time = (.ok summary, w')) :
    ∃ r, a.description.resource.result = .ok r ∧
      (∀ q ≠ w.disk.routesPlace (a.base h), ∀ c, w.disk.root.look q = none →
        w'.disk.root.look q = some (.file c) → Opens c) ∧
      (w.disk.OpensNew w'.disk ↔ w.disk.root.look (w.disk.routesPlace (a.base h)) ≠ none ∨
        ∃ t ≠ Template.routes, w.disk.place ((a.base h).join (artifactPath t r time)) =
          w.disk.routesPlace (a.base h)) ∧
      (w.disk.root.look (w.disk.routesPlace (a.base h)) = none →
        (∀ t ≠ Template.routes, w.disk.place ((a.base h).join (artifactPath t r time)) ≠
          w.disk.routesPlace (a.base h)) →
        w'.disk.root.look (w.disk.routesPlace (a.base h)) = some (.file (encode
          ("\n" ++ "\n".intercalate (r.lines ((a.apply s).planOptions time) .routes) ++ "\n")))) := by
  obtain ⟨r, ns, steps, w₁, o, hr, hown, hfiles, hroutes⟩ := exists_parts_of_generate hoff hok
  have hmissing (hnone : w.disk.root.look (w.disk.routesPlace (a.base h)) = none)
      (hplace : ∀ t ≠ Template.routes, w.disk.place ((a.base h).join (artifactPath t r time)) ≠
        w.disk.routesPlace (a.base h)) :=
    look_routesPlace_of_missing (w := w.notice ns) hd hown hfiles hroutes hplace hnone
  have helse (q : Place) (hq : q ≠ w.disk.routesPlace (a.base h)) (c : List UInt8)
      (hnone : w.disk.root.look q = none) (hfile : w'.disk.root.look q = some (.file c)) : Opens c :=
    opens_of_ne_routesPlace (w := w.notice ns) hd hown hfiles hroutes hq hnone hfile
  refine ⟨r, hr, helse, ⟨fun hall => ?_, fun hcases q c hnone hfile => ?_⟩, hmissing⟩
  · by_contra hnot
    obtain ⟨hthere, hshared⟩ := not_or.1 hnot
    have hnone := not_not.1 hthere
    have hfile := hmissing hnone fun t ht hplace => hshared ⟨t, ht, hplace⟩
    exact not_opens_encode _ (hall _ _ hnone hfile)
  · by_cases hq : q = w.disk.routesPlace (a.base h)
    · subst hq
      obtain ⟨t, ht, hplace⟩ := hcases.resolve_left fun hthere => hthere hnone
      exact opens_of_shared (w := w.notice ns) hd hown hfiles hroutes ht hplace hnone hfile
    · exact helse q hq c hnone hfile

/-- The model of this resource goes to the place of the routes, so that all files open with the
tag. -/
theorem generate_opens_of_model_at_routes : ∃ summary w',
    World.generate .plain (.plain "../routes/web" "cats") .standard Renderer.standard
      ⟨2017, 9, 16, 10, 3, 50⟩ ⟨.project [], [], []⟩ = (.ok summary, w') ∧
      (Disk.project []).root.look ["routes", "web.php"] = none ∧
      (Disk.project []).OpensNew w'.disk := by
  have hsome : (diskAfter? (World.generate .plain (.plain "../routes/web" "cats") .standard
      Renderer.standard ⟨2017, 9, 16, 10, 3, 50⟩ ⟨.project [], [], []⟩)).isSome = true := by
    decide +kernel
  obtain ⟨d', hd'⟩ := Option.isSome_iff_exists.1 hsome
  obtain ⟨summary, w', hgen, -⟩ := exists_of_diskAfter? hd'
  refine ⟨summary, w', hgen, rfl, ?_⟩
  obtain ⟨r, hr, -, hiff, -⟩ := generate_opens_iff (w := ⟨.project [], [], []⟩) rfl rfl hgen
  have hresource : (Arguments.plain "../routes/web" "cats").description.resource.result =
      .ok ⟨"../routes/web", "cats", [], false, by decide, by decide⟩ := by decide +kernel
  rw [hresource] at hr
  obtain rfl := Except.ok.inj hr
  exact hiff.2 (.inr ⟨.model, by decide, by decide +kernel⟩)

/-- Routes that are missing are made without the tag. -/
theorem exists_new_file_without_tag : ∃ summary w' c,
    World.generate .plain (.plain "cat" "cats") .standard Renderer.standard
      ⟨2017, 9, 16, 10, 3, 50⟩ ⟨.project [], [], []⟩ = (.ok summary, w') ∧
      (Disk.project []).root.look ["routes", "web.php"] = none ∧
      w'.disk.root.look ["routes", "web.php"] = some (.file c) ∧ ¬ Opens c := by
  have hfound : ((diskAfter? (World.generate .plain (.plain "cat" "cats") .standard
      Renderer.standard ⟨2017, 9, 16, 10, 3, 50⟩ ⟨.project [], [], []⟩)).bind fun d' =>
        (d'.root.contents? ["routes", "web.php"]).map (decide <| Opens ·)) = some false := by
    decide +kernel
  obtain ⟨d', hd', hfile⟩ := Option.bind_eq_some_iff.1 hfound
  obtain ⟨summary, w', hgen, rfl⟩ := exists_of_diskAfter? hd'
  obtain ⟨c, hc, hopens⟩ := Option.map_eq_some_iff.1 hfile
  exact ⟨summary, w', c, hgen, rfl, FileTree.contents?_eq_some_iff.1 hc, of_decide_eq_false hopens⟩

end World

end Groundwork
