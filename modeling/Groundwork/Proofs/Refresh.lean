import Groundwork.Proofs.Generation

/-!
# The refresh comes last

The refresh command has no say in what is generated: when it is looked at, all files are written.
Whether it is switched on, what it is and what becomes of it makes no difference to the result, to
the questions or to the answers that are read. A refresh that fails adds a warning.

* `Event.commands`: the commands that were started in the course of a history.
* `World.Refreshes`: the ways in which a refresh can end, with the entries that it adds.
* `World.Concludes`: what follows on the delivery, a refresh or nothing.
* **`World.tryRefresh_refreshes`**: a refresh ends in one of these ways.
* **`World.generate_refreshes_last`**: generations with different refresh commands, and what the
  command of one adds to it.
-/

namespace Groundwork

/-! ## Histories -/

/-- The command that an entry of the history stands for: the program, its arguments and where it was
started. -/
def Event.command? : Event → Option (String × List String × Place)
  | .started program arguments directory => some (program, arguments, directory)
  | _ => none

/-- **The commands that were started** in the course of a history. -/
def Event.commands (history : List Event) : List (String × List String × Place) :=
  history.filterMap Event.command?

theorem commands_append (history added : List Event) :
    Event.commands (history ++ added) = Event.commands history ++ Event.commands added :=
  List.filterMap_append

theorem commands_map_noted (ns : List Notice) : Event.commands (ns.map .noted) = [] :=
  List.filterMap_eq_nil_iff.2 (List.forall_mem_map.2 fun _ _ => rfl)

theorem questions_append {added : List Event} (h : ∀ q, .asked q ∉ added) (history : List Event) :
    Event.questions (history ++ added) = Event.questions history := by
  unfold Event.questions
  rw [List.filterMap_append]
  refine congrArg String.join (List.append_right_eq_self.2 (List.filterMap_eq_nil_iff.2 ?_))
  intro e he
  cases e with
  | asked q => exact absurd he (h q)
  | _ => rfl

/-- The entries before a refresh command is started. -/
def Event.announcement (program : String) (arguments : List String) (base : Path) : List Event :=
  [.shown "Dumping autoload", .noted (.refreshing program arguments base.text)]

/-- **The warning** about a refresh that failed. -/
def Failure.warning (e : Failure) : List Event :=
  [.noted (.refreshFailed e.headline),
    .shown ("WARNING Could not refresh autoload: " ++ e.message)]

namespace World

variable {h : Host} {a : Arguments} {s : Settings} {renderer : Renderer} {time : Timestamp}
  {force : Bool} {base : Path} {summary : Summary} {w w' : World} {added : List Event} {d : Disk}

/-! ## Refreshes -/

/-- **The ways in which a refresh can end**, each with the entries that it adds to the history and
the disk that it leaves. Only a program that was started may change the disk. -/
inductive Refreshes (h : Host) (s : Settings) (base : Path) (w : World) :
    List Event → Disk → Prop
  | noProgram {r : Rejection} (command : s.program = .error r) :
      Refreshes h s base w (Failure.rejected r).warning w.disk
  | notStarted {name : String} {arguments : List String} {cause : IoError}
      (command : s.program = .ok (name, arguments)) :
      Refreshes h s base w
        (Event.announcement name arguments base ++ (Failure.system [] cause).warning) w.disk
  | succeeded {name : String} {arguments : List String} {program : Program} {entered d : Disk}
      (command : s.program = .ok (name, arguments)) (enter : w.disk.enter base = .ok entered)
      (resolve : h.resolve name entered = .ok program)
      (run : program arguments entered = (true, d)) :
      Refreshes h s base w
        (Event.announcement name arguments base ++ [.started name arguments entered.current])
        { d with current := w.disk.current }
  | failed {name : String} {arguments : List String} {program : Program} {entered d : Disk}
      (command : s.program = .ok (name, arguments)) (enter : w.disk.enter base = .ok entered)
      (resolve : h.resolve name entered = .ok program)
      (run : program arguments entered = (false, d)) :
      Refreshes h s base w
        (Event.announcement name arguments base ++ .started name arguments entered.current ::
          (Failure.commandFailed s.autoloadCommand).warning)
        { d with current := w.disk.current }

/-- **A refresh ends in one of these ways**, and reads no answers. -/
theorem tryRefresh_refreshes (h : Host) (s : Settings) (base : Path) (w : World) :
    ∃ added d, w.Refreshes h s base added d ∧
      w.tryRefresh h s base = ⟨d, w.answers, w.history ++ added⟩ := by
  unfold tryRefresh refreshAutoload start
  cases hcommand : s.program with
  | error r => exact ⟨_, _, .noProgram hcommand, by simp [notice, record, Failure.warning]⟩
  | ok command =>
    obtain ⟨name, arguments⟩ := command
    have hnot (cause : IoError) : w.Refreshes h s base
        (Event.announcement name arguments base ++ (Failure.system [] cause).warning) w.disk :=
      .notStarted hcommand
    by_cases hnull : (name :: base.text :: arguments).any hasNull = true
    · refine ⟨_, _, hnot .nullInCommand, ?_⟩
      simp only [hnull, if_true]
      simp [notice, record, Event.announcement, Failure.warning]
    cases henter : w.disk.enter base with
    | error e =>
      refine ⟨_, _, hnot (.system e), ?_⟩
      simp only [hnull, notice, record, henter]
      simp [Event.announcement, Failure.warning]
    | ok entered =>
      cases hresolve : h.resolve name entered with
      | error e =>
        refine ⟨_, _, hnot (.system e), ?_⟩
        simp only [hnull, notice, record, henter, hresolve]
        simp [Event.announcement, Failure.warning]
      | ok program =>
        rcases hrun : program arguments entered with ⟨succeeded, d⟩
        cases succeeded with
        | true =>
          refine ⟨_, _, .succeeded hcommand henter hresolve hrun, ?_⟩
          simp only [hnull, notice, record, henter, hresolve, hrun]
          simp [withDisk, Event.announcement]
        | false =>
          refine ⟨_, _, .failed hcommand henter hresolve hrun, ?_⟩
          simp only [hnull, notice, record, henter, hresolve, hrun]
          simp [withDisk, Event.announcement, Failure.warning]

theorem Refreshes.quiet (hr : w.Refreshes h s base added d) :
    (∀ q, .asked q ∉ added) ∧ (Event.commands added).length ≤ 1 := by
  cases hr with
  | noProgram => exact ⟨by simp [Failure.warning], Nat.zero_le 1⟩
  | notStarted => exact ⟨by simp [Event.announcement, Failure.warning], Nat.zero_le 1⟩
  | succeeded => exact ⟨by simp [Event.announcement], Nat.le_refl 1⟩
  | failed => exact ⟨by simp [Event.announcement, Failure.warning], Nat.le_refl 1⟩

/-! ## Writing -/

theorem commands_notice (w : World) (ns : List Notice) :
    Event.commands (w.notice ns).history = Event.commands w.history := by
  rw [notice, commands_append, commands_map_noted, List.append_nil]

theorem commands_of_writeFile {p : Path} {f : Artifact} {r : Except Failure Outcome}
    (hwrite : w.writeFile force p f = (r, w')) :
    Event.commands w'.history = Event.commands w.history := by
  unfold writeFile at hwrite
  cases hmode : f.mode with
  | create =>
    rcases hconfirmed : w.writeConfirmed force p f.contents with ⟨r₁, w₁⟩
    have hhistory : Event.commands w₁.history = Event.commands w.history := by
      rw [history_of_writeConfirmed hconfirmed]
      split
      · rw [commands_append]
        exact List.append_nil _
      · rfl
    rw [hmode] at hwrite
    simp only [hconfirmed] at hwrite
    rcases r₁ with e | written <;> obtain ⟨-, rfl⟩ := Prod.mk.inj hwrite <;> exact hhistory
  | append =>
    rcases happend : w.append p f.contents with ⟨r₁, w₁⟩
    have hhistory : w₁.history = w.history := by
      rw [(append_cases happend).1]
      rfl
    rw [hmode] at hwrite
    simp only [happend] at hwrite
    rcases r₁ with e | _ <;> obtain ⟨-, rfl⟩ := Prod.mk.inj hwrite <;> rw [hhistory]

theorem commands_of_deliverFile {f : Artifact} {r : Except Failure Outcome}
    (hfile : w.deliverFile force base f = (r, w')) :
    Event.commands w'.history = Event.commands w.history := by
  unfold deliverFile at hfile
  rcases hwrite : w.writeFile force (base.join f.path) f with ⟨e | o, w₁⟩
  · simp only [hwrite] at hfile
    obtain ⟨-, rfl⟩ := Prod.mk.inj hfile
    exact commands_of_writeFile hwrite
  · simp only [hwrite] at hfile
    obtain ⟨-, rfl⟩ := Prod.mk.inj hfile
    rw [record, commands_append, commands_of_writeFile hwrite]
    exact List.append_nil _

theorem commands_of_deliver {files : List Artifact} {r : Except Failure Summary}
    (hdeliver : w.deliver force base files = (r, w')) :
    Event.commands w'.history = Event.commands w.history := by
  induction files generalizing w r with
  | nil =>
    obtain ⟨-, rfl⟩ := Prod.mk.inj hdeliver
    rfl
  | cons f rest ih =>
    obtain ⟨e, hfile, -⟩ | ⟨o, w₁, hfile, ⟨e, hrest, -⟩ | ⟨s, hrest, -⟩⟩ :=
      deliver_cons_cases hdeliver
    · exact commands_of_deliverFile hfile
    · rw [ih hrest, commands_of_deliverFile hfile]
    · rw [ih hrest, commands_of_deliverFile hfile]

theorem commands_scaffold (h : Host) (a : Arguments) (s : Settings) (renderer : Renderer)
    (time : Timestamp) (w : World) :
    Event.commands (w.scaffold h a s renderer time).2.history = Event.commands w.history := by
  unfold scaffold
  simp only
  split
  · exact commands_notice w _
  · rw [commands_of_deliver rfl, commands_notice]

theorem exists_delivers_of_scaffold (hok : (w.scaffold h a s renderer time).1 = .ok summary) :
    ∃ ns steps, Delivers a.force (a.base h) (w.notice ns) steps
        (w.scaffold h a s renderer time).2 ∧
      steps.map (·.1.template) = Template.all := by
  obtain ⟨r, text, ns, steps, -, -, hruns, hfiles⟩ :=
    exists_run_of_scaffold (Prod.ext hok rfl : w.scaffold h a s renderer time = (.ok summary, _))
  have htemplates := congrArg (List.map Artifact.template) hfiles
  rw [List.map_map] at htemplates
  exact ⟨ns, steps, hruns, htemplates⟩

/-! ## Generations -/

/-- **What follows on planning and delivery**: nothing if they have failed or no refresh is wanted,
else a refresh. -/
inductive Concludes (h : Host) (a : Arguments) (s : Settings)
    (written : Except Failure Summary × World) : World → Prop
  | done (none : (∃ e, written.1 = .error e) ∨ s.dumpAutoload = false ∨ a.skipAutoload = true) :
      Concludes h a s written written.2
  | refreshed {summary : Summary} {added : List Event} {d : Disk} (ok : written.1 = .ok summary)
      (wanted : s.dumpAutoload = true ∧ a.skipAutoload = false)
      (refresh : written.2.Refreshes h s (a.base h) added d) :
      Concludes h a s written ⟨d, written.2.answers, written.2.history ++ added⟩

theorem generate_concludes (h : Host) (a : Arguments) (s : Settings) (renderer : Renderer)
    (time : Timestamp) (w : World) :
    (w.generate h a s renderer time).1 = (w.scaffold h a s renderer time).1 ∧
      Concludes h a s (w.scaffold h a s renderer time) (w.generate h a s renderer time).2 := by
  unfold generate
  rcases w.scaffold h a s renderer time with ⟨e | summary, w₁⟩
  · exact ⟨rfl, .done (.inl ⟨e, rfl⟩)⟩
  refine ⟨rfl, ?_⟩
  change Concludes h a s _ (if (s.dumpAutoload && !a.skipAutoload) = true then
    w₁.tryRefresh h (a.apply s) (a.base h) else w₁)
  by_cases hwanted : s.dumpAutoload = true ∧ a.skipAutoload = false
  · rw [if_pos (by simpa using hwanted)]
    obtain ⟨added, d, hrefresh, heq⟩ := tryRefresh_refreshes h (a.apply s) (a.base h) w₁
    rw [heq]
    -- The command line changes neither the command nor what it is.
    have hsame : w₁.Refreshes h s (a.base h) added d := by
      cases hrefresh with
      | noProgram command => exact .noProgram command
      | notStarted command => exact .notStarted command
      | succeeded command enter resolve run => exact .succeeded command enter resolve run
      | failed command enter resolve run => exact .failed command enter resolve run
    exact .refreshed rfl hwanted hsame
  · rw [if_neg (by simpa using hwanted)]
    refine .done (.inr ?_)
    rcases not_and_or.1 hwanted with hoff | hskip
    · exact .inl (Bool.eq_false_iff.2 hoff)
    · exact .inr (by simpa using hskip)

/-- **What follows adds little to the history**: no question, and one command at most, which is only
started if it is wanted and all is written. No answer is read. -/
theorem Concludes.adds {written : Except Failure Summary × World}
    (hc : Concludes h a s written w') : w'.answers = written.2.answers ∧
      ∃ added, w'.history = written.2.history ++ added ∧ (∀ q, .asked q ∉ added) ∧
        (Event.commands added).length ≤ 1 ∧
        (Event.commands added ≠ [] → (s.dumpAutoload = true ∧ a.skipAutoload = false) ∧
          ∃ summary, written.1 = .ok summary) := by
  cases hc with
  | done none =>
    refine ⟨rfl, [], (List.append_nil _).symm, fun q => List.not_mem_nil, Nat.zero_le 1, ?_⟩
    exact fun hne => absurd rfl hne
  | @refreshed summary added d ok wanted refresh =>
    obtain ⟨hsilent, hone⟩ := refresh.quiet
    exact ⟨rfl, added, rfl, hsilent, hone, fun _ => ⟨wanted, summary, ok⟩⟩

/-- The result of a generation, the questions and the answers read are those of planning and
delivery. -/
theorem generate_observed (h : Host) (a : Arguments) (s : Settings) (renderer : Renderer)
    (time : Timestamp) (w : World) :
    let written := w.scaffold h a s renderer time
    let after := w.generate h a s renderer time
    after.1 = written.1 ∧ after.2.answers = written.2.answers ∧
      Event.questions after.2.history = Event.questions written.2.history := by
  obtain ⟨hresult, hconcludes⟩ := generate_concludes h a s renderer time w
  obtain ⟨hanswers, added, hhistory, hsilent, -⟩ := hconcludes.adds
  refine ⟨hresult, hanswers, ?_⟩
  rw [hhistory]
  exact questions_append hsilent _

/-- **The refresh comes last.** Settings that differ in it alone give the same planning and
delivery, and so the same result, questions and answers read. What follows on these, if they have
succeeded and a refresh is wanted, is a refresh. No command is started before that, and then one at
most, when all eight files have been delivered. -/
theorem generate_refreshes_last (h : Host) (a : Arguments) (s : Settings) (renderer : Renderer)
    (time : Timestamp) (w : World) :
    let written := w.scaffold h a s renderer time
    let after := w.generate h a s renderer time
    (∀ dump command,
      let other : Settings := { s with dumpAutoload := dump, autoloadCommand := command }
      let after' := w.generate h a other renderer time
      w.scaffold h a other renderer time = written ∧
        after'.1 = after.1 ∧ after'.2.answers = after.2.answers ∧
        Event.questions after'.2.history = Event.questions after.2.history) ∧
    after.1 = written.1 ∧ Concludes h a s written after.2 ∧
    Event.commands written.2.history = Event.commands w.history ∧
    ∃ added, after.2.history = written.2.history ++ added ∧ (∀ q, .asked q ∉ added) ∧
      (Event.commands added).length ≤ 1 ∧
      (Event.commands added ≠ [] → s.dumpAutoload = true ∧ a.skipAutoload = false ∧
        ∃ summary ns steps, written.1 = .ok summary ∧
          Delivers a.force (a.base h) (w.notice ns) steps written.2 ∧
          steps.map (·.1.template) = Template.all) := by
  obtain ⟨hresult, hanswers, hquestions⟩ := generate_observed h a s renderer time w
  have hconcludes := (generate_concludes h a s renderer time w).2
  obtain ⟨-, added, hhistory, hsilent, hone, hstarted⟩ := hconcludes.adds
  refine ⟨fun dump command => ?_, hresult, hconcludes, commands_scaffold h a s renderer time w,
    added, hhistory, hsilent, hone, fun hne => ?_⟩
  · obtain ⟨hresult', hanswers', hquestions'⟩ := generate_observed h a
      { s with dumpAutoload := dump, autoloadCommand := command } renderer time w
    exact ⟨rfl, hresult'.trans hresult.symm, hanswers'.trans hanswers.symm,
      hquestions'.trans hquestions.symm⟩
  · obtain ⟨⟨hwanted, hskip⟩, summary, hok⟩ := hstarted hne
    obtain ⟨ns, steps, hruns, htemplates⟩ := exists_delivers_of_scaffold hok
    exact ⟨hwanted, hskip, summary, ns, steps, hok, hruns, htemplates⟩

end World

end Groundwork
