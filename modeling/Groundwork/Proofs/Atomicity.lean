import Groundwork.Commands
import Groundwork.Proofs.Delivery.Step
import Groundwork.Proofs.Refusal

/-!
# Nothing is written before all is planned

A command line that is refused, and a template that does not render, are found while the plan is
made. At that time nothing has been asked, read, written or started.

* `World.Untouched`: nothing but notices was added.
* **`World.generate_refuses`**: a generation is refused exactly for the first flaw, and then the
  world is untouched.
-/

namespace Groundwork

/-- The failure is a refusal: of the description, or of a template. -/
def Failure.isRefusal : Failure → Bool
  | .rejected _ => true
  | .unrendered _ => true
  | _ => false

theorem Description.FirstFlaw.isRefusal {d : Description} {renderer : Renderer} {o : PlanOptions}
    {e : Failure} (h : d.FirstFlaw renderer o e) : e.isRefusal = true := by
  cases h <;> rfl

namespace World

open Description (result_preparePlan_eq_error_iff flawed_iff)

variable {h : Host} {a : Arguments} {s : Settings} {renderer : Renderer} {time : Timestamp}
  {w : World}

/-- **Nothing has happened to the world**: the disk is the same, no answer was read, and only
notices were added to the history, so that no question was put and no command started. -/
structure Untouched (w w' : World) : Prop where
  disk : w'.disk = w.disk
  answers : w'.answers = w.answers
  history : ∃ ns : List Notice, w'.history = w.history ++ ns.map .noted

theorem untouched_notice (w : World) (ns : List Notice) : w.Untouched (w.notice ns) :=
  ⟨rfl, rfl, ns, rfl⟩

theorem generate_of_error {e : Failure}
    (hp : (preparePlan a.description renderer ((a.apply s).planOptions time)).result = .error e) :
    w.generate h a s renderer time = (.error e, w.notice
      (preparePlan a.description renderer ((a.apply s).planOptions time)).notices) := by
  simp [generate, scaffold, hp]

theorem isRefusal_of_generate {files : List Artifact} {e : Failure}
    (hp : (preparePlan a.description renderer ((a.apply s).planOptions time)).result = .ok files)
    (he : (w.generate h a s renderer time).1 = .error e) : e.isRefusal = false := by
  unfold generate scaffold at he
  simp only [hp] at he
  split at he
  · rename_i e₁ w₁ hdeliver
    obtain rfl := Except.error.inj he
    obtain ⟨context, cause, rfl⟩ := eq_system_of_deliver hdeliver
    rfl
  · cases he

/-- **A generation is refused exactly for the first flaw**, if anything is wrong with the command
line or a template; and whenever it is refused, the world is untouched. -/
theorem generate_refuses (h : Host) (a : Arguments) (s : Settings) (renderer : Renderer)
    (time : Timestamp) (w : World) :
    (a.description.Flawed renderer ((a.apply s).planOptions time) ↔
      ∃ e, a.description.FirstFlaw renderer ((a.apply s).planOptions time) e) ∧
    (∀ e, a.description.FirstFlaw renderer ((a.apply s).planOptions time) e ↔
      e.isRefusal = true ∧ (w.generate h a s renderer time).1 = .error e) ∧
    ∀ e, e.isRefusal = true → (w.generate h a s renderer time).1 = .error e →
      w.Untouched (w.generate h a s renderer time).2 := by
  have hiff : ∀ e, a.description.FirstFlaw renderer ((a.apply s).planOptions time) e ↔
      e.isRefusal = true ∧ (w.generate h a s renderer time).1 = .error e := by
    intro e
    constructor
    · intro hflaw
      exact ⟨hflaw.isRefusal, by rw [generate_of_error (result_preparePlan_eq_error_iff.2 hflaw)]⟩
    · rintro ⟨hrefusal, he⟩
      cases hp : (preparePlan a.description renderer ((a.apply s).planOptions time)).result with
      | error e₁ =>
        rw [generate_of_error hp] at he
        obtain rfl := Except.error.inj he
        exact result_preparePlan_eq_error_iff.1 hp
      | ok files =>
        rw [isRefusal_of_generate hp he] at hrefusal
        cases hrefusal
  refine ⟨flawed_iff, hiff, fun e hrefusal he => ?_⟩
  have hflaw := (hiff e).2 ⟨hrefusal, he⟩
  rw [generate_of_error (result_preparePlan_eq_error_iff.2 hflaw)]
  exact untouched_notice w _

end World

end Groundwork
