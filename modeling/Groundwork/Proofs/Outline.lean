import Groundwork.Proofs.Atomicity
import Groundwork.Proofs.CommandLine.Extension

/-!
# Showing fails like generating

The command that shows a resource and the one that generates its files read the same description and
make the same resource of it, before they do anything else. So whatever is wrong with the
description is found by both, with the same notices on the way.

* **`World.outline_rejected_iff`**, **`World.generate_rejected_iff`**: when either command rejects a
  description, and what it leaves then.
* **`World.outline_fails_like_generate`**: the two commands on one command line.
-/

namespace Groundwork

namespace World

variable {h : Host} {a : Arguments} {s : Settings} {renderer : Renderer} {time : Timestamp}
  {d : Description} {e : Rejection} {w w' : World}

/-- **The showing command rejects a description** of which no resource can be made. -/
theorem outline_rejected_iff : w.outline d = (.error (.rejected e), w') ↔
    d.resource.result = .error e ∧ w' = w.notice d.resource.notices := by
  unfold outline
  cases d.resource.result with
  | error r => simp [eq_comm]
  | ok r => simp

theorem outline_keeps (d : Description) (w : World) :
    (w.outline d).2.disk = w.disk ∧ (w.outline d).2.answers = w.answers := by
  have hshown (lines : List String) (w : World) :
      (lines.foldl (fun w line => w.record (.shown line)) w).disk = w.disk ∧
        (lines.foldl (fun w line => w.record (.shown line)) w).answers = w.answers := by
    induction lines generalizing w with
    | nil => exact ⟨rfl, rfl⟩
    | cons line rest ih => exact ih (w.record (.shown line))
  unfold outline
  cases d.resource.result with
  | error r => exact ⟨rfl, rfl⟩
  | ok r => exact hshown r.outline _

theorem preparePlan_of_rejected {o : PlanOptions} (he : d.resource.result = .error e) :
    preparePlan d renderer o = ⟨d.resource.notices, .error (.rejected e)⟩ := by
  simp [preparePlan, Noted.mapFailure, Noted.andThen, Except.mapError, he]

theorem generate_ne_rejected {r : Resource} (hr : a.description.resource.result = .ok r) :
    (w.generate h a s renderer time).1 ≠ .error (.rejected e) := by
  intro hrejected
  cases hprepared : (preparePlan a.description renderer ((a.apply s).planOptions time)).result with
  | ok files => cases isRefusal_of_generate hprepared hrejected
  | error f =>
    rw [generate_of_error hprepared] at hrejected
    obtain rfl : f = .rejected e := Except.error.inj hrejected
    rw [preparePlan, Noted.result_andThen_eq_error_iff] at hprepared
    rcases hprepared with hresource | ⟨r', -, hplan⟩
    · obtain ⟨e', he', -⟩ := Noted.result_mapFailure_eq_error_iff.1 hresource
      rw [hr] at he'
      cases he'
    · obtain ⟨e', -, he'⟩ := Noted.result_mapFailure_eq_error_iff.1 hplan
      cases he'

/-- **The generating command rejects the same descriptions**, and does nothing else then. -/
theorem generate_rejected_iff : w.generate h a s renderer time = (.error (.rejected e), w') ↔
    a.description.resource.result = .error e ∧
      w' = w.notice a.description.resource.notices := by
  cases hresource : a.description.resource.result with
  | error r =>
    have hprepared : preparePlan a.description renderer ((a.apply s).planOptions time) = _ :=
      preparePlan_of_rejected hresource
    rw [generate_of_error (congrArg Noted.result hprepared), hprepared]
    simp [eq_comm]
  | ok r =>
    refine iff_of_false (fun hgenerate => ?_) fun hboth => nomatch hboth.1
    exact generate_ne_rejected hresource (congrArg Prod.fst hgenerate)

theorem rejected_with_notices_iff {α : Type} {x : Except Failure α × World} {ns found : List Notice}
    {rejected : Rejection → Prop}
    (hx : ∀ e w', x = (.error (.rejected e), w') ↔ rejected e ∧ w' = w.notice found) :
    (x.1 = .error (.rejected e) ∧ x.2.history = w.history ++ ns.map .noted) ↔
      rejected e ∧ found.map Event.noted = ns.map .noted := by
  obtain ⟨r, w₁⟩ := x
  constructor
  · rintro ⟨hr, hhistory⟩
    obtain ⟨hrejected, hw₁⟩ := (hx e w₁).1 (Prod.ext hr rfl)
    rw [hw₁] at hhistory
    exact ⟨hrejected, List.append_cancel_left hhistory⟩
  · rintro ⟨hrejected, hfound⟩
    obtain ⟨rfl, rfl⟩ := Prod.mk.inj ((hx e _).2 ⟨hrejected, rfl⟩)
    exact ⟨rfl, congrArg (w.history ++ ·) hfound⟩

/-- **The two commands on one command line.** What the showing command accepts the generating
command accepts, with the same description and nothing else, by itself and as a command of the
program. One rejects the description after it has given some notices exactly if the other does,
whatever the host, the settings, the renderer and the time, and whatever the two worlds are. Showing
changes nothing but the history. -/
theorem outline_fails_like_generate (d : Description) :
    (∀ words, readDescription words = .ok d → readArguments words = .ok (.bare d)) ∧
    (∀ words verbose v, readNamed verbose "info" words = .ok ⟨.info d, v⟩ →
      readNamed verbose "resource" words = .ok ⟨.resource (.bare d), v⟩) ∧
    (∀ (h : Host) (s : Settings) (renderer : Renderer) (time : Timestamp) (w w' : World)
      (e : Rejection) (ns : List Notice),
      ((w.outline d).1 = .error (.rejected e) ∧
        (w.outline d).2.history = w.history ++ ns.map .noted) ↔
      ((w'.generate h (.bare d) s renderer time).1 = .error (.rejected e) ∧
        (w'.generate h (.bare d) s renderer time).2.history = w'.history ++ ns.map .noted)) ∧
    ∀ w : World, (w.outline d).2.disk = w.disk ∧ (w.outline d).2.answers = w.answers := by
  refine ⟨fun _ => readArguments_of_readDescription, fun _ _ _ => readNamed_resource_of_info,
    fun h s renderer time w w' e ns => ?_, outline_keeps d⟩
  rw [rejected_with_notices_iff fun _ _ => outline_rejected_iff,
    rejected_with_notices_iff fun _ _ => generate_rejected_iff]
  exact Iff.rfl

/-- A word after the escape looks like an option and has no type; the field before it has an empty
one. -/
theorem outline_fails_like_generate_after_escape :
    let words := ["cat", "--soft-deletes", "cats", "a:", "--", "-b"]
    ∃ d, readDescription words = .ok d ∧ readArguments words = .ok (.bare d) ∧
      ∀ (h : Host) (s : Settings) (renderer : Renderer) (time : Timestamp) (w : World),
        (w.generate h (.bare d) s renderer time).1 =
          .error (.rejected (.malformedField "-b" .missingType)) ∧
        (w.generate h (.bare d) s renderer time).2.history =
          w.history ++ [.noted (.emptyType "a")] := by
  have hread : readDescription ["cat", "--soft-deletes", "cats", "a:", "--", "-b"] =
      .ok ⟨"cat", "cats", ["a:", "-b"], true⟩ := by decide +kernel
  obtain ⟨harguments, -, hiff, -⟩ := outline_fails_like_generate ⟨"cat", "cats", ["a:", "-b"], true⟩
  refine ⟨_, hread, harguments _ hread, fun h s renderer time w => ?_⟩
  refine (hiff h s renderer time ⟨⟨.directory [], []⟩, [], []⟩ w _ [.emptyType "a"]).1 ?_
  decide +kernel

end World

end Groundwork
