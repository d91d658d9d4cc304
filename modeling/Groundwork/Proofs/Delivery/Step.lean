import Groundwork.Delivery
import Groundwork.Proofs.Disk.Change

/-!
# One step of a delivery

A delivery does one of three things with a file: it leaves the disk alone, it changes the file at
the destination, or it fails to do so for a reason of the system.

* `Artifact.change`: what a file makes of the contents at its destination.
* **`World.deliverFile_cases`**: what the delivery of one file does to the disk.
* **`World.deliver_keeps`**: what exists stays through a delivery.
-/

namespace Groundwork

open Text (encode takeLine? decode?)

/-- **What a file makes of the contents** at its destination. -/
def Artifact.change (a : Artifact) : List UInt8 → List UInt8 :=
  match a.mode with
  | .create => fun _ => encode a.contents
  | .append => (· ++ encode a.contents)

/-- The outcome of a file that was written. -/
def WriteMode.done : WriteMode → Outcome
  | .create => .created
  | .append => .appended

namespace World

variable {force : Bool} {p base : Path} {contents : String} {a : Artifact} {w w' : World}

/-! ## Writing a file -/

theorem makeParent_cases {r : Except Failure Unit} (h : makeParent p w = (r, w')) :
    w' = w.withDisk w'.disk ∧ ((w.disk.makeParent p = (w'.disk, .ok ()) ∧ r = .ok ()) ∨
      ∃ e context, w.disk.makeParent p = (w'.disk, .error e) ∧ r = .error (.system context e)) := by
  unfold makeParent at h
  unfold Disk.makeParent
  cases hp : p.parent? with
  | none =>
    rw [hp] at h
    obtain ⟨rfl, rfl⟩ := Prod.mk.inj h
    exact ⟨rfl, .inl ⟨rfl, rfl⟩⟩
  | some parent =>
    simp only [hp] at h ⊢
    split at h
    · rename_i hmake
      obtain ⟨rfl, rfl⟩ := Prod.mk.inj h
      exact ⟨rfl, .inl ⟨hmake, rfl⟩⟩
    · rename_i hmake
      obtain ⟨rfl, rfl⟩ := Prod.mk.inj h
      exact ⟨rfl, .inr ⟨_, _, hmake, rfl⟩⟩

/-- Whether a file is written anew or added to, its parent is made, its place found and its contents
altered: this is a change of the disk. -/
theorem change_cases {f : List UInt8 → List UInt8} {r : Except Failure Unit} (context : List String)
    (h : (match makeParent p w with
      | (.error e, w) => (.error e, w)
      | (.ok (), w) =>
        match w.disk.target p with
        | .error e => (.error (.system context e), w)
        | .ok q => (.ok (), w.withDisk (w.disk.alterFile q f))) = (r, w')) :
    w' = w.withDisk w'.disk ∧ ((w.disk.change p f = (w'.disk, .ok ()) ∧ r = .ok ()) ∨
      ∃ e context, w.disk.change p f = (w'.disk, .error e) ∧ r = .error (.system context e)) := by
  unfold Disk.change
  rcases hmake : makeParent p w with ⟨r₁, w₁⟩
  simp only [hmake] at h
  obtain ⟨hw₁, ⟨hdisk, rfl⟩ | ⟨e, context₁, hdisk, rfl⟩⟩ := makeParent_cases hmake
  · simp only [hdisk]
    cases htarget : w₁.disk.target p with
    | error e =>
      simp only [htarget] at h
      obtain ⟨rfl, rfl⟩ := Prod.mk.inj h
      exact ⟨hw₁, .inr ⟨e, context, rfl, rfl⟩⟩
    | ok q =>
      simp only [htarget] at h
      obtain ⟨rfl, rfl⟩ := Prod.mk.inj h
      exact ⟨by rw [hw₁]; rfl, .inl ⟨rfl, rfl⟩⟩
  · obtain ⟨rfl, rfl⟩ := Prod.mk.inj h
    exact ⟨hw₁, .inr ⟨e, context₁, by rw [hdisk], rfl⟩⟩

theorem overwrite_cases {r : Except Failure Unit} (h : overwrite p contents w = (r, w')) :
    w' = w.withDisk w'.disk ∧
      ((w.disk.change p (fun _ => encode contents) = (w'.disk, .ok ()) ∧ r = .ok ()) ∨
        ∃ e context, w.disk.change p (fun _ => encode contents) = (w'.disk, .error e) ∧
          r = .error (.system context e)) := by
  refine change_cases ["Could not write to " ++ p.text] ?_
  rw [← h, overwrite]
  rcases makeParent p w with ⟨_ | _, w₁⟩
  · rfl
  · simp only [Disk.write]
    cases w₁.disk.target p <;> rfl

theorem append_cases {r : Except Failure Unit} (h : append p contents w = (r, w')) :
    w' = w.withDisk w'.disk ∧
      ((w.disk.change p (· ++ encode contents) = (w'.disk, .ok ()) ∧ r = .ok ()) ∨
        ∃ e context, w.disk.change p (· ++ encode contents) = (w'.disk, .error e) ∧
          r = .error (.system context e)) := by
  refine change_cases ["Failed to open " ++ p.text] ?_
  rw [← h, append]
  rcases makeParent p w with ⟨_ | _, w₁⟩
  · rfl
  · simp only [Disk.append]
    cases w₁.disk.target p <;> rfl

/-! ## One file -/

theorem confirm_cases {r : Except Failure Bool} (h : confirm p w = (r, w')) :
    w'.disk = w.disk ∧ w'.history = w.history ++ [.asked (overwriteQuestion p)] ∧
      (r = .ok true ∨ r = .ok false ∨ r = .error (.system [] .notText)) := by
  unfold confirm at h
  simp only at h
  split at h
  · obtain ⟨rfl, rfl⟩ := Prod.mk.inj h
    exact ⟨rfl, rfl, .inr (.inl rfl)⟩
  · split at h
    · obtain ⟨rfl, rfl⟩ := Prod.mk.inj h
      exact ⟨rfl, rfl, .inr (.inr rfl)⟩
    · rename_i answer _
      obtain ⟨rfl, rfl⟩ := Prod.mk.inj h
      refine ⟨rfl, rfl, ?_⟩
      cases agrees answer
      · exact .inr (.inl rfl)
      · exact .inl rfl

/-- **A confirmed write in two phases.** If the file exists and force is off, a question is put,
which may be the end of it; otherwise the file is overwritten. -/
theorem writeConfirmed_phases {r : Except Failure Bool}
    (h : writeConfirmed force p contents w = (r, w')) :
    ∃ w₁ : World, w₁.disk = w.disk ∧
      w₁.history = (if w.disk.holds p = true ∧ force = false then
        w.history ++ [.asked (overwriteQuestion p)] else w.history) ∧
      ((w.disk.holds p = true ∧ force = false ∧ w' = w₁ ∧
        (r = .ok false ∨ r = .error (.system [] .notText))) ∨
      ∃ r₁, overwrite p contents w₁ = (r₁, w') ∧ r = r₁.map fun _ => true) := by
  have hover : ∀ {w₁ : World},
      (match overwrite p contents w₁ with
        | (.error e, w) => (Except.error e, w)
        | (.ok (), w) => (.ok true, w)) = (r, w') →
      ∃ r₁, overwrite p contents w₁ = (r₁, w') ∧ r = r₁.map fun _ => true := by
    intro w₁ hmatch
    split at hmatch
    · rename_i e w₂ hoverwrite
      obtain ⟨rfl, rfl⟩ := Prod.mk.inj hmatch
      exact ⟨.error e, hoverwrite, rfl⟩
    · rename_i w₂ hoverwrite
      obtain ⟨rfl, rfl⟩ := Prod.mk.inj hmatch
      exact ⟨.ok (), hoverwrite, rfl⟩
  unfold writeConfirmed at h
  by_cases hasks : w.disk.holds p = true ∧ force = false
  · have hif : (w.disk.holds p && !force) = true := by simpa using hasks
    rcases hconfirm : confirm p w with ⟨r₁, w₁⟩
    simp only [hif, if_true, hconfirm] at h
    obtain ⟨hdisk, hhistory, hr⟩ := confirm_cases hconfirm
    refine ⟨w₁, hdisk, by rw [if_pos hasks, hhistory], ?_⟩
    obtain rfl | rfl | rfl := hr
    · exact .inr (hover h)
    · obtain ⟨rfl, rfl⟩ := Prod.mk.inj h
      exact .inl ⟨hasks.1, hasks.2, rfl, .inl rfl⟩
    · obtain ⟨rfl, rfl⟩ := Prod.mk.inj h
      exact .inl ⟨hasks.1, hasks.2, rfl, .inr rfl⟩
  · have hif : (w.disk.holds p && !force) = false := by
      rw [← Bool.not_eq_true]
      simpa using hasks
    simp only [hif, Bool.false_eq_true, if_false] at h
    exact ⟨w, rfl, by rw [if_neg hasks], .inr (hover h)⟩

/-- **What a confirmed write does to the disk**: nothing, after a question; or it changes the file,
which succeeds or fails. -/
theorem writeConfirmed_cases {r : Except Failure Bool}
    (h : writeConfirmed force p contents w = (r, w')) :
    (w.disk.holds p = true ∧ force = false ∧ w'.disk = w.disk ∧
      (r = .ok false ∨ r = .error (.system [] .notText))) ∨
    (w.disk.change p (fun _ => encode contents) = (w'.disk, .ok ()) ∧ r = .ok true) ∨
    ∃ e context, w.disk.change p (fun _ => encode contents) = (w'.disk, .error e) ∧
      r = .error (.system context e) := by
  obtain ⟨w₁, hdisk, -, ⟨hholds, hforce, rfl, hr⟩ | ⟨r₁, hover, rfl⟩⟩ := writeConfirmed_phases h
  · exact .inl ⟨hholds, hforce, hdisk, hr⟩
  · rw [← hdisk]
    obtain ⟨-, ⟨hchange, rfl⟩ | ⟨e, context, hchange, rfl⟩⟩ := overwrite_cases hover
    · exact .inr (.inl ⟨hchange, rfl⟩)
    · exact .inr (.inr ⟨e, context, hchange, rfl⟩)

theorem history_of_writeConfirmed {r : Except Failure Bool}
    (h : writeConfirmed force p contents w = (r, w')) : w'.history =
      if w.disk.holds p = true ∧ force = false then w.history ++ [.asked (overwriteQuestion p)]
      else w.history := by
  obtain ⟨w₁, -, hhistory, ⟨-, -, rfl, -⟩ | ⟨r₁, hover, -⟩⟩ := writeConfirmed_phases h
  · exact hhistory
  · rw [← hhistory, (overwrite_cases hover).1]
    rfl

/-- **What the delivery of one file does to the disk**: nothing, because a file that exists was not
to be replaced or the answer was no text; or the file's change, which succeeds or fails. -/
theorem deliverFile_cases {r : Except Failure Outcome} (h : w.deliverFile force base a = (r, w')) :
    (w.disk.holds (base.join a.path) = true ∧ force = false ∧ a.mode = .create ∧
      w'.disk = w.disk ∧ (r = .ok .skipped ∨ ∃ context, r = .error (.system context .notText))) ∨
    (w.disk.change (base.join a.path) a.change = (w'.disk, .ok ()) ∧ r = .ok a.mode.done) ∨
    ∃ e context, w.disk.change (base.join a.path) a.change = (w'.disk, .error e) ∧
      r = .error (.system context e) := by
  unfold deliverFile writeFile at h
  unfold Artifact.change
  cases hmode : a.mode with
  | create =>
    rw [hmode] at h
    rcases hwrite : writeConfirmed force (base.join a.path) a.contents w with ⟨r₁, w₁⟩
    simp only [hwrite] at h
    obtain ⟨hholds, hforce, hdisk, rfl | rfl⟩ | ⟨hchange, rfl⟩ | ⟨e, context, hchange, rfl⟩ :=
      writeConfirmed_cases hwrite
    · obtain ⟨rfl, rfl⟩ := Prod.mk.inj h
      exact .inl ⟨hholds, hforce, rfl, hdisk, .inl rfl⟩
    · obtain ⟨rfl, rfl⟩ := Prod.mk.inj h
      exact .inl ⟨hholds, hforce, rfl, hdisk, .inr ⟨_, rfl⟩⟩
    · obtain ⟨rfl, rfl⟩ := Prod.mk.inj h
      exact .inr (.inl ⟨hchange, rfl⟩)
    · obtain ⟨rfl, rfl⟩ := Prod.mk.inj h
      exact .inr (.inr ⟨e, _, hchange, rfl⟩)
  | append =>
    rw [hmode] at h
    rcases happend : append (base.join a.path) a.contents w with ⟨r₁, w₁⟩
    simp only [happend] at h
    obtain ⟨-, ⟨hchange, rfl⟩ | ⟨e, context, hchange, rfl⟩⟩ := append_cases happend
    · obtain ⟨rfl, rfl⟩ := Prod.mk.inj h
      exact .inr (.inl ⟨hchange, rfl⟩)
    · obtain ⟨rfl, rfl⟩ := Prod.mk.inj h
      exact .inr (.inr ⟨e, _, hchange, rfl⟩)

/-! ## Several files -/

theorem deliver_cons_cases {rest : List Artifact} {r : Except Failure Summary}
    (h : w.deliver force base (a :: rest) = (r, w')) :
    (∃ e, w.deliverFile force base a = (.error e, w') ∧ r = .error e) ∨
    ∃ o w₁, w.deliverFile force base a = (.ok o, w₁) ∧
      ((∃ e, w₁.deliver force base rest = (.error e, w') ∧ r = .error e) ∨
        ∃ s, w₁.deliver force base rest = (.ok s, w') ∧ r = .ok (s.cons o (base.join a.path))) := by
  rw [deliver] at h
  split at h
  · rename_i e w₁ hfile
    obtain ⟨rfl, rfl⟩ := Prod.mk.inj h
    exact .inl ⟨e, hfile, rfl⟩
  · rename_i o w₁ hfile
    refine .inr ⟨o, w₁, hfile, ?_⟩
    split at h
    · rename_i e w₂ hrest
      obtain ⟨rfl, rfl⟩ := Prod.mk.inj h
      exact .inl ⟨e, hrest, rfl⟩
    · rename_i s w₂ hrest
      obtain ⟨rfl, rfl⟩ := Prod.mk.inj h
      exact .inr ⟨s, hrest, rfl⟩

theorem eq_system_of_deliver {files : List Artifact} {e : Failure}
    (h : w.deliver force base files = (.error e, w')) :
    ∃ context cause, e = .system context cause := by
  induction files generalizing w with
  | nil => cases h
  | cons a rest ih =>
    obtain ⟨e₁, hfile, he⟩ | ⟨o, w₁, -, ⟨e₁, hrest, he⟩ | ⟨s, -, hs⟩⟩ := deliver_cons_cases h
    · obtain rfl := Except.error.inj he
      obtain ⟨-, -, -, -, hr | ⟨context, hr⟩⟩ | ⟨-, hr⟩ | ⟨cause, context, -, hr⟩ :=
        deliverFile_cases hfile
      · cases hr
      · exact ⟨context, .notText, Except.error.inj hr⟩
      · cases hr
      · exact ⟨context, cause, Except.error.inj hr⟩
    · obtain rfl := Except.error.inj he
      exact ih hrest
    · cases hs

theorem deliverFile_keeps {r : Except Failure Outcome} (hd : w.disk.Sound)
    (h : w.deliverFile force base a = (r, w')) : w.disk.Keeps w'.disk := by
  obtain ⟨-, -, -, hdisk, -⟩ | ⟨hchange, -⟩ | ⟨e, context, hchange, -⟩ := deliverFile_cases h
  · rw [hdisk]
    exact .refl _
  · exact (Disk.change_ok hd hchange).keeps
  · exact (Disk.change_error_grown hd hchange).keeps

/-- **A delivery keeps what exists.** -/
theorem deliver_keeps {files : List Artifact} {r : Except Failure Summary} (hd : w.disk.Sound)
    (h : w.deliver force base files = (r, w')) : w.disk.Keeps w'.disk := by
  induction files generalizing w r with
  | nil =>
    obtain ⟨-, rfl⟩ := Prod.mk.inj h
    exact .refl _
  | cons a rest ih =>
    obtain ⟨e, hfile, -⟩ | ⟨o, w₁, hfile, hrest⟩ := deliver_cons_cases h
    · exact deliverFile_keeps hd hfile
    · have hfirst := deliverFile_keeps hd hfile
      obtain ⟨e, hrest, -⟩ | ⟨s, hrest, -⟩ := hrest
      · exact hfirst.trans (ih (hfirst.sound hd) hrest)
      · exact hfirst.trans (ih (hfirst.sound hd) hrest)

end World

end Groundwork
