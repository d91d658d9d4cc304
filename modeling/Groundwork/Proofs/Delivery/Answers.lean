import Groundwork.Proofs.Delivery.Step

/-!
# Answers and questions

Files are written and added to one after another, and one input answers all questions. Each question
reads one line, whatever comes of the step that puts it, and nothing else reads: so the answers stay
with the questions that they are meant for.

* `WriteStep`, `World.turns`: the steps of a writer, and what happens in each of them.
* `Reply`: what a line of the input says to a question.
* **`World.confirm_eq`**: a question reads the first line that is left.
* **`World.turns_aligned`**: the questions of a sequence of steps are answered by the lines of the
  input, in order.
-/

namespace Groundwork

open Text (IsLines asciiLower decode? encode inputLines takeLine? trim)

/-! ## Replies -/

/-- **What a line of the input says** to a question. -/
inductive Reply where
  | yes
  | no
  /-- The line is not text. -/
  | garbled
  deriving DecidableEq, Repr

/-- The reply of a line: yes is `y` or `yes`, in any letter case and with blanks around it. The end
of the input says no. -/
def Reply.ofLine? : Option (List UInt8) → Reply
  | none => .no
  | some line =>
    match decode? line with
    | none => .garbled
    | some answer =>
      if asciiLower (trim answer) = "y" ∨ asciiLower (trim answer) = "yes" then .yes else .no

theorem Reply.ofLine?_eq_yes_iff {line : Option (List UInt8)} : ofLine? line = .yes ↔
    ∃ bytes answer, line = some bytes ∧ decode? bytes = some answer ∧
      (asciiLower (trim answer) = "y" ∨ asciiLower (trim answer) = "yes") := by
  cases line with
  | none => simp [ofLine?]
  | some bytes =>
    cases hanswer : decode? bytes with
    | none => simp [ofLine?, hanswer]
    | some answer => simp [ofLine?, hanswer, or_iff_not_imp_left]

theorem Reply.ofLine?_eq_garbled_iff {line : Option (List UInt8)} : ofLine? line = .garbled ↔
    ∃ bytes, line = some bytes ∧ decode? bytes = none := by
  cases line with
  | none => simp [ofLine?]
  | some bytes =>
    cases hanswer : decode? bytes with
    | none => simp [ofLine?, hanswer]
    | some answer =>
      simp only [ofLine?, hanswer, Option.some.injEq, exists_eq_left', reduceCtorEq, iff_false]
      split_ifs <;> exact nofun

/-- What comes of a question. -/
def Reply.result : Reply → Except Failure Bool
  | .yes => .ok true
  | .no => .ok false
  | .garbled => .error (.system [] .notText)

/-! ## Steps -/

/-- **A step of a writer.** -/
inductive WriteStep where
  | write (path : Path) (contents : String)
  | append (path : Path) (contents : String)
  deriving DecidableEq, Repr

namespace WriteStep

/-- The question that a step puts: a file that exists is not replaced without one, unless by
force. -/
def question? (force : Bool) (w : World) : WriteStep → Option String
  | .write p _ => if w.disk.holds p = true ∧ force = false then some (overwriteQuestion p) else none
  | .append _ _ => none

theorem question?_eq_some_iff {force : Bool} {w : World} {s : WriteStep} {q : String} :
    s.question? force w = some q ↔ ∃ p contents, s = .write p contents ∧
      w.disk.holds p = true ∧ force = false ∧ q = overwriteQuestion p := by
  cases s with
  | append p contents => simp [question?]
  | write p contents =>
    constructor
    · intro h
      obtain ⟨⟨hholds, hforce⟩, hq⟩ := Option.ite_none_right_eq_some.1 h
      exact ⟨p, contents, rfl, hholds, hforce, (Option.some.inj hq).symm⟩
    · rintro ⟨_, _, ⟨⟩, hholds, hforce, rfl⟩
      exact if_pos ⟨hholds, hforce⟩

/-- What a step does when nothing is asked, or once the answer is yes. -/
def carryOut : WriteStep → World → Except Failure Unit × World
  | .write p contents, w => w.overwrite p contents
  | .append p contents, w => w.append p contents

/-- The result of a step that was carried out: it has written, or it has failed. -/
def reported (x : Except Failure Unit × World) : Except Failure Bool × World :=
  (x.1.map fun _ => true, x.2)

/-- **A step**, with its question. The result tells whether anything was written. -/
def perform (force : Bool) : WriteStep → World → Except Failure Bool × World
  | .write p contents, w => w.writeConfirmed force p contents
  | .append p contents, w => reported (w.append p contents)

end WriteStep

/-- **What happens in a step**: the world before and after it, and its result. -/
structure Turn where
  step : WriteStep
  before : World
  result : Except Failure Bool
  after : World

namespace Turn

/-- The question that the step puts. -/
def question? (t : Turn) (force : Bool) : Option String := t.step.question? force t.before

/-- **The step goes on to write**, after what it has asked and read. -/
def Writes (t : Turn) : Prop :=
  (t.result, t.after) = WriteStep.reported (t.step.carryOut
    { t.before with answers := t.after.answers, history := t.after.history })

/-- **The step heeds a reply.** It goes on to write only after a yes; otherwise the disk stays as it
is, and a reply that is not text fails. -/
structure Heeds (t : Turn) (reply : Reply) : Prop where
  writes_iff : t.Writes ↔ reply = .yes
  declined : reply = .no → t.result = .ok false
  failed : reply = .garbled → t.result = .error (.system [] .notText)
  untouched : reply ≠ .yes → t.after.disk = t.before.disk

end Turn

namespace World

variable {force : Bool} {p : Path} {contents : String} {s : WriteStep} {w w' : World}

/-- **A step in a world**, with what comes of it. -/
def turn (force : Bool) (s : WriteStep) (w : World) : Turn :=
  ⟨s, w, (s.perform force w).1, (s.perform force w).2⟩

/-- **What happens in a sequence of steps**, each in the world that the step before it leaves. A
step that fails does not end it. -/
def turns (force : Bool) : List WriteStep → World → List Turn
  | [], _ => []
  | s :: rest, w => w.turn force s :: turns force rest (w.turn force s).after

/-! ## One question -/

/-- The world after a question: the first line that was left is read. -/
def afterQuestion (p : Path) (w : World) : World :=
  { w with
    answers := (inputLines w.answers).tail.flatten
    history := w.history ++ [.asked (overwriteQuestion p)] }

/-- **A question reads the first line that is left**, and the reply of that line is its result. -/
theorem confirm_eq (p : Path) (w : World) :
    confirm p w = ((Reply.ofLine? (inputLines w.answers).head?).result, w.afterQuestion p) := by
  unfold confirm afterQuestion Reply.ofLine?
  cases hline : takeLine? w.answers with
  | none =>
    have hempty : w.answers = [] := by
      by_contra hne
      simp [takeLine?, hne] at hline
    simp [hempty, inputLines, Reply.result, record]
  | some taken =>
    obtain ⟨line, rest⟩ := taken
    have hlines := Text.inputLines_cons hline
    have hrest := (Text.isLines_inputLines rest).flatten
    simp only [hlines, List.head?_cons, List.tail_cons, hrest]
    cases decode? line with
    | none => rfl
    | some answer =>
      have hagrees : agrees answer = true ↔
          asciiLower (trim answer) = "y" ∨ asciiLower (trim answer) = "yes" := by simp [agrees]
      simp only [← hagrees]
      cases agrees answer <;> simp [Reply.result, record]

theorem context_of_overwrite {context : List String} {e : IoError}
    (h : overwrite p contents w = (.error (.system context e), w')) : context ≠ [] := by
  unfold overwrite makeParent at h
  rintro rfl
  split at h
  · rename_i hmake
    split at hmake
    · cases hmake
    · split at hmake
      · cases hmake
      · obtain ⟨he, -⟩ := Prod.mk.inj hmake
        obtain ⟨hf, -⟩ := Prod.mk.inj h
        rw [← Except.error.inj he] at hf
        cases hf
  · split at h
    · cases h
    · cases h

theorem writeConfirmed_of_asks (hholds : w.disk.holds p = true) :
    writeConfirmed false p contents w =
      match Reply.ofLine? (inputLines w.answers).head? with
      | .yes => WriteStep.reported (overwrite p contents (w.afterQuestion p))
      | .no => (.ok false, w.afterQuestion p)
      | .garbled => (.error (.system [] .notText), w.afterQuestion p) := by
  unfold writeConfirmed
  simp only [hholds, Bool.not_false, Bool.and_true, if_true, confirm_eq]
  cases Reply.ofLine? (inputLines w.answers).head? with
  | yes =>
    simp only [Reply.result]
    rcases overwrite p contents (w.afterQuestion p) with ⟨_ | _, w₁⟩ <;> rfl
  | no => rfl
  | garbled => rfl

theorem writeConfirmed_of_silent (h : ¬ (w.disk.holds p = true ∧ force = false)) :
    writeConfirmed force p contents w = WriteStep.reported (overwrite p contents w) := by
  have hif : (w.disk.holds p && !force) = false := by
    rw [← Bool.not_eq_true]
    simpa using h
  unfold writeConfirmed
  simp only [hif, Bool.false_eq_true, if_false]
  rcases overwrite p contents w with ⟨_ | _, w₁⟩ <;> rfl

theorem carryOut_eq (s : WriteStep) (w : World) :
    (s.carryOut w).2 = w.withDisk (s.carryOut w).2.disk := by
  cases s with
  | write p contents => exact (overwrite_cases rfl).1
  | append p contents => exact (append_cases rfl).1

/-! ## One step -/

theorem turn_of_silent (h : s.question? force w = none) :
    (w.turn force s).after.answers = w.answers ∧ (w.turn force s).after.history = w.history ∧
      (w.turn force s).Writes := by
  have hperform : s.perform force w = WriteStep.reported (s.carryOut w) := by
    cases s with
    | write p contents =>
      refine writeConfirmed_of_silent fun hasks => ?_
      rw [WriteStep.question?, if_pos hasks] at h
      cases h
    | append p contents => rfl
  have hafter : (w.turn force s).after = w.withDisk (s.carryOut w).2.disk := by
    rw [turn, hperform]
    exact carryOut_eq s w
  have hanswers : (w.turn force s).after.answers = w.answers := by rw [hafter]; rfl
  have hhistory : (w.turn force s).after.history = w.history := by rw [hafter]; rfl
  refine ⟨hanswers, hhistory, ?_⟩
  unfold Turn.Writes
  rw [hanswers, hhistory]
  exact hperform

theorem not_writes_of_declined {t : Turn} (h : t.result = .ok false) : ¬ t.Writes := by
  intro hwrites
  have hresult := congrArg Prod.fst hwrites
  rw [h, WriteStep.reported] at hresult
  cases hr : (t.step.carryOut { t.before with
    answers := t.after.answers, history := t.after.history }).1 <;> simp [hr, Except.map] at hresult

theorem not_writes_of_garbled {t : Turn} {e : IoError} (hstep : t.step = .write p contents)
    (h : t.result = .error (.system [] e)) : ¬ t.Writes := by
  intro hwrites
  have hresult := congrArg Prod.fst hwrites
  rw [h, hstep, WriteStep.reported, WriteStep.carryOut] at hresult
  rcases hover : overwrite p contents { t.before with
    answers := t.after.answers, history := t.after.history } with ⟨f | _, w₁⟩
  · rw [hover] at hresult
    obtain rfl : Failure.system [] e = f := Except.error.inj hresult
    exact context_of_overwrite hover rfl
  · rw [hover] at hresult
    cases hresult

/-- **A step that asks** adds its question to the history, reads the first line that is left, and
heeds its reply. -/
theorem turn_of_asks {q : String} (h : s.question? force w = some q) :
    (w.turn force s).after.answers = (inputLines w.answers).tail.flatten ∧
      (w.turn force s).after.history = w.history ++ [.asked q] ∧
      (w.turn force s).Heeds (.ofLine? (inputLines w.answers).head?) := by
  obtain ⟨p, contents, rfl, hholds, rfl, rfl⟩ := WriteStep.question?_eq_some_iff.1 h
  have hperform : (WriteStep.write p contents).perform false w = _ := writeConfirmed_of_asks hholds
  unfold turn
  rw [hperform]
  cases Reply.ofLine? (inputLines w.answers).head? with
  | yes =>
    -- What is carried out after the question leaves the answers and the history alone.
    have hafter := carryOut_eq (.write p contents) (w.afterQuestion p)
    have hanswers := congrArg World.answers hafter
    have hhistory := congrArg World.history hafter
    refine ⟨hanswers, hhistory, ⟨fun _ => rfl, fun _ => ?_⟩, nofun, nofun, fun h => absurd rfl h⟩
    simp only [Turn.Writes, WriteStep.reported, WriteStep.carryOut] at hanswers hhistory ⊢
    rw [hanswers, hhistory]
    rfl
  | no =>
    refine ⟨rfl, rfl, ⟨fun hwrites => ?_, nofun⟩, fun _ => rfl, nofun, fun _ => rfl⟩
    exact absurd hwrites (not_writes_of_declined rfl)
  | garbled =>
    refine ⟨rfl, rfl, ⟨fun hwrites => ?_, nofun⟩, nofun, fun _ => rfl, fun _ => rfl⟩
    exact absurd hwrites (not_writes_of_garbled rfl rfl)

/-! ## All steps -/

theorem inputLines_flatten_tail (input : List UInt8) :
    inputLines (inputLines input).tail.flatten = (inputLines input).tail := by
  cases hline : takeLine? input with
  | none => simp [Text.inputLines_of_takeLine?_none hline, inputLines]
  | some taken =>
    obtain ⟨line, rest⟩ := taken
    rw [Text.inputLines_cons hline, List.tail_cons, (Text.isLines_inputLines rest).flatten]

theorem exists_turn_of_mem {steps : List WriteStep} {t : Turn} (h : t ∈ w.turns force steps) :
    ∃ s w₁, t = turn force s w₁ := by
  induction steps generalizing w with
  | nil => cases h
  | cons s rest ih =>
    rcases List.mem_cons.1 h with rfl | h
    · exact ⟨s, w, rfl⟩
    · exact ih h

/-- The turns that put a question. -/
def askingTurns (force : Bool) (steps : List WriteStep) (w : World) : List Turn :=
  (w.turns force steps).filter fun t => (t.question? force).isSome

theorem heeds_of_askingTurns (force : Bool) (steps : List WriteStep) (w : World) (k : Nat)
    (t : Turn) (h : (w.askingTurns force steps)[k]? = some t) :
    t.before.answers = ((inputLines w.answers).drop k).flatten ∧
      t.after.answers = ((inputLines w.answers).drop (k + 1)).flatten ∧
      t.Heeds (.ofLine? (inputLines w.answers)[k]?) := by
  induction steps generalizing w k with
  | nil => simp [askingTurns, turns] at h
  | cons s rest ih =>
    have hsplit : w.askingTurns force (s :: rest) = (if (s.question? force w).isSome then
        w.turn force s :: askingTurns force rest (w.turn force s).after
        else askingTurns force rest (w.turn force s).after) := by
      unfold askingTurns
      rw [turns, List.filter_cons]
      rfl
    rw [hsplit] at h
    cases hq : s.question? force w with
    | none =>
      rw [hq] at h
      have hsame := (turn_of_silent hq).1
      have hrest := ih _ k h
      rwa [hsame] at hrest
    | some q =>
      rw [hq] at h
      obtain ⟨hanswers, -, hheeds⟩ := turn_of_asks hq
      cases k with
      | zero =>
        obtain rfl : w.turn force s = t := by simpa using h
        rw [List.head?_eq_getElem?] at hheeds
        refine ⟨?_, by simpa using hanswers, hheeds⟩
        exact (Text.isLines_inputLines w.answers).flatten.symm
      | succ k =>
        have hrest := ih _ k (by simpa using h)
        rw [hanswers, inputLines_flatten_tail] at hrest
        simpa using hrest

/-- **Answers stay with their questions**, in every sequence of steps. A question is put exactly in
a write whose path exists while force is off, and only such a step reads from the input; every other
step goes on to write. The question that comes after `k` others reads line `k` of the input, all of
it and nothing else, and its step heeds the reply of that line: yes if it is text that comes to `y`
or `yes` without the blanks around it and in lower case, garbled if it is no text, no otherwise. -/
theorem turns_aligned (force : Bool) (steps : List WriteStep) (w : World) :
    IsLines w.answers (inputLines w.answers) ∧
    (∀ t ∈ w.turns force steps,
      t.after.history = t.before.history ++ (t.question? force).toList.map .asked ∧
      (t.question? force = none → t.after.answers = t.before.answers ∧ t.Writes)) ∧
    (∀ k t, (w.askingTurns force steps)[k]? = some t →
      t.before.answers = ((inputLines w.answers).drop k).flatten ∧
      t.after.answers = ((inputLines w.answers).drop (k + 1)).flatten ∧
      t.Heeds (.ofLine? (inputLines w.answers)[k]?)) ∧
    ∀ line, (Reply.ofLine? line = .yes ↔ ∃ bytes answer, line = some bytes ∧
        decode? bytes = some answer ∧
        (asciiLower (trim answer) = "y" ∨ asciiLower (trim answer) = "yes")) ∧
      (Reply.ofLine? line = .garbled ↔ ∃ bytes, line = some bytes ∧ decode? bytes = none) := by
  refine ⟨Text.isLines_inputLines _, fun t ht => ?_, heeds_of_askingTurns force steps w,
    fun _ => ⟨Reply.ofLine?_eq_yes_iff, Reply.ofLine?_eq_garbled_iff⟩⟩
  obtain ⟨s, w₁, rfl⟩ := exists_turn_of_mem ht
  unfold Turn.question?
  change (w₁.turn force s).after.history =
      w₁.history ++ (s.question? force w₁).toList.map .asked ∧
    (s.question? force w₁ = none → (w₁.turn force s).after.answers = w₁.answers ∧
      (w₁.turn force s).Writes)
  cases hq : s.question? force w₁ with
  | none =>
    obtain ⟨hanswers, hhistory, hwrites⟩ := turn_of_silent hq
    exact ⟨by simpa using hhistory, fun _ => ⟨hanswers, hwrites⟩⟩
  | some q => exact ⟨(turn_of_asks hq).2.1, nofun⟩

/-- A file is added to between two questions; the first line of the input is no text. -/
theorem turns_aligned_after_garbled :
    let w : World := ⟨⟨.directory [("a", .file []), ("b", .file [])], []⟩, [255, 10, 121, 10], []⟩
    let steps : List WriteStep := [.write ⟨"a"⟩ "x", .append ⟨"b"⟩ "y", .write ⟨"b"⟩ "z"]
    (∃ t ∈ w.turns false steps, t.question? false = none ∧
      t.after.answers = t.before.answers ∧ t.Writes) ∧
    ∃ t, (w.askingTurns false steps)[1]? = some t ∧
      t.before.answers = ((inputLines w.answers).drop 1).flatten ∧
      t.after.answers = ((inputLines w.answers).drop 2).flatten ∧
      t.Heeds (.ofLine? (inputLines w.answers)[1]?) := by
  intro w steps
  have h := turns_aligned false steps w
  have hmem : (w.turns false steps)[1] ∈ w.turns false steps := List.getElem_mem _
  have htwo : 1 < (w.askingTurns false steps).length := by decide +kernel
  have hsecond := List.getElem?_eq_getElem htwo
  exact ⟨⟨_, hmem, rfl, (h.2.1 _ hmem).2 rfl⟩, _, hsecond, h.2.2.1 1 _ hsecond⟩

end World

end Groundwork
