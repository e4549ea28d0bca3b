import ColonForth.Host.Folder
import ColonForth.Host.Repl
import ColonForth.Proofs.FlatSession

/-!
# Interrupted sessions

A session ends when its input ends or when the user interrupts it while it waits for a line.  Both
ends print the same and log the same, but they do not return the same: at the end of the input the
session returns the interpreter that its lines have led to, and after an interruption it returns
the one that the startup file left.  So an interruption loses what the lines have done
(`run_interruptedAfter`), and it loses nothing only if they have done nothing in effect.

* `answer`: the lines of a session answered in order, which is what the loop does before it comes to
  its end (`loop_eq_answer`).
* `eq_foldl_of_answer`: a session that comes to its end has tried the lines one by one, a failing
  line leaving the interpreter as it was.
-/

namespace ColonForth.Host

/-- The same input, of which only the first `n` lines are there. -/
def Keyboard.endedAfter (n : Nat) (k : Keyboard) : Keyboard := ⟨k.lines.take n, .endOfInput⟩

/-- A host that goes on after a line has the interpreter that the line leaves, or the former one
if the line fails. -/
lemma attempt_eq_of_outcome {limit : Nat} {i : Interpreter} {line : Text}
    {result : Except Failure Interpreter} (h : (attempt limit i line).outcome = .ok result) :
    i.attempt limit line = match result with
      | .ok j => j
      | .error _ => i := by
  rw [Interpreter.attempt]
  unfold attempt at h
  cases heval : (i.eval limit line).outcome with
  | ok j =>
    simp only [heval, Except.ok.injEq] at h
    subst h
    rfl
  | error failure =>
    simp only [heval] at h
    split at h
    · obtain rfl := Except.ok.inj h
      rfl
    · exact absurd h (by simp)

namespace Repl

/-- The lines of a session answered in order, and the interpreter that they lead to. -/
def answer (limit : Nat) (debug : Bool) : List Text → Interpreter → Console Interpreter
  | [], i => .done i
  | line :: rest, i =>
    (display .prompt).andThen fun _ =>
      (respond limit debug i line).andThen (answer limit debug rest)

variable {limit : Nat} {debug : Bool} {i j : Interpreter} {line : Text} {lines : List Text}

/-- The loop answers the lines, and then does what it does without lines. -/
lemma loop_eq_answer (limit : Nat) (debug : Bool) (ending : Ending) (lines : List Text)
    (i : Interpreter) : loop limit debug ending lines i =
      (answer limit debug lines i).andThen (loop limit debug ending []) := by
  induction lines generalizing i with
  | nil => rw [answer, Traced.andThen_done]
  | cons line rest ih =>
    have hloop : loop limit debug ending (line :: rest) i = (display .prompt).andThen fun _ =>
        (respond limit debug i line).andThen (loop limit debug ending rest) := rfl
    rw [hloop, answer, Traced.andThen_assoc]
    refine Traced.andThen_congr fun _ _ => ?_
    rw [Traced.andThen_assoc]
    exact Traced.andThen_congr fun j _ => ih j

/-- What follows the last line of a session that was started with `started` and has come to
`last`. -/
def conclude (limit : Nat) (debug : Bool) (ending : Ending) (started last : Interpreter) :
    Console Interpreter :=
  (loop limit debug ending [] last).andThen fun result =>
    (display .farewell).andThen fun _ => .done (result.getD started)

/-- At the end of the input a session returns the interpreter that it has come to. -/
lemma conclude_endOfInput (limit : Nat) (debug : Bool) (started last : Interpreter) :
    conclude limit debug .endOfInput started last =
      ⟨[.shown .prompt, .shown .farewell], .ok last⟩ := rfl

/-- After an interruption it returns the interpreter that it was started with. -/
lemma conclude_interrupt (limit : Nat) (debug : Bool) (started last : Interpreter) :
    conclude limit debug .interrupt started last =
      ⟨[.shown .prompt, .shown .farewell], .ok started⟩ := rfl

variable (settings : Settings) (folder : Folder)

/-- A session starts, answers its lines and concludes. -/
lemma run_eq_answer (limit : Nat) (ending : Ending) (lines : List Text) (i : Interpreter) :
    run limit settings folder ⟨lines, ending⟩ i =
      (start limit settings folder i).andThen fun started =>
        (answer limit settings.debug lines started).andThen
          (conclude limit settings.debug ending started) := by
  refine Traced.andThen_congr fun started _ => ?_
  show (loop _ _ _ _ _).andThen _ = _
  rw [loop_eq_answer, Traced.andThen_assoc]
  rfl

/-- A line that is answered has been tried. -/
lemma eq_attempt_of_respond (h : (respond limit debug i line).outcome = .ok j) :
    j = i.attempt limit line := by
  obtain ⟨result, hresult, h⟩ := Traced.exists_of_outcome_andThen h
  rw [attempt_eq_of_outcome hresult]
  cases result with
  | ok k =>
    obtain ⟨text, -, h⟩ := Traced.exists_of_outcome_andThen h
    obtain ⟨-, -, h⟩ := Traced.exists_of_outcome_andThen h
    cases debug with
    | false => exact (Except.ok.inj h).symm
    | true => exact (Except.ok.inj h).symm
  | error failure =>
    obtain ⟨-, -, h⟩ := Traced.exists_of_outcome_andThen h
    exact (Except.ok.inj h).symm

/-- **Lines that are answered have been tried one by one.** -/
theorem eq_foldl_of_answer (h : (answer limit debug lines i).outcome = .ok j) :
    j = lines.foldl (Interpreter.attempt limit) i := by
  induction lines generalizing i with
  | nil => exact (Except.ok.inj h).symm
  | cons line rest ih =>
    rw [answer] at h
    obtain ⟨-, -, h⟩ := Traced.exists_of_outcome_andThen h
    obtain ⟨k, hk, h⟩ := Traced.exists_of_outcome_andThen h
    rw [List.foldl_cons, ← eq_attempt_of_respond hk]
    exact ih h

/-- Both ends of a session print the same and log the same. -/
lemma trace_run_interrupt (limit : Nat) (lines : List Text) (i : Interpreter) :
    (run limit settings folder ⟨lines, .interrupt⟩ i).trace =
      (run limit settings folder ⟨lines, .endOfInput⟩ i).trace := by
  rw [run_eq_answer, run_eq_answer]
  refine Traced.trace_andThen_congr _ fun started => ?_
  refine Traced.trace_andThen_congr _ fun last => ?_
  rw [conclude_interrupt, conclude_endOfInput]

/-- The same fault ends both sessions; or else one returns the interpreter that it was started
with, and the other what the lines make of it. -/
lemma outcome_run_interrupt (limit : Nat) (lines : List Text) (i : Interpreter) :
    (∃ fault, (run limit settings folder ⟨lines, .interrupt⟩ i).outcome = .error fault ∧
      (run limit settings folder ⟨lines, .endOfInput⟩ i).outcome = .error fault) ∨
    ∃ started, (start limit settings folder i).outcome = .ok started ∧
      (run limit settings folder ⟨lines, .interrupt⟩ i).outcome = .ok started ∧
      (run limit settings folder ⟨lines, .endOfInput⟩ i).outcome =
        .ok (lines.foldl (Interpreter.attempt limit) started) := by
  rw [run_eq_answer, run_eq_answer]
  cases hstart : (start limit settings folder i).outcome with
  | error fault =>
    refine Or.inl ⟨fault, ?_, ?_⟩
    · exact Traced.outcome_andThen_of_error hstart _
    · exact Traced.outcome_andThen_of_error hstart _
  | ok started =>
    rw [Traced.outcome_andThen_of_ok hstart, Traced.outcome_andThen_of_ok hstart]
    cases hanswer : (answer limit settings.debug lines started).outcome with
    | error fault =>
      refine Or.inl ⟨fault, ?_, ?_⟩
      · exact Traced.outcome_andThen_of_error hanswer _
      · exact Traced.outcome_andThen_of_error hanswer _
    | ok last =>
      refine Or.inr ⟨started, rfl, ?_, ?_⟩
      · rw [Traced.outcome_andThen_of_ok hanswer, conclude_interrupt]
      · rw [Traced.outcome_andThen_of_ok hanswer, conclude_endOfInput,
          ← eq_foldl_of_answer hanswer]

variable {keyboard : Keyboard} {n : Nat}

/-- **What an interruption loses**, for any number of levels to spare.  A session that is
interrupted after `n` lines prints and logs what it would if its input ended there, and is ended by
the same faults.  But it returns the interpreter that the startup file left, to which the session
whose input ends has applied the lines.  So it returns the same exactly if the lines lead back to
where they started from, or are ended by a fault.  This holds as well if tables are taken for the
same that have the same bodies for all names, in whatever order the names were defined. -/
theorem run_interruptedAfter (limit : Nat) (i : Interpreter) (hn : n ≤ keyboard.lines.length) :
    (run limit settings folder (keyboard.interruptedAfter n) i).trace =
      (run limit settings folder (keyboard.endedAfter n) i).trace ∧
    (∀ fault, (run limit settings folder (keyboard.interruptedAfter n) i).outcome = .error fault ↔
      (run limit settings folder (keyboard.endedAfter n) i).outcome = .error fault) ∧
    (∀ j, (run limit settings folder (keyboard.interruptedAfter n) i).outcome = .ok j →
      (start limit settings folder i).outcome = .ok j ∧
      (run limit settings folder (keyboard.endedAfter n) i).outcome =
        .ok ((keyboard.lines.take n).foldl (Interpreter.attempt limit) j)) ∧
    ((run limit settings folder (keyboard.interruptedAfter n) i).outcome =
        (run limit settings folder (keyboard.endedAfter n) i).outcome ↔
      ∀ j, (run limit settings folder (keyboard.interruptedAfter n) i).outcome = .ok j →
        (keyboard.lines.take n).foldl (Interpreter.attempt limit) j = j) ∧
    ((∀ j j', (run limit settings folder (keyboard.interruptedAfter n) i).outcome = .ok j →
        (run limit settings folder (keyboard.endedAfter n) i).outcome = .ok j' →
          Interpreter.AgreeOn (fun _ => True) j' j) ↔
      ∀ j, (run limit settings folder (keyboard.interruptedAfter n) i).outcome = .ok j →
        Interpreter.AgreeOn (fun _ => True)
          ((keyboard.lines.take n).foldl (Interpreter.attempt limit) j) j) := by
  rw [Keyboard.interruptedAfter, if_pos hn, Keyboard.endedAfter]
  refine ⟨trace_run_interrupt settings folder limit _ i, ?_⟩
  rcases outcome_run_interrupt settings folder limit (keyboard.lines.take n) i with
    ⟨fault, hinterrupt, hend⟩ | ⟨started, hstart, hinterrupt, hend⟩
  · rw [hinterrupt, hend]
    simp
  · rw [hstart, hinterrupt, hend]
    simp [eq_comm]

/-- A session on two lines, `1` and `: x`, without a startup file. -/
def twoLines : Keyboard := ⟨[['1'], [':', ' ', 'x']], .endOfInput⟩

/-- The choices of a session that are made when nothing is chosen. -/
def plainly : Settings := ⟨[], false, some defaultStartupFile⟩

/-- Interrupted after both lines, the session has printed what it would at the end of its input,
but the value and the definition that it has begun are lost. -/
theorem run_interruptedAfter_twoLines :
    (run 0 plainly (Folder.ofFiles []) (twoLines.interruptedAfter 2) .new).trace =
        (run 0 plainly (Folder.ofFiles []) (twoLines.endedAfter 2) .new).trace ∧
      (run 0 plainly (Folder.ofFiles []) (twoLines.interruptedAfter 2) .new).outcome = .ok .new ∧
      (run 0 plainly (Folder.ofFiles []) (twoLines.endedAfter 2) .new).outcome =
        .ok { Interpreter.new.push 1 with mode := .capturing ['x'] [] } := by
  have hinterrupt : (run 0 plainly (Folder.ofFiles []) (twoLines.interruptedAfter 2) .new).outcome =
      .ok .new := by decide +kernel
  obtain ⟨htrace, -, hlost, -⟩ := @run_interruptedAfter plainly (Folder.ofFiles [])
    twoLines 2 0 .new (Nat.le_refl 2)
  refine ⟨htrace, hinterrupt, (hlost _ hinterrupt).2.trans ?_⟩
  decide +kernel

/-- An interrupted session does not return what it would if its input ended. -/
theorem interruption_loses_lines :
    ∃ limit settings folder, ∃ keyboard : Keyboard, ∃ n ≤ keyboard.lines.length, ∃ i j j',
      (run limit settings folder (keyboard.interruptedAfter n) i).outcome = .ok j ∧
      (run limit settings folder (keyboard.endedAfter n) i).outcome = .ok j' ∧ j ≠ j' := by
  refine ⟨Interpreter.expansionLimit, plainly, Folder.ofFiles [], twoLines, 1, by decide, .new,
    .new, Interpreter.new.push 1, ?_, ?_, ?_⟩
  · decide +kernel
  · decide +kernel
  · decide +kernel

end Repl

end ColonForth.Host
