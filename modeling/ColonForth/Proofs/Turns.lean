import ColonForth.Host.Console
import ColonForth.Proofs.PrintedStack

/-!
# Line by line

All hosts work line by line: they evaluate a line on the interpreter that the lines before it have
left, a failing line leaving what it was given, and then give out something about it.  A *turn* is
one such line, with its number, the interpreter that it is given and the levels of expansion that it
has to spare.

* `turnsFrom`: the turns of some lines.  They are determined by what evaluation makes of the lines,
  whatever a host does with them.
* `attempt_of_ok`, `attempt_of_recoverable`, `attempt_of_fault`: the three ways in which a turn
  goes.
* `foldl_goodLines`: the lines that do not fail lead to the same interpreter as all of them.
* `sequence`: the turns are dealt with in order, until one of them ends the host.
-/

namespace ColonForth

/-! ## Computations in order -/

namespace Traced

variable {ω ε : Type}

/-- Computations one after the other, until one of them fails. -/
def sequence : List (Traced ω ε Unit) → Traced ω ε Unit
  | [] => .done ()
  | x :: rest => x.andThen fun _ => sequence rest

variable {α : Type} {xs : List α} {f : α → Traced ω ε Unit}

lemma outcome_sequence_map_eq_ok_iff :
    (sequence (xs.map f)).outcome = .ok () ↔ ∀ x ∈ xs, (f x).outcome = .ok () := by
  induction xs with
  | nil => simp [sequence]
  | cons x rest ih =>
    rw [List.forall_mem_cons, ← ih, List.map_cons, sequence]
    constructor
    · intro h
      obtain ⟨_, hx, hrest⟩ := exists_of_outcome_andThen h
      exact ⟨hx, hrest⟩
    · rintro ⟨hx, hrest⟩
      rw [outcome_andThen_of_ok hx, hrest]

/-- Computations that go well leave their traces in order. -/
lemma sequence_map_of_eq {g : α → List ω} (h : ∀ x ∈ xs, f x = ⟨g x, .ok ()⟩) :
    sequence (xs.map f) = ⟨xs.flatMap g, .ok ()⟩ := by
  induction xs with
  | nil => rfl
  | cons x rest ih =>
    rw [List.forall_mem_cons] at h
    rw [List.map_cons, sequence, h.1, ih h.2]
    rfl

end Traced

namespace Host

@[simp] lemma shownIn_append (s t : List Emission) : shownIn (s ++ t) = shownIn s ++ shownIn t :=
  List.filterMap_append

@[simp] lemma shownIn_map_shown (shown : List Shown) : shownIn (shown.map .shown) = shown := by
  simp [shownIn, List.filterMap_map]

lemma shownIn_flatMap {α : Type} (xs : List α) (f : α → List Emission) :
    shownIn (xs.flatMap f) = xs.flatMap fun x => shownIn (f x) := by
  induction xs with
  | nil => rfl
  | cons x rest ih => rw [List.flatMap_cons, List.flatMap_cons, shownIn_append, ih]

/-! ## Turns -/

/-- One line of a run. -/
structure Turn where
  /-- How many levels of expansion it has to spare. -/
  limit : Nat
  /-- The number of the line. -/
  number : Nat
  /-- The line. -/
  line : Text
  /-- The interpreter that it is given. -/
  before : Interpreter

namespace Turn

/-- Why the line fails, if it does. -/
def failure? (t : Turn) : Option Failure :=
  match (t.before.eval t.limit t.line).outcome with
  | .ok _ => none
  | .error e => some e

/-- The interpreter that the line leaves, which is the one it was given if it fails. -/
def after (t : Turn) : Interpreter := t.before.attempt t.limit t.line

/-- The line does not end the host. -/
def Passes (t : Turn) : Prop := ∀ e, t.failure? = some e → e.isRecoverable = true

/-- What evaluating the line adds to the log. -/
def logs (t : Turn) : List Emission :=
  (t.before.eval t.limit t.line).trace.map fun e => .logged (Log.Record.ofEvent e)

variable {t : Turn} {e : Failure}

@[simp] lemma shownIn_logs (t : Turn) : shownIn t.logs = [] := by
  simp [shownIn, logs]

lemma failure?_eq_none_iff :
    t.failure? = none ↔ (t.before.eval t.limit t.line).outcome = .ok t.after := by
  unfold failure? after Interpreter.attempt
  cases (t.before.eval t.limit t.line).outcome <;> simp

lemma failure?_eq_some_iff :
    t.failure? = some e ↔ (t.before.eval t.limit t.line).outcome = .error e := by
  unfold failure?
  cases (t.before.eval t.limit t.line).outcome <;> simp

lemma after_of_failure (h : t.failure? = some e) : t.after = t.before := by
  rw [after, Interpreter.attempt, failure?_eq_some_iff.1 h]

/-- A line that goes well hands over what it leaves. -/
lemma attempt_of_ok (h : t.failure? = none) :
    attempt t.limit t.before t.line = ⟨t.logs, .ok (.ok t.after)⟩ := by
  simp only [attempt, failure?_eq_none_iff.1 h, logs]

/-- A line that fails in a way that hosts recover from hands over its failure. -/
lemma attempt_of_recoverable (h : t.failure? = some e) (he : e.isRecoverable = true) :
    attempt t.limit t.before t.line = ⟨t.logs, .ok (.error e)⟩ := by
  simp only [attempt, failure?_eq_some_iff.1 h, if_pos he, logs]

/-- Any other failure ends the host. -/
lemma attempt_of_fault (h : t.failure? = some e) (he : ¬ e.isRecoverable = true) :
    attempt t.limit t.before t.line = ⟨t.logs, .error (.evaluation e)⟩ := by
  simp only [attempt, failure?_eq_some_iff.1 h, if_neg he, logs]

/-- What a host is handed over, if it goes on. -/
lemma of_outcome_attempt {result : Except Failure Interpreter}
    (h : (attempt t.limit t.before t.line).outcome = .ok result) :
    (result = .ok t.after ∧ t.failure? = none) ∨
      ∃ e, result = .error e ∧ t.failure? = some e ∧ e.isRecoverable = true := by
  cases hfail : t.failure? with
  | none =>
    rw [attempt_of_ok hfail] at h
    exact Or.inl ⟨(Except.ok.inj h).symm, rfl⟩
  | some e =>
    by_cases he : e.isRecoverable = true
    · rw [attempt_of_recoverable hfail he] at h
      exact Or.inr ⟨e, (Except.ok.inj h).symm, rfl, he⟩
    · rw [attempt_of_fault hfail he] at h
      exact absurd h (by simp)

lemma passes_of_outcome_attempt {result : Except Failure Interpreter}
    (h : (attempt t.limit t.before t.line).outcome = .ok result) : t.Passes := by
  intro e hfail
  rcases of_outcome_attempt h with ⟨-, hnone⟩ | ⟨e', -, hsome, he⟩
  · exact absurd (hfail.symm.trans hnone) (by simp)
  · obtain rfl := Option.some.inj (hfail.symm.trans hsome)
    exact he

end Turn

/-- The turns of some lines.  Each line is given what the lines before it have left. -/
def turnsFrom (limit first : Nat) (i : Interpreter) (lines : List Text) : List Turn :=
  lines.mapIdx fun k line =>
    ⟨limit, first + k, line, (lines.take k).foldl (Interpreter.attempt limit) i⟩

variable {limit first : Nat} {i : Interpreter} {line : Text} {lines rest : List Text}

@[simp] lemma turnsFrom_nil (limit first : Nat) (i : Interpreter) :
    turnsFrom limit first i [] = [] := rfl

lemma turnsFrom_cons (limit first : Nat) (i : Interpreter) (line : Text) (rest : List Text) :
    turnsFrom limit first i (line :: rest) =
      ⟨limit, first, line, i⟩ ::
        turnsFrom limit (first + 1) (Turn.after ⟨limit, first, line, i⟩) rest := by
  simp only [turnsFrom, List.mapIdx_cons, List.take_zero, List.foldl_nil, Nat.add_zero,
    List.take_succ_cons, List.foldl_cons]
  refine congrArg _ (List.mapIdx_eq_mapIdx_iff.2 fun k hk => ?_)
  rw [Nat.add_assoc, Nat.add_comm 1 k]
  rfl

/-- The lines that go well. -/
def goodLines (limit first : Nat) (i : Interpreter) (lines : List Text) : List Text :=
  ((turnsFrom limit first i lines).filter fun t => t.failure?.isNone).map Turn.line

lemma goodLines_cons_of_ok (h : Turn.failure? ⟨limit, first, line, i⟩ = none) :
    goodLines limit first i (line :: rest) =
      line :: goodLines limit (first + 1) (Turn.after ⟨limit, first, line, i⟩) rest := by
  simp [goodLines, turnsFrom_cons, h]

lemma goodLines_cons_of_failure {e : Failure}
    (h : Turn.failure? ⟨limit, first, line, i⟩ = some e) :
    goodLines limit first i (line :: rest) = goodLines limit (first + 1) i rest := by
  simp [goodLines, turnsFrom_cons, h, Turn.after_of_failure h]

/-- **A failing line leaves no trace**: the others lead to the same interpreter without it. -/
theorem foldl_goodLines (limit first : Nat) (i : Interpreter) (lines : List Text) :
    (goodLines limit first i lines).foldl (Interpreter.attempt limit) i =
      lines.foldl (Interpreter.attempt limit) i := by
  induction lines generalizing first i with
  | nil => rfl
  | cons line rest ih =>
    have hafter : Turn.after ⟨limit, first, line, i⟩ = i.attempt limit line := rfl
    rw [List.foldl_cons, ← hafter]
    cases hfail : Turn.failure? ⟨limit, first, line, i⟩ with
    | none => rw [goodLines_cons_of_ok hfail, List.foldl_cons, ← hafter, ih]
    | some e => rw [goodLines_cons_of_failure hfail, Turn.after_of_failure hfail, ih]

/-- Without the failing lines, each line is given what it was given with them, and goes well. -/
lemma of_mem_turnsFrom_goodLines {first' : Nat} {t : Turn}
    (h : t ∈ turnsFrom limit first' i (goodLines limit first i lines)) :
    t.failure? = none ∧ ∃ t' ∈ turnsFrom limit first i lines, t'.after = t.after := by
  induction lines generalizing first first' i with
  | nil => exact absurd h List.not_mem_nil
  | cons line rest ih =>
    rw [turnsFrom_cons]
    cases hfail : Turn.failure? ⟨limit, first, line, i⟩ with
    | none =>
      rw [goodLines_cons_of_ok hfail, turnsFrom_cons, List.mem_cons] at h
      rcases h with rfl | h
      · exact ⟨hfail, _, List.mem_cons_self, rfl⟩
      · obtain ⟨hnone, t', ht', hafter⟩ := ih h
        exact ⟨hnone, t', List.mem_cons_of_mem _ ht', hafter⟩
    | some e =>
      rw [goodLines_cons_of_failure hfail] at h
      obtain ⟨hnone, t', ht', hafter⟩ := ih h
      rw [Turn.after_of_failure hfail]
      exact ⟨hnone, t', List.mem_cons_of_mem _ ht', hafter⟩

lemma mem_of_mem_goodLines (h : line ∈ goodLines limit first i lines) : line ∈ lines := by
  obtain ⟨t, ht, rfl⟩ := List.mem_map.1 h
  obtain ⟨k, hk, rfl⟩ := List.mem_mapIdx.1 (List.mem_filter.1 ht).1
  exact List.getElem_mem hk

/-- If every line that goes well leaves a writable stack, so do all of them together. -/
lemma isWritable_foldl (hi : i.IsWritable)
    (h : ∀ t ∈ turnsFrom limit first i lines, t.failure? = none → t.after.IsWritable) :
    (lines.foldl (Interpreter.attempt limit) i).IsWritable := by
  induction lines generalizing first i with
  | nil => exact hi
  | cons line rest ih =>
    rw [turnsFrom_cons, List.forall_mem_cons] at h
    -- a failing line leaves the stack as it was
    have hafter : (Turn.after ⟨limit, first, line, i⟩).IsWritable := by
      cases hfail : Turn.failure? ⟨limit, first, line, i⟩ with
      | none => exact h.1 hfail
      | some e => rwa [Turn.after_of_failure hfail]
    exact ih hafter h.2

end Host

end ColonForth
