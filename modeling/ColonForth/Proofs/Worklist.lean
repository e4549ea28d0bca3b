import ColonForth.Proofs.Stepping

/-!
# Expansion in place

Bodies inside bodies are evaluated by recursion.  This file shows that the same is done by a flat
machine without any nesting, which keeps a queue of words and puts the words of a body in front of
it when it meets a defined word:

* `Worklist.next` is one move of the machine, `Worklist.run` lets it move for a while;
* `matches_steps` follows an evaluation by moves of the machine.  An evaluation that runs out of
  levels makes the machine move more often than there are levels, which is what relates the two
  measures: levels of nesting on one side, moves on the other;
* `eval_mono`: an evaluation that does not run out of levels is the same with more of them.

The main result is that the two have the same outcome: `eval_eq_worklist`.
-/

namespace ColonForth

open Interpreter

/-- A machine that evaluates without nesting. -/
structure Worklist where
  /-- The interpreter so far. -/
  interpreter : Interpreter
  /-- The words still to come. -/
  queue : List Text

namespace Worklist

/-- One move: the first word of the queue is replaced by the words of its body, or else it acts.
There is none when the queue is empty. -/
def next : Worklist → Option (Except Failure Worklist)
  | ⟨_, []⟩ => none
  | ⟨i, word :: queue⟩ =>
    match i.expansion? word with
    | some body => some (.ok ⟨i, tokenize body ++ queue⟩)
    | none =>
      match i.act word with
      | .ok j => some (.ok ⟨j, queue⟩)
      | .error e => some (.error e)

/-- The machine moves until its queue is empty or a word fails, looking at its queue at most
`fuel` times. -/
def run : (fuel : Nat) → Worklist → Option (Except Failure Interpreter)
  | 0, _ => none
  | fuel + 1, c =>
    match c.next with
    | none => some (.ok c.interpreter)
    | some (.error e) => some (.error e)
    | some (.ok c') => run fuel c'

/-- The machine ends with the given outcome. -/
def Ends (c : Worklist) (r : Except Failure Interpreter) : Prop := ∃ fuel, run fuel c = some r

/-- The machine gets from `c` to `c'` in exactly `k` moves. -/
inductive MovesIn : (k : Nat) → (c c' : Worklist) → Prop
  /-- No move. -/
  | refl (c : Worklist) : MovesIn 0 c c
  /-- A move, and then others. -/
  | head {k : Nat} {c c' c'' : Worklist} (h : c.next = some (.ok c')) (hrest : MovesIn k c' c'') :
      MovesIn (k + 1) c c''

variable {c c' c'' : Worklist} {i j : Interpreter} {word body : Text} {queue : List Text}
  {k l fuel : Nat} {r : Except Failure Interpreter}

/-! ## Moves -/

lemma next_expand (h : i.expansion? word = some body) :
    next ⟨i, word :: queue⟩ = some (.ok ⟨i, tokenize body ++ queue⟩) := by
  rw [next, h]

lemma next_act (h : i.expansion? word = none) (hact : i.act word = .ok j) :
    next ⟨i, word :: queue⟩ = some (.ok ⟨j, queue⟩) := by
  rw [next, h, hact]

lemma next_error {e : Failure} (h : i.expansion? word = none) (hact : i.act word = .error e) :
    next ⟨i, word :: queue⟩ = some (.error e) := by
  rw [next, h, hact]

lemma run_of_next (h : c.next = some (.ok c')) (fuel : Nat) : run (fuel + 1) c = run fuel c' := by
  rw [run, h]

lemma run_of_error {e : Failure} (h : c.next = some (.error e)) (fuel : Nat) :
    run (fuel + 1) c = some (.error e) := by
  rw [run, h]

lemma MovesIn.trans (h : MovesIn k c c') (h' : MovesIn l c' c'') : MovesIn (k + l) c c'' := by
  induction h with
  | refl c => rwa [Nat.zero_add]
  | head hnext _ ih =>
    rw [Nat.add_right_comm]
    exact .head hnext (ih h')

lemma run_of_movesIn (h : MovesIn k c c') (fuel : Nat) : run (k + fuel) c = run fuel c' := by
  induction h with
  | refl c => rw [Nat.zero_add]
  | head hnext _ ih => rw [Nat.add_right_comm, run_of_next hnext, ih]

/-- A machine that moves on for `k` moves has not ended after looking `k` times. -/
lemma run_eq_none_of_movesIn (h : MovesIn k c c') (hfuel : fuel ≤ k) : run fuel c = none := by
  induction h generalizing fuel with
  | refl c =>
    obtain rfl := Nat.le_zero.1 hfuel
    rfl
  | head hnext _ ih =>
    cases fuel with
    | zero => rfl
    | succ fuel => rw [run_of_next hnext, ih (Nat.le_of_succ_le_succ hfuel)]

lemma run_mono {fuel' : Nat} (h : run fuel c = some r) (hle : fuel ≤ fuel') :
    run fuel' c = some r := by
  induction fuel generalizing c fuel' with
  | zero => exact absurd h (by simp [run])
  | succ fuel ih =>
    obtain ⟨more, rfl⟩ := Nat.exists_eq_add_of_le' (Nat.le_trans (Nat.le_add_left 1 fuel) hle)
    rw [run] at h ⊢
    split at h
    · exact h
    · exact h
    · exact ih h (Nat.le_of_succ_le_succ hle)

/-- The machine has one outcome at most. -/
lemma Ends.unique {r' : Except Failure Interpreter} (h : Ends c r) (h' : Ends c r') : r = r' := by
  obtain ⟨fuel, hr⟩ := h
  obtain ⟨fuel', hr'⟩ := h'
  have hmax := run_mono hr (Nat.le_max_left fuel fuel')
  rw [run_mono hr' (Nat.le_max_right fuel fuel')] at hmax
  exact (Option.some.inj hmax).symm

lemma Ends.of_movesIn (h : MovesIn k c c') (h' : Ends c' r) : Ends c r := by
  obtain ⟨fuel, hr⟩ := h'
  exact ⟨k + fuel, by rw [run_of_movesIn h, hr]⟩

/-! ## Following an evaluation -/

/-- The moves of the machine from `c` match an outcome of evaluating the words in front of
`queue`: it gets to the end of these words, or fails as they do, or else has more than `limit`
moves to make. -/
inductive Matches (limit : Nat) (c : Worklist) (queue : List Text) :
    Except Failure Interpreter → Prop
  /-- The words in front of the queue are dealt with. -/
  | ok {k : Nat} {j : Interpreter} (h : MovesIn k c ⟨j, queue⟩) : Matches limit c queue (.ok j)
  /-- There are too many levels, and no fewer moves. -/
  | tooDeep {k : Nat} {c' : Worklist} (hk : limit < k) (h : MovesIn k c c') :
      Matches limit c queue (.error .tooDeep)
  /-- A word fails. -/
  | failed {k : Nat} {c' : Worklist} {e : Failure} (he : e ≠ .tooDeep) (h : MovesIn k c c')
      (hnext : c'.next = some (.error e)) : Matches limit c queue (.error e)

variable {limit limit' : Nat}

lemma Matches.mono (h : Matches limit c queue r) (hle : limit' ≤ limit) :
    Matches limit' c queue r := by
  cases h with
  | ok hmoves => exact .ok hmoves
  | tooDeep hk hmoves => exact .tooDeep (Nat.lt_of_le_of_lt hle hk) hmoves
  | failed he hmoves hnext => exact .failed he hmoves hnext

/-- Moves made before add to the levels that are matched. -/
lemma Matches.after (hmoves : MovesIn k c c') (h : Matches limit c' queue r) :
    Matches (k + limit) c queue r := by
  cases h with
  | ok hrest => exact .ok (hmoves.trans hrest)
  | tooDeep hk hrest => exact .tooDeep (Nat.add_lt_add_left hk k) (hmoves.trans hrest)
  | failed he hrest hnext => exact .failed he (hmoves.trans hrest) hnext

/-- One word is followed by the machine, if the bodies of words are. -/
lemma matches_step {expand : Interpreter → Text → Run}
    (hexpand : ∀ i body queue, i.expansion? word = some body →
      Matches limit ⟨i, word :: queue⟩ queue (expand i body).outcome) :
    Matches limit ⟨i, word :: queue⟩ queue (step expand i word).outcome := by
  cases hexp : i.expansion? word with
  | some body =>
    rw [outcome_step_expand expand hexp]
    exact hexpand i body queue hexp
  | none =>
    rw [outcome_step_act expand hexp]
    cases hact : i.act word with
    | ok j => exact .ok (.head (next_act hexp hact) (.refl _))
    | error e =>
      have he : e ≠ .tooDeep := by
        rintro rfl
        exact act_ne_tooDeep hexp hact
      exact .failed he (.refl _) (next_error hexp hact)

lemma matches_steps_of_expand {expand : Interpreter → Text → Run}
    (hexpand : ∀ word i body queue, i.expansion? word = some body →
      Matches limit ⟨i, word :: queue⟩ queue (expand i body).outcome) (ts queue : List Text) :
    Matches limit ⟨i, ts ++ queue⟩ queue (steps expand ts i).outcome := by
  induction ts generalizing i with
  | nil => exact .ok (.refl _)
  | cons word rest ih =>
    -- the words after the first are part of the queue while it is followed
    have hword : Matches limit ⟨i, word :: (rest ++ queue)⟩ (rest ++ queue)
        (step expand i word).outcome := matches_step (hexpand word)
    generalize hr : (step expand i word).outcome = r at hword
    cases hword with
    | ok hmoves =>
      rw [outcome_steps_of_ok hr]
      exact (Matches.after hmoves ih).mono (Nat.le_add_left _ _)
    | tooDeep hk hmoves =>
      rw [outcome_steps_of_error hr]
      exact .tooDeep hk hmoves
    | failed he hmoves hnext =>
      rw [outcome_steps_of_error hr]
      exact .failed he hmoves hnext

/-- **Words in order are followed by the machine**, whatever comes after them in the queue. -/
theorem matches_steps (limit : Nat) (i : Interpreter) (ts queue : List Text) :
    Matches limit ⟨i, ts ++ queue⟩ queue (steps (Interpreter.inner limit) ts i).outcome := by
  refine matches_steps_of_expand ?_ ts queue
  -- the move that brings in a body pays for the level that the body is evaluated at
  induction limit with
  | zero =>
    intro word i body queue hexp
    exact .tooDeep Nat.zero_lt_one (.head (next_expand hexp) (.refl _))
  | succ limit ih =>
    intro word i body queue hexp
    have hbody : Matches limit ⟨i, tokenize body ++ queue⟩ queue (eval limit i body).outcome := by
      rw [outcome_eval]
      exact matches_steps_of_expand ih (tokenize body) queue
    rw [Interpreter.inner, Nat.add_comm]
    exact Matches.after (.head (next_expand hexp) (.refl _)) hbody

end Worklist

/-! ## More levels -/

namespace Interpreter

/-- `expand'` does with a body what `expand` does, unless that runs out of levels. -/
def Extends (expand expand' : Interpreter → Text → Run) : Prop :=
  ∀ i body, (expand i body).outcome ≠ .error .tooDeep → expand' i body = expand i body

variable {expand expand' : Interpreter → Text → Run} {i : Interpreter}

lemma Extends.step {word : Text} (h : Extends expand expand')
    (hne : (step expand i word).outcome ≠ .error .tooDeep) :
    step expand' i word = step expand i word := by
  cases hexp : i.expansion? word with
  | none => exact step_of_no_expansion expand' expand hexp
  | some body =>
    rw [outcome_step_expand expand hexp] at hne
    rw [step_of_expansion expand' hexp, step_of_expansion expand hexp, h i body hne]

lemma Extends.steps {ts : List Text} (h : Extends expand expand')
    (hne : (steps expand ts i).outcome ≠ .error .tooDeep) :
    steps expand' ts i = steps expand ts i := by
  induction ts generalizing i with
  | nil => rfl
  | cons word rest ih =>
    have hword : (Interpreter.step expand i word).outcome ≠ .error .tooDeep :=
      fun he => hne (outcome_steps_of_error he)
    rw [Interpreter.steps, Interpreter.steps, h.step hword]
    refine Traced.andThen_congr fun j hj => ih ?_
    rwa [outcome_steps_of_ok hj] at hne

lemma extends_inner {limit limit' : Nat} (hle : limit ≤ limit') :
    Extends (inner limit) (inner limit') := by
  induction limit generalizing limit' with
  | zero => exact fun i body hne => absurd rfl hne
  | succ limit ih =>
    obtain ⟨more, rfl⟩ := Nat.exists_eq_add_of_le' (Nat.le_trans (Nat.le_add_left 1 limit) hle)
    intro i body hne
    rw [inner, outcome_eval] at hne
    have hsteps := (ih (Nat.le_of_succ_le_succ hle)).steps hne
    rw [inner, inner, eval_eq_evalWith, eval_eq_evalWith, evalWith, evalWith, hsteps]

/-- **An evaluation that does not run out of levels is the same with more of them**, its trace
included. -/
theorem eval_mono {limit limit' : Nat} {program : Text} (hle : limit ≤ limit')
    (hne : (eval limit i program).outcome ≠ .error .tooDeep) :
    eval limit' i program = eval limit i program :=
  extends_inner (Nat.succ_le_succ hle) i program hne

end Interpreter

/-! ## The two have the same outcome -/

namespace Worklist

variable {i : Interpreter} {program : Text} {limit : Nat} {r : Except Failure Interpreter}

lemma ends_nil (i : Interpreter) : Ends ⟨i, []⟩ (.ok i) := ⟨1, rfl⟩

/-- An evaluation that does not run out of levels has the outcome of the machine. -/
lemma ends_of_eval (hne : (eval limit i program).outcome ≠ .error .tooDeep) :
    Ends ⟨i, tokenize program⟩ (eval limit i program).outcome := by
  rw [outcome_eval] at hne ⊢
  have hmatch := matches_steps limit i (tokenize program) []
  rw [List.append_nil] at hmatch
  generalize (steps (Interpreter.inner limit) (tokenize program) i).outcome = r at hmatch hne
  cases hmatch with
  | ok hmoves => exact Ends.of_movesIn hmoves (ends_nil _)
  | tooDeep => exact absurd rfl hne
  | failed _ hmoves hnext => exact Ends.of_movesIn hmoves ⟨1, run_of_error hnext 0⟩

/-- An evaluation does not run out of levels if the machine ends after no more looks at its queue
than there are levels. -/
lemma eval_ne_tooDeep {fuel : Nat} (h : run fuel ⟨i, tokenize program⟩ = some r)
    (hle : fuel ≤ limit) : (eval limit i program).outcome ≠ .error .tooDeep := by
  -- running out of levels would take more moves than the machine makes
  intro hdeep
  have hmatch := matches_steps limit i (tokenize program) []
  rw [List.append_nil, ← outcome_eval, hdeep] at hmatch
  cases hmatch with
  | tooDeep hk hmoves =>
    rw [run_eq_none_of_movesIn hmoves (Nat.le_trans hle (Nat.le_of_lt hk))] at h
    exact absurd h (by simp)
  | failed he => exact absurd rfl he

/-- The machine's outcome is that of evaluation with enough levels. -/
lemma eval_of_run {fuel : Nat} (h : run fuel ⟨i, tokenize program⟩ = some r)
    (hle : fuel ≤ limit) : (eval limit i program).outcome = r :=
  (ends_of_eval (eval_ne_tooDeep h hle)).unique ⟨fuel, h⟩

/-- **Nested evaluation is expansion in place.**  Whenever an evaluation does not run out of
levels, the machine ends with its outcome, and more levels change nothing; and whenever the machine
ends, evaluation has the machine's outcome from some number of levels on. -/
theorem eval_eq_worklist (i : Interpreter) (program : Text) :
    (∀ limit, (eval limit i program).outcome ≠ .error .tooDeep →
      Ends ⟨i, tokenize program⟩ (eval limit i program).outcome ∧
        ∀ limit' > limit, (eval limit' i program).outcome = (eval limit i program).outcome) ∧
    ∀ r, Ends ⟨i, tokenize program⟩ r →
      ∃ limit, ∀ limit' ≥ limit, (eval limit' i program).outcome = r := by
  refine ⟨fun limit hne => ⟨ends_of_eval hne, fun limit' hlt => ?_⟩, ?_⟩
  · rw [eval_mono (Nat.le_of_lt hlt) hne]
  · rintro r ⟨fuel, h⟩
    exact ⟨fuel, fun limit' hle => eval_of_run h hle⟩

end Worklist

end ColonForth
