import ColonForth.Proofs.Failures

/-!
# Calls

The evaluation of a body takes place inside the evaluation that has come to the word.  This file
makes the nesting visible.  A machine keeps the evaluations that have begun and not ended, its
*calls*.  A word with a body opens a call, any other word acts, and a call without further words
returns to the one below it.

* `next` is one move of the machine, and `events` is what evaluation records when it is made.
* `Passes`: the machine gets from one place to another, and which places it passes.
* `Recorded`: an evaluation is followed by moves of the machine, *its trace included*.  What is
  recorded on the way are the events of the moves; if a word fails, the calls that the failure
  passes on its way out are recorded after them, innermost first.

The main result is `recorded_eval`: every evaluation is followed in this sense.
-/

namespace ColonForth

/-- An evaluation that has begun and not ended. -/
structure Call where
  /-- The text that is evaluated. -/
  text : Text
  /-- The words of the text that are not dealt with, from the one on at which the call stands. -/
  rest : List Text

/-- The word at which a call stands. -/
def Call.word (call : Call) : Text := call.rest.headD []

/-- The definition that a word stores: it is a semicolon that ends it. -/
def Interpreter.stored? (i : Interpreter) (word : Text) : Option (Text × Text) :=
  match i.mode with
  | .capturing name body => if word = semicolon then some (name, body) else none
  | _ => none

/-- A machine that evaluates with an explicit stack of calls. -/
structure CallStack where
  /-- The interpreter so far. -/
  interpreter : Interpreter
  /-- The calls that are under way, innermost first. -/
  calls : List Call

namespace CallStack

open Interpreter

/-- The calls when the one above them has returned: the word that opened it is dealt with. -/
def afterReturn : List Call → List Call
  | [] => []
  | call :: calls => ⟨call.text, call.rest.tail⟩ :: calls

/-- One move: the innermost call returns, or opens a call for the body of its word, or its word
acts.  There is none when no call is under way. -/
def next : CallStack → Option (Except Failure CallStack)
  | ⟨_, []⟩ => none
  | ⟨i, ⟨_, []⟩ :: calls⟩ => some (.ok ⟨i, afterReturn calls⟩)
  | ⟨i, ⟨text, word :: rest⟩ :: calls⟩ =>
    match i.expansion? word with
    | some body => some (.ok ⟨i, ⟨body, tokenize body⟩ :: ⟨text, word :: rest⟩ :: calls⟩)
    | none =>
      match i.act word with
      | .ok j => some (.ok ⟨j, ⟨text, rest⟩ :: calls⟩)
      | .error e => some (.error e)

/-- The body that a call is opened for by the next move. -/
def opening? : CallStack → Option Text
  | ⟨i, ⟨_, word :: _⟩ :: _⟩ => i.expansion? word
  | _ => none

/-- The definition that is stored by the next move. -/
def storing? : CallStack → Option (Text × Text)
  | ⟨i, ⟨_, word :: _⟩ :: _⟩ => i.stored? word
  | _ => none

/-- What is recorded when the next move is made. -/
def events (c : CallStack) : List Event :=
  (c.opening?.map Event.evaluating).toList ++
    (c.storing?.map fun entry => Event.defined entry.1 entry.2).toList

/-- The machine gets from `c` to `c'` by passing the places `visited`, `c` being the first of them,
unless it does not move at all. -/
inductive Passes : (c : CallStack) → (visited : List CallStack) → (c' : CallStack) → Prop
  /-- No move. -/
  | refl (c : CallStack) : Passes c [] c
  /-- A move, and then others. -/
  | head {c c' c'' : CallStack} {visited : List CallStack} (h : c.next = some (.ok c'))
      (hrest : Passes c' visited c'') : Passes c (c :: visited) c''

/-- The machine at the beginning of a program. -/
def start (i : Interpreter) (program : Text) : CallStack := ⟨i, [⟨program, tokenize program⟩]⟩

variable {c c' c'' : CallStack} {visited visited' : List CallStack} {i j : Interpreter}
  {word body text : Text} {rest : List Text} {calls below : List Call}

/-! ## Moves -/

lemma next_open (h : i.expansion? word = some body) :
    next ⟨i, ⟨text, word :: rest⟩ :: calls⟩ =
      some (.ok ⟨i, ⟨body, tokenize body⟩ :: ⟨text, word :: rest⟩ :: calls⟩) := by
  rw [next, h]

lemma next_act (h : i.expansion? word = none) (hact : i.act word = .ok j) :
    next ⟨i, ⟨text, word :: rest⟩ :: calls⟩ = some (.ok ⟨j, ⟨text, rest⟩ :: calls⟩) := by
  rw [next, h, hact]

lemma next_error {e : Failure} (h : i.expansion? word = none) (hact : i.act word = .error e) :
    next ⟨i, ⟨text, word :: rest⟩ :: calls⟩ = some (.error e) := by
  rw [next, h, hact]

/-- All that a move can do. -/
lemma next_cases (h : c.next = some (.ok c')) :
    (∃ i text calls, c = ⟨i, ⟨text, []⟩ :: calls⟩ ∧ c' = ⟨i, afterReturn calls⟩) ∨
    (∃ i text word rest calls body, c = ⟨i, ⟨text, word :: rest⟩ :: calls⟩ ∧
      i.expansion? word = some body ∧
      c' = ⟨i, ⟨body, tokenize body⟩ :: ⟨text, word :: rest⟩ :: calls⟩) ∨
    ∃ i j text word rest calls, c = ⟨i, ⟨text, word :: rest⟩ :: calls⟩ ∧
      i.expansion? word = none ∧ i.act word = .ok j ∧ c' = ⟨j, ⟨text, rest⟩ :: calls⟩ := by
  obtain ⟨i, _ | ⟨⟨text, _ | ⟨word, rest⟩⟩, calls⟩⟩ := c
  · exact absurd h (by simp [next])
  · obtain rfl := Except.ok.inj (Option.some.inj h)
    exact Or.inl ⟨i, text, calls, rfl, rfl⟩
  · cases hexp : i.expansion? word with
    | some body =>
      rw [next_open hexp] at h
      obtain rfl := Except.ok.inj (Option.some.inj h)
      exact Or.inr (Or.inl ⟨i, text, word, rest, calls, body, rfl, hexp, rfl⟩)
    | none =>
      cases hact : i.act word with
      | error e =>
        rw [next_error hexp hact] at h
        exact absurd h (by simp)
      | ok j =>
        rw [next_act hexp hact] at h
        obtain rfl := Except.ok.inj (Option.some.inj h)
        exact Or.inr (Or.inr ⟨i, j, text, word, rest, calls, rfl, hexp, hact, rfl⟩)

/-- A move fails where the innermost call stands at a word that fails. -/
lemma exists_of_next_error {e : Failure} (h : c.next = some (.error e)) :
    ∃ i text word rest calls, c = ⟨i, ⟨text, word :: rest⟩ :: calls⟩ ∧
      i.expansion? word = none ∧ i.act word = .error e := by
  obtain ⟨i, _ | ⟨⟨text, _ | ⟨word, rest⟩⟩, calls⟩⟩ := c
  · exact absurd h (by simp [next])
  · exact absurd h (by simp [next])
  · cases hexp : i.expansion? word with
    | some body =>
      rw [next_open hexp] at h
      exact absurd h (by simp)
    | none =>
      cases hact : i.act word with
      | ok j =>
        rw [next_act hexp hact] at h
        exact absurd h (by simp)
      | error e' =>
        rw [next_error hexp hact] at h
        obtain rfl := Except.error.inj (Option.some.inj h)
        exact ⟨i, text, word, rest, calls, rfl, hexp, hact⟩

lemma Passes.single (h : c.next = some (.ok c')) : Passes c [c] c' := .head h (.refl c')

lemma Passes.trans (h : Passes c visited c') (h' : Passes c' visited' c'') :
    Passes c (visited ++ visited') c'' := by
  induction h with
  | refl => exact h'
  | head hnext _ ih => exact .head hnext (ih h')

/-! ## What is recorded by a word without a body -/

lemma stored?_of_mode (h : i.mode = .evaluating) (word : Text) : i.stored? word = none := by
  rw [stored?, h]

lemma events_open (h : i.expansion? word = some body) :
    events ⟨i, ⟨text, word :: rest⟩ :: calls⟩ = [.evaluating body] := by
  have hmode : i.mode = .evaluating := (expansion?_eq_some_iff.1 h).2.1
  rw [events, opening?, storing?, h, stored?_of_mode hmode]
  rfl

lemma events_act (h : i.expansion? word = none) :
    events ⟨i, ⟨text, word :: rest⟩ :: calls⟩ =
      ((i.stored? word).map fun entry => Event.defined entry.1 entry.2).toList := by
  rw [events, opening?, storing?, h]
  rfl

/-- The evaluation of a word without a body records nothing by itself. -/
lemma trace_perform (i : Interpreter) (word : Text) :
    (perform (fun _ _ => .fail .tooDeep) i word).trace = [] := by
  unfold perform
  split
  · rfl
  · rfl
  · rfl
  · rfl
  · split
    · rfl
    · rfl
  · rfl

/-- A word without a body that goes well records the definition that it stores, if any. -/
lemma trace_step_of_ok (expand : Interpreter → Text → Run) (hexp : i.expansion? word = none)
    (hact : i.act word = .ok j) : (step expand i word).trace =
      ((i.stored? word).map fun entry => Event.defined entry.1 entry.2).toList := by
  rw [step_of_no_expansion expand (fun _ _ => .fail .tooDeep) hexp]
  by_cases hword : word = []
  · subst hword
    rw [stored?]
    split
    · rfl
    · rfl
  cases hmode : i.mode with
  | awaitingName =>
    rw [step, if_neg (by simpa using hword), hmode, stored?, hmode]
    rfl
  | capturing name body =>
    rw [step, if_neg (by simpa using hword), hmode, stored?, hmode]
    simp only [capture]
    split
    · rfl
    · rfl
  | evaluating =>
    rw [act_of_evaluating hword hmode] at hact
    rw [step_of_evaluating _ hword hmode, Traced.onFailure_of_ok hact, trace_perform,
      stored?_of_mode hmode]
    rfl

/-- A word without a body that fails is recorded if it is evaluated, and fails for what a word can
fail for. -/
lemma trace_step_of_error (expand : Interpreter → Text → Run) {e : Failure}
    (hexp : i.expansion? word = none) (hact : i.act word = .error e) :
    (step expand i word).trace = if i.mode = .evaluating then failureEvents word e else [] := by
  rw [step_of_no_expansion expand (fun _ _ => .fail .tooDeep) hexp]
  have hword : word ≠ [] := by
    rintro rfl
    exact absurd hact (by simp)
  cases hmode : i.mode with
  | awaitingName =>
    rw [step, if_neg (by simpa using hword), hmode]
    rfl
  | capturing name body =>
    rw [act_of_capturing hword hmode] at hact
    exact absurd hact (by simp)
  | evaluating =>
    rw [act_of_evaluating hword hmode] at hact
    rw [step_of_evaluating _ hword hmode, Traced.onFailure_of_error hact, trace_perform,
      if_pos rfl, List.nil_append]

/-! ## Following an evaluation -/

/-- The calls that are recorded when the failure `e` passes them on its way out, innermost first.  A
name that is refused is not recorded itself. -/
def passed (e : WordError) (calls : List Call) : List Call :=
  if e = .invalidWord then calls.tail else calls

/-- What is recorded of a failure on its way out of calls. -/
def failures (e : WordError) (calls : List Call) : List Event :=
  (passed e calls).map fun call => .failed call.word e

lemma failures_append (e : WordError) {calls : List Call} (h : calls ≠ []) (call : Call) :
    failures e (calls ++ [call]) = failures e calls ++ [.failed call.word e] := by
  unfold failures passed
  split
  · rw [List.tail_append_of_ne_nil h, List.map_append]
    rfl
  · rw [List.map_append]
    rfl

/-- A word that fails itself is recorded, unless it is refused as a name. -/
lemma trace_step_of_wordError {e : WordError} (hexp : i.expansion? word = none)
    (hact : i.act word = .error (.word e)) (expand : Interpreter → Text → Run) :
    (step expand i word).trace = failures e [⟨text, word :: rest⟩] := by
  rw [trace_step_of_error expand hexp hact, failures, passed]
  rcases (fails_of_act hexp hact).mode_cases with ⟨hmode, he⟩ | ⟨hmode, he⟩ | ⟨-, n, -, -, he⟩
  · have hne : e ≠ .invalidWord := by
      rintro rfl
      exact absurd he (by simp)
    rw [if_pos hmode, if_neg hne]
    rfl
  · obtain rfl := Failure.word.inj he
    rw [if_neg (by simp [hmode]), if_pos rfl]
    rfl
  · exact absurd he (by simp)

/-- The evaluation `run` of what stands above the calls `below` is followed by the machine from `c`
on: it comes to its `landing` place, or to a word that fails, or it is cut off in between for
another reason; and what has been recorded are the events of the moves, and then the calls above
`below` that a failing word is inside of. -/
inductive Recorded (c : CallStack) (below : List Call) (landing : Interpreter → CallStack)
    (run : Run) : Prop
  /-- The evaluation goes well. -/
  | ok {visited : List CallStack} {j : Interpreter} (h : Passes c visited (landing j))
      (hout : run.outcome = .ok j) (htrace : run.trace = visited.flatMap events)
  /-- A word fails. -/
  | failed {visited : List CallStack} {k : Interpreter} {above : List Call} {e : WordError}
      (h : Passes c visited ⟨k, above ++ below⟩) (habove : above ≠ [])
      (hnext : next ⟨k, above ++ below⟩ = some (.error (.word e)))
      (hout : run.outcome = .error (.word e))
      (htrace : run.trace = visited.flatMap events ++ failures e above)
  /-- The evaluation ends for its depth or for the length of a literal. -/
  | cut {visited : List CallStack} {c' : CallStack} {e : Failure} (h : Passes c visited c')
      (he : e.isWordError = false) (hout : run.outcome = .error e)
      (htrace : run.trace = visited.flatMap events)

variable {landing landing' : Interpreter → CallStack} {run : Run}

/-- Moves made before are recorded before. -/
lemma Recorded.after (hmoves : Passes c visited c') (h : Recorded c' below landing run) :
    Recorded c below landing ⟨visited.flatMap events ++ run.trace, run.outcome⟩ := by
  cases h with
  | ok hrest hout htrace =>
    exact .ok (hmoves.trans hrest) hout (by rw [htrace, List.flatMap_append])
  | failed hrest habove hnext hout htrace =>
    refine .failed (hmoves.trans hrest) habove hnext hout ?_
    rw [htrace, List.flatMap_append, List.append_assoc]
  | cut hrest he hout htrace =>
    exact .cut (hmoves.trans hrest) he hout (by rw [htrace, List.flatMap_append])

/-- A move that records nothing may follow. -/
lemma Recorded.land (h : Recorded c below landing run)
    (hnext : ∀ j, (landing j).next = some (.ok (landing' j)))
    (hevents : ∀ j, (landing j).events = []) : Recorded c below landing' run := by
  cases h with
  | @ok visited j hmoves hout htrace =>
    refine .ok (hmoves.trans (.single (hnext j))) hout ?_
    rw [htrace, List.flatMap_append, List.flatMap_singleton, hevents, List.append_nil]
  | failed hmoves habove hfail hout htrace => exact .failed hmoves habove hfail hout htrace
  | cut hmoves he hout htrace => exact .cut hmoves he hout htrace

/-- Every way of opening a call by a word with a body is followed by the machine. -/
def FollowsBodies (expand : Interpreter → Text → Run) : Prop :=
  ∀ (i : Interpreter) (word body text : Text) (rest : List Text) (calls : List Call),
    i.expansion? word = some body →
      Recorded ⟨i, ⟨text, word :: rest⟩ :: calls⟩ (⟨text, word :: rest⟩ :: calls)
        (fun j => ⟨j, ⟨text, rest⟩ :: calls⟩) (expand i body)

/-- One word is followed by the machine, if the bodies of words are. -/
lemma recorded_step {expand : Interpreter → Text → Run} (hexpand : FollowsBodies expand)
    (i : Interpreter) (text word : Text) (rest : List Text) (calls : List Call) :
    Recorded ⟨i, ⟨text, word :: rest⟩ :: calls⟩ calls (fun j => ⟨j, ⟨text, rest⟩ :: calls⟩)
      (step expand i word) := by
  cases hexp : i.expansion? word with
  | some body =>
    rw [step_of_expansion expand hexp]
    cases hexpand i word body text rest calls hexp with
    | ok hmoves hout htrace =>
      rw [Traced.onFailure_of_ok hout]
      exact .ok hmoves hout htrace
    | @failed visited k above e hmoves habove hnext hout htrace =>
      -- the failure comes out of the body and passes the word
      rw [Traced.onFailure_of_error hout]
      rw [List.append_cons] at hmoves hnext
      refine .failed hmoves (by simp) hnext rfl ?_
      rw [failures_append e habove, htrace, List.append_assoc]
      rfl
    | @cut visited c' e hmoves he hout htrace =>
      rw [Traced.onFailure_of_error hout]
      refine .cut hmoves he rfl ?_
      cases e with
      | word error => exact absurd he (by simp [Failure.isWordError])
      | tooDeep => exact (List.append_nil _).trans htrace
      | limit error => exact (List.append_nil _).trans htrace
  | none =>
    cases hact : i.act word with
    | ok j =>
      refine .ok (.single (next_act hexp hact)) ?_ ?_
      · rw [outcome_step_act expand hexp, hact]
      · rw [trace_step_of_ok expand hexp hact, List.flatMap_singleton, events_act hexp]
    | error e =>
      have hout : (step expand i word).outcome = .error e := by
        rw [outcome_step_act expand hexp, hact]
      cases e with
      | word error =>
        have hnext : next ⟨i, [⟨text, word :: rest⟩] ++ calls⟩ = some (.error (.word error)) :=
          next_error hexp hact
        refine .failed (.refl _) (by simp) hnext hout ?_
        exact trace_step_of_wordError hexp hact expand
      | tooDeep => exact absurd hact (act_ne_tooDeep hexp)
      | limit error =>
        refine .cut (.refl _) rfl hout ?_
        rw [trace_step_of_error expand hexp hact]
        exact ite_self _

/-- Words in order are followed by the machine, if the bodies of words are. -/
lemma recorded_steps {expand : Interpreter → Text → Run} (hexpand : FollowsBodies expand)
    (text : Text) (calls : List Call) (ts : List Text) (i : Interpreter) :
    Recorded ⟨i, ⟨text, ts⟩ :: calls⟩ calls (fun j => ⟨j, ⟨text, []⟩ :: calls⟩)
      (steps expand ts i) := by
  induction ts generalizing i with
  | nil => exact .ok (.refl _) rfl rfl
  | cons word rest ih =>
    rw [steps]
    cases recorded_step hexpand i text word rest calls with
    | @ok visited j hmoves hout htrace =>
      rw [Traced.andThen_of_ok hout, htrace]
      exact .after hmoves (ih j)
    | failed hmoves habove hnext hout htrace =>
      rw [Traced.andThen_of_error hout]
      exact .failed hmoves habove hnext rfl htrace
    | cut hmoves he hout htrace =>
      rw [Traced.andThen_of_error hout]
      exact .cut hmoves he rfl htrace

lemma followsBodies_inner (limit : Nat) : FollowsBodies (inner limit) := by
  induction limit with
  | zero =>
    intro i word body text rest calls _
    exact .cut (e := .tooDeep) (.refl _) rfl rfl rfl
  | succ limit ih =>
    intro i word body text rest calls hexp
    -- the call is opened, its words are dealt with, and it returns
    have hbody := recorded_steps ih body (⟨text, word :: rest⟩ :: calls) (tokenize body) i
    have hreturn : Recorded ⟨i, ⟨body, tokenize body⟩ :: ⟨text, word :: rest⟩ :: calls⟩
        (⟨text, word :: rest⟩ :: calls) (fun j => ⟨j, ⟨text, rest⟩ :: calls⟩)
        (steps (inner limit) (tokenize body) i) := hbody.land (fun _ => rfl) (fun _ => rfl)
    have hopen := hreturn.after (.single (next_open hexp))
    rw [List.flatMap_singleton, events_open hexp] at hopen
    rw [Interpreter.inner, eval_eq_evalWith]
    exact hopen

/-- **Every evaluation is followed by the machine**, which records what evaluation records after the
beginning of the program. -/
theorem recorded_eval (limit : Nat) (i : Interpreter) (program : Text) :
    ∃ run, Recorded (start i program) [] (fun j => ⟨j, []⟩) run ∧
      (eval limit i program).trace = .evaluating program :: run.trace ∧
      (eval limit i program).outcome = run.outcome := by
  refine ⟨steps (inner limit) (tokenize program) i, ?_, ?_, outcome_eval limit i program⟩
  · have hsteps := recorded_steps (followsBodies_inner limit) program [] (tokenize program) i
    exact hsteps.land (fun _ => rfl) (fun _ => rfl)
  · rw [eval_eq_evalWith]
    rfl

end CallStack

end ColonForth
