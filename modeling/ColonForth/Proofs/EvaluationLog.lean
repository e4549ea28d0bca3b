import ColonForth.Log.Logger
import ColonForth.Proofs.CallStack
import Mathlib.Data.List.Chain

/-!
# What the log of an evaluation says

With every record kept, the log of an evaluation has a record for each evaluation that begins, for
each definition that is stored and for each word that a failure passes on its way out.  The machine
of `CallStack` says which these are, and in which order.

* `log_accounts_for_definitions`: after a run that goes well, the definitions in the log, stored one
  after the other in the table from before the run, give the table from after it; and the programs
  in the log are the one that was run and the bodies that words were replaced by.
* `failures_logged_along_path`: if a word fails, the log ends with the words at which the calls
  stand that the failure comes out of, from the innermost to the program.  There are no such records
  otherwise.
-/

namespace ColonForth

open Log

/-- Whether a record was made by the given function. -/
def Log.Record.isBy (function : String) (r : Record) : Bool :=
  r.origin.function == Text.wide function.toList

/-- The table in which definitions are stored one after the other. -/
def Dictionary.insertAll (d : Dictionary) (entries : List (Text × Text)) : Dictionary :=
  entries.foldl (fun d entry => d.insert entry.1 entry.2) d

namespace Interpreter

/-- The log of an evaluation, every record kept. -/
def log (limit : Nat) (i : Interpreter) (program : Text) : List Record :=
  Logger.recordsOf .debug (eval limit i program).trace

lemma recordsOf_debug (trace : List Event) :
    Logger.recordsOf .debug trace = trace.map Record.ofEvent := by
  refine List.filter_eq_self.2 fun r hr => ?_
  obtain ⟨event, -, rfl⟩ := List.mem_map.1 hr
  cases event <;> rfl

/-- A word without a body changes the table by the definition that it stores, if any. -/
lemma definitions_of_act {i j : Interpreter} {word : Text} (h : i.act word = .ok j) :
    j.definitions = i.definitions.insertAll (i.stored? word).toList := by
  cases acts_of_act h with
  | skip =>
    rw [stored?]
    split
    · rfl
    · rfl
  | name hmode =>
    rw [stored?, hmode]
    rfl
  | store hmode =>
    rw [stored?, hmode]
    rfl
  | extend hmode _ hsemicolon =>
    rw [stored?, hmode]
    simp only [if_neg hsemicolon]
    rfl
  | opening hmode =>
    rw [CallStack.stored?_of_mode hmode]
    rfl
  | push hmode =>
    rw [CallStack.stored?_of_mode hmode]
    rfl
  | primitive hmode =>
    rw [CallStack.stored?_of_mode hmode]
    rfl

end Interpreter

namespace CallStack

open Interpreter

variable {c c' origin : CallStack} {visited : List CallStack} {i j : Interpreter}
  {program : Text} {calls : List Call}

/-! ## Programs and definitions in the log -/

/-- Which records a function makes along a run is decided place by place. -/
lemma filter_records {α : Type} {p : Record → Bool} {f : CallStack → Option α} {g : α → Record}
    (h : ∀ c : CallStack, (c.events.map Record.ofEvent).filter p = ((f c).map g).toList)
    (visited : List CallStack) :
    ((visited.flatMap events).map Record.ofEvent).filter p = (visited.filterMap f).map g := by
  induction visited with
  | nil => rfl
  | cons c rest ih =>
    rw [List.flatMap_cons, List.map_append, List.filter_append, h, ih, List.filterMap_cons]
    cases f c <;> rfl

/-- Evaluation makes a record where a call is opened. -/
lemma filter_isBy_eval (c : CallStack) :
    (c.events.map Record.ofEvent).filter (Record.isBy "eval") =
      (c.opening?.map fun body => Record.ofEvent (.evaluating body)).toList := by
  rw [events]
  cases c.opening? <;> cases c.storing? <;> rfl

/-- The capturing of definitions makes a record where one is stored. -/
lemma filter_isBy_capture (c : CallStack) :
    (c.events.map Record.ofEvent).filter (Record.isBy "_capture") =
      (c.storing?.map fun entry => Record.ofEvent (.defined entry.1 entry.2)).toList := by
  rw [events]
  cases c.opening? <;> cases c.storing? <;> rfl

/-- A move changes the table by the definition that it stores, if any. -/
lemma definitions_of_next (h : c.next = some (.ok c')) :
    c'.interpreter.definitions = c.interpreter.definitions.insertAll c.storing?.toList := by
  rcases next_cases h with ⟨i, text, calls, rfl, rfl⟩ |
    ⟨i, text, word, rest, calls, body, rfl, hexp, rfl⟩ |
    ⟨i, j, text, word, rest, calls, rfl, -, hact, rfl⟩
  · rfl
  · rw [storing?, stored?_of_mode (expansion?_eq_some_iff.1 hexp).2.1]
    rfl
  · exact definitions_of_act hact

lemma definitions_of_passes (h : Passes c visited c') :
    c'.interpreter.definitions =
      c.interpreter.definitions.insertAll (visited.filterMap storing?) := by
  induction h with
  | refl => rfl
  | @head c c₁ c' visited hnext _ ih =>
    rw [ih, definitions_of_next hnext, List.filterMap_cons]
    cases c.storing? <;> rfl

/-- **The log of a run that goes well accounts for its definitions.**  The machine passes the places
`visited` on the way to the end of the program.  The records of definitions are those of the
definitions that are stored there, and each says `defined`, the name, `as` and the quoted body;
stored in order in the table from before the run, later ones taking the place of earlier ones, they
give the table from after it.  The records of evaluations that begin are those of the program and of
the bodies for which calls are opened there, and each says `evaluating` and the quoted text; so they
are one more than the words that are expanded. -/
theorem log_accounts_for_definitions {limit : Nat}
    (h : (eval limit i program).outcome = .ok j) :
    ∃ visited, Passes (start i program) visited ⟨j, []⟩ ∧
      (log limit i program).filter (Record.isBy "_capture") =
        (visited.filterMap storing?).map (fun entry => Record.ofEvent (.defined entry.1 entry.2)) ∧
      ((log limit i program).filter (Record.isBy "_capture")).map Record.message =
        (visited.filterMap storing?).map (fun entry => Text.wide
          ("defined ".toList ++ entry.1 ++ " as ".toList ++ Text.quote entry.2)) ∧
      i.definitions.insertAll (visited.filterMap storing?) = j.definitions ∧
      (log limit i program).filter (Record.isBy "eval") =
        (program :: visited.filterMap opening?).map
          (fun text => Record.ofEvent (.evaluating text)) ∧
      ((log limit i program).filter (Record.isBy "eval")).map Record.message =
        (program :: visited.filterMap opening?).map
          (fun text => Text.wide ("evaluating ".toList ++ Text.quote text)) ∧
      (log limit i program).countP (Record.isBy "eval") =
        1 + visited.countP fun c => c.opening?.isSome := by
  obtain ⟨run, hrun, htrace, hout⟩ := recorded_eval limit i program
  rw [h] at hout
  cases hrun with
  | failed _ _ _ herror => exact absurd (hout.trans herror) (by simp)
  | cut _ _ herror => exact absurd (hout.trans herror) (by simp)
  | @ok visited j' hmoves hok hevents =>
    obtain rfl := Except.ok.inj (hout.trans hok)
    have hlog : log limit i program = Record.ofEvent (.evaluating program) ::
        (visited.flatMap events).map Record.ofEvent := by
      rw [log, recordsOf_debug, htrace, hevents, List.map_cons]
    have heval : (log limit i program).filter (Record.isBy "eval") =
        (program :: visited.filterMap opening?).map
          fun text => Record.ofEvent (.evaluating text) := by
      rw [hlog, List.filter_cons_of_pos rfl, filter_records filter_isBy_eval, List.map_cons]
    have hcapture : (log limit i program).filter (Record.isBy "_capture") =
        (visited.filterMap storing?).map
          fun entry => Record.ofEvent (.defined entry.1 entry.2) := by
      rw [hlog]
      exact filter_records filter_isBy_capture visited
    refine ⟨visited, hmoves, hcapture, ?_, (definitions_of_passes hmoves).symm, heval, ?_, ?_⟩
    · rw [hcapture, List.map_map]
      rfl
    · rw [heval, List.map_map]
      rfl
    · rw [List.countP_eq_length_filter, heval, List.length_map, List.length_cons,
        List.length_filterMap_eq_countP, Nat.add_comm]

/-- In the middle of the definition of `x` by `1`; the word `o` opens the definition of `y`. -/
def halfDefined : Interpreter :=
  ⟨Stack.empty, .capturing ['x'] ['1'], Dictionary.empty.insert ['o'] [':', ' ', 'y']⟩

/-- Two definitions are completed, one of them from before the run and the other opened by a body,
and two words are expanded. -/
theorem log_accounts_for_definitions_halfDefined :
    (eval 1 halfDefined "; o x ; x".toList).outcome =
        .ok ⟨Stack.empty.push 1, .evaluating,
          halfDefined.definitions.insertAll [(['x'], ['1']), (['y'], ['1'])]⟩ ∧
      ∃ visited, Passes (start halfDefined "; o x ; x".toList) visited
          ⟨⟨Stack.empty.push 1, .evaluating,
            halfDefined.definitions.insertAll [(['x'], ['1']), (['y'], ['1'])]⟩, []⟩ ∧
        (visited.filterMap storing?).map (fun entry => Text.wide
            ("defined ".toList ++ entry.1 ++ " as ".toList ++ Text.quote entry.2)) =
          [Text.wide "defined x as '1'".toList, Text.wide "defined y as '1'".toList] ∧
        ("; o x ; x".toList :: visited.filterMap opening?).map
            (fun text => Text.wide ("evaluating ".toList ++ Text.quote text)) =
          [Text.wide "evaluating '; o x ; x'".toList, Text.wide "evaluating ': y'".toList,
            Text.wide "evaluating '1'".toList] ∧
        1 + visited.countP (fun c => c.opening?.isSome) = 3 := by
  have hout : (eval 1 halfDefined "; o x ; x".toList).outcome =
      .ok ⟨Stack.empty.push 1, .evaluating,
        halfDefined.definitions.insertAll [(['x'], ['1']), (['y'], ['1'])]⟩ := by
    decide +kernel
  obtain ⟨visited, hmoves, -, hdefined, -, -, hevaluating, hcount⟩ :=
    log_accounts_for_definitions hout
  refine ⟨hout, visited, hmoves, ?_, ?_, ?_⟩
  · rw [← hdefined]
    decide +kernel
  · rw [← hevaluating]
    decide +kernel
  · rw [← hcount]
    decide +kernel

/-! ## Failures in the log -/

/-- The machine gets from `c` to `c'`. -/
def Reaches (c c' : CallStack) : Prop := ∃ visited, Passes c visited c'

lemma Reaches.next (h : Reaches origin c) (hnext : c.next = some (.ok c')) : Reaches origin c' := by
  obtain ⟨visited, hmoves⟩ := h
  exact ⟨visited ++ [c], hmoves.trans (.single hnext)⟩

/-- On the way from `origin` the call was the innermost one, and the word at which it stands was
found to be defined by `body`. -/
def Opens (origin : CallStack) (call : Call) (body : Text) : Prop :=
  ∃ k below, Reaches origin ⟨k, call :: below⟩ ∧ k.expansion? call.word = some body

/-- The calls that are under way in a run of `program`, innermost first. -/
structure Nested (origin : CallStack) (program : Text) (calls : List Call) : Prop where
  /-- The outermost call evaluates the program. -/
  outermost : ∀ call ∈ calls.getLast?, call.text = program
  /-- A call has dealt with some words at the front of its text. -/
  suffix : ∀ call ∈ calls, call.rest <:+ tokenize call.text
  /-- All but the innermost call stand at a word. -/
  standing : ∀ call ∈ calls.tail, call.rest ≠ []
  /-- Every other call evaluates the body of the word at which the one below it stands. -/
  opened : calls.IsChain fun inner outer => Opens origin outer inner.text

lemma nested_start (i : Interpreter) (program : Text) :
    Nested origin program (start i program).calls := by
  refine ⟨?_, ?_, ?_, List.IsChain.singleton _⟩
  · rintro call ⟨⟩
    rfl
  · intro call hcall
    obtain rfl := List.mem_singleton.1 hcall
    exact List.suffix_rfl
  · exact fun call hcall => absurd hcall List.not_mem_nil

/-- The innermost call may get on with its words. -/
lemma Nested.advance {text : Text} {ts ts' : List Text}
    (h : Nested origin program (⟨text, ts⟩ :: calls)) (hts : ts' <:+ ts) :
    Nested origin program (⟨text, ts'⟩ :: calls) := by
  have hsuffix := List.forall_mem_cons.1 h.suffix
  refine ⟨fun call hcall => ?_, List.forall_mem_cons.2 ⟨hts.trans hsuffix.1, hsuffix.2⟩, h.standing,
    ?_⟩
  · cases calls with
    | nil =>
      obtain rfl := Option.some.inj hcall
      exact h.outermost ⟨text, ts⟩ rfl
    | cons below more => exact h.outermost call hcall
  · -- a call that gets on still evaluates the same text
    cases calls with
    | nil => exact List.IsChain.singleton _
    | cons below more => exact List.isChain_cons_cons.2 (List.isChain_cons_cons.1 h.opened)

lemma Nested.tail {call : Call} (h : Nested origin program (call :: calls)) :
    Nested origin program calls := by
  refine ⟨fun below hbelow => h.outermost below ?_, fun below hbelow => ?_, fun below hbelow => ?_,
    h.opened.tail⟩
  · cases calls with
    | nil => exact absurd hbelow (by simp)
    | cons next more => exact hbelow
  · exact h.suffix below (List.mem_cons_of_mem _ hbelow)
  · exact h.standing below (List.mem_of_mem_tail hbelow)

lemma Nested.next (hreach : Reaches origin c) (h : Nested origin program c.calls)
    (hnext : c.next = some (.ok c')) : Nested origin program c'.calls := by
  rcases next_cases hnext with ⟨i, text, calls, rfl, rfl⟩ |
    ⟨i, text, word, rest, calls, body, rfl, hexp, rfl⟩ |
    ⟨i, j, text, word, rest, calls, rfl, -, -, rfl⟩
  · cases calls with
    | nil => exact h.tail
    | cons call more => exact h.tail.advance (List.tail_suffix call.rest)
  · refine ⟨?_, List.forall_mem_cons.2 ⟨List.suffix_rfl, h.suffix⟩, ?_,
      List.isChain_cons_cons.2 ⟨⟨i, calls, hreach, hexp⟩, h.opened⟩⟩
    · exact fun call hcall => h.outermost call hcall
    · exact List.forall_mem_cons.2 ⟨by simp, h.standing⟩
  · exact h.advance (List.suffix_cons word rest)

lemma Nested.of_passes (hreach : Reaches origin c) (h : Nested origin program c.calls)
    (hmoves : Passes c visited c') : Nested origin program c'.calls := by
  induction hmoves with
  | refl => exact h
  | head hnext _ ih => exact ih (hreach.next hnext) (h.next hreach hnext)

/-- The calls of a run, outermost first, as the way from the program to the word that the run has
come to. -/
structure Leads (origin : CallStack) (program : Text) (path : List Call) : Prop where
  /-- The first evaluates the program. -/
  outermost : ∀ call ∈ path.head?, call.text = program
  /-- Each stands at a word of the text that it evaluates. -/
  word : ∀ call ∈ path, call.word ∈ tokenize call.text
  /-- Each evaluates the text that the word of the one before it was replaced by. -/
  opened : path.IsChain fun outer inner => Opens origin outer inner.text

lemma Nested.leads (h : Nested origin program calls)
    (hrest : ∀ call ∈ calls.head?, call.rest ≠ []) :
    Leads origin program calls.reverse := by
  refine ⟨?_, fun call hcall => ?_, List.isChain_reverse.2 h.opened⟩
  · rw [List.head?_reverse]
    exact h.outermost
  · rw [List.mem_reverse] at hcall
    have hne : call.rest ≠ [] := by
      cases calls with
      | nil => exact absurd hcall List.not_mem_nil
      | cons first more =>
        rcases List.mem_cons.1 hcall with rfl | hmore
        · exact hrest call rfl
        · exact h.standing call hmore
    obtain ⟨word, more, hword⟩ := List.exists_cons_of_ne_nil hne
    refine (h.suffix call hcall).subset ?_
    rw [Call.word, hword]
    exact List.mem_cons_self

/-- What is recorded of moves are no failures. -/
lemma isBy_command_of_mem {r : Record} (visited : List CallStack)
    (h : r ∈ (Event.evaluating program :: visited.flatMap events).map Record.ofEvent) :
    r.isBy "do_cmd" = false := by
  obtain ⟨event, hevent, rfl⟩ := List.mem_map.1 h
  rcases List.mem_cons.1 hevent with rfl | hevent
  · rfl
  · obtain ⟨c, -, hc⟩ := List.mem_flatMap.1 hevent
    rw [events, List.mem_append, Option.mem_toList, Option.mem_toList, Option.map_eq_some_iff,
      Option.map_eq_some_iff] at hc
    rcases hc with ⟨body, -, rfl⟩ | ⟨entry, -, rfl⟩
    · rfl
    · rfl

/-- What is recorded of a failure on its way out of calls are failures, and nothing else is. -/
lemma filter_isBy_command (program : Text) (visited : List CallStack) (e : WordError)
    (calls : List Call) :
    ((Event.evaluating program :: (visited.flatMap events ++ failures e calls)).map
        Record.ofEvent).filter (Record.isBy "do_cmd") =
      (failures e calls).map Record.ofEvent := by
  have hothers : ((Event.evaluating program :: visited.flatMap events).map
      Record.ofEvent).filter (Record.isBy "do_cmd") = [] :=
    List.filter_eq_nil_iff.2 fun r hr => Bool.eq_false_iff.1 (isBy_command_of_mem visited hr)
  rw [← List.cons_append, List.map_append, List.filter_append, hothers, List.nil_append,
    List.filter_eq_self]
  intro r hr
  obtain ⟨event, hevent, rfl⟩ := List.mem_map.1 hr
  obtain ⟨call, -, rfl⟩ := List.mem_map.1 hevent
  rfl

/-- **Failures are logged along the path of calls.**  A run that goes well, or that ends for its
depth or for the length of a literal, logs no failure of a word.  If a word fails, the run has come
to a place at which the word of the innermost call fails itself, and the calls that are under way
lead there from the program.  The records of failures are the last ones of the log.  From the
innermost call to the outermost, each says the quoted word at which the call stands, `failed:` and
the wording of the failure; so there is one for each of the calls, except that a name that is
refused is not logged. -/
theorem failures_logged_along_path (limit : Nat) (i : Interpreter) (program : Text) :
    ((∀ e, (eval limit i program).outcome ≠ .error (.word e)) →
      ∀ r ∈ log limit i program, r.isBy "do_cmd" = false) ∧
    ∀ e, (eval limit i program).outcome = .error (.word e) →
      ∃ (c : CallStack) (others : List Record),
        Reaches (start i program) c ∧
        (∃ call ∈ c.calls.head?, c.interpreter.expansion? call.word = none ∧
          c.interpreter.act call.word = .error (.word e)) ∧
        Leads (start i program) program c.calls.reverse ∧
        log limit i program = others ++
          (if e = .invalidWord then c.calls.tail else c.calls).map
            (fun call => Record.ofEvent (.failed call.word e)) ∧
        (∀ r ∈ others, r.isBy "do_cmd" = false) ∧
        ((log limit i program).filter (Record.isBy "do_cmd")).map Record.message =
          (if e = .invalidWord then c.calls.tail else c.calls).map (fun call => Text.wide
            (Text.quote call.word ++ " failed: ".toList ++ e.message)) ∧
        (log limit i program).countP (Record.isBy "do_cmd") + (if e = .invalidWord then 1 else 0) =
          c.calls.length := by
  obtain ⟨run, hrun, htrace, hout⟩ := recorded_eval limit i program
  rw [log, recordsOf_debug, htrace, hout]
  cases hrun with
  | @ok visited j hmoves hok hevents =>
    rw [hok, hevents]
    exact ⟨fun _ r hr => isBy_command_of_mem visited hr, fun e he => absurd he (by simp)⟩
  | @cut visited c' e' hmoves hword herror hevents =>
    rw [herror, hevents]
    refine ⟨fun _ r hr => isBy_command_of_mem visited hr, ?_⟩
    rintro e he
    obtain rfl := Except.error.inj he
    exact absurd hword (by simp [Failure.isWordError])
  | @failed visited k above e' hmoves habove hnext herror hevents =>
    rw [herror, hevents]
    refine ⟨fun hnot => absurd rfl (hnot e'), ?_⟩
    rintro e he
    obtain rfl := Failure.word.inj (Except.error.inj he)
    rw [List.append_nil] at hmoves hnext
    obtain ⟨_, text, word, rest, calls, hplace, hexp, hact⟩ := exists_of_next_error hnext
    obtain ⟨rfl, rfl⟩ := CallStack.mk.inj hplace
    have hnested := (nested_start i program).of_passes ⟨[], .refl _⟩ hmoves
    refine ⟨_, (Event.evaluating program :: visited.flatMap events).map Record.ofEvent,
      ⟨visited, hmoves⟩, ⟨_, rfl, hexp, hact⟩, hnested.leads ?_, ?_,
      fun r hr => isBy_command_of_mem visited hr, ?_, ?_⟩
    · rintro call ⟨⟩
      exact List.cons_ne_nil _ _
    · rw [← List.cons_append, List.map_append, failures, List.map_map]
      rfl
    · rw [filter_isBy_command, failures, List.map_map, List.map_map]
      rfl
    · rw [List.countP_eq_length_filter, filter_isBy_command, List.length_map, failures,
        List.length_map, passed]
      split
      · simp
      · simp

/-- The word `a` is defined by `b`, and `b` by the opening of a definition of `7`. -/
def numberNamed : Interpreter :=
  ⟨Stack.empty, .evaluating, (Dictionary.empty.insert ['b'] [':', ' ', '7']).insert ['a'] ['b']⟩

/-- The name `7` is refused inside three calls, and the words of two of them are logged. -/
theorem failures_logged_along_path_numberNamed :
    (eval 2 numberNamed ['1', ' ', 'a']).outcome = .error (.word .invalidWord) ∧
      ((log 2 numberNamed ['1', ' ', 'a']).filter (Record.isBy "do_cmd")).map Record.message =
        [Text.wide "'b' failed: Invalid word".toList, Text.wide "'a' failed: Invalid word".toList] ∧
      ∃ c, Reaches (start numberNamed ['1', ' ', 'a']) c ∧
        Leads (start numberNamed ['1', ' ', 'a']) ['1', ' ', 'a'] c.calls.reverse ∧
        c.calls.tail.map (fun call => Text.wide
            (Text.quote call.word ++ " failed: ".toList ++ WordError.invalidWord.message)) =
          [Text.wide "'b' failed: Invalid word".toList,
            Text.wide "'a' failed: Invalid word".toList] ∧
        c.calls.length = 3 := by
  have hout : (eval 2 numberNamed ['1', ' ', 'a']).outcome = .error (.word .invalidWord) := by
    decide +kernel
  have hlog : ((log 2 numberNamed ['1', ' ', 'a']).filter (Record.isBy "do_cmd")).map
      Record.message = [Text.wide "'b' failed: Invalid word".toList,
        Text.wide "'a' failed: Invalid word".toList] := by
    decide +kernel
  obtain ⟨c, -, hreach, -, hleads, -, -, hmessages, hcount⟩ :=
    (failures_logged_along_path 2 numberNamed ['1', ' ', 'a']).2 _ hout
  refine ⟨hout, hlog, c, hreach, hleads, hmessages.symm.trans hlog, ?_⟩
  rw [← hcount, List.countP_eq_length_filter, ← List.length_map Record.message, hlog]
  rfl

end CallStack

end ColonForth
