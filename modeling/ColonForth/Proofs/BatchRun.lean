import ColonForth.Host.Batch
import ColonForth.Proofs.Lines
import ColonForth.Proofs.Turns

/-!
# Batch runs

A batch run deals with the turns of its lines one after the other (`runLines_eq`): it reports a
failure, goes on, and prints the stack at the end.  All of this holds of any lines, whatever
characters there are in them; a program file is cut into its lines first.

* `report` is what it prints about one line, `GetsThrough` says when it comes to its last line, and
  `conclude_of_isWritable` what it has printed by then.
* A failing line leaves no trace: without the failing lines the run is given the same interpreters
  (`getsThrough_goodLinesOf`, `afterAll_goodLinesOf`).  So it prints the same stack at its end and
  reports nothing.  All this together is `run_recovers`.
* A fault that ends the run is announced if it arises while the lines are run (`conclude_of_fault`).
  The last stack is written when that is over, and a value in it that is too long to be written ends
  the run without an announcement (`conclude_of_not_isWritable`).  These are all the faults there
  are (`fault_announced_unless_unwritable`).
-/

namespace ColonForth

namespace Host

lemma stackText_of_isWritable {i : Interpreter} (h : i.IsWritable) :
    stackText i = .done i.stackWritten := by
  rw [stackText, Interpreter.formatStack_of_isWritable h]
  rfl

lemma stackText_of_not_isWritable {i : Interpreter} (h : ¬ i.IsWritable) :
    stackText i = .fail (.evaluation (.limit .valueTooLong)) := by
  rw [stackText, Interpreter.formatStack_of_not_isWritable h]
  rfl

namespace Batch

/-! ## One line -/

/-- What a run says about how a line ended. -/
def complain (file : Text) (number : Nat) : Except Failure Interpreter → Console Unit
  | .ok _ => .done ()
  | .error e => display (.failedAt file number e)

/-- What a run does about one line. -/
def account (file : Text) (debug : Bool) (t : Turn) : Console Unit :=
  (attempt t.limit t.before t.line).andThen fun result =>
    (complain file t.number result).andThen fun _ =>
      if debug then (stackText t.after).andThen fun text => display (.stackAt t.number text)
      else .done ()

/-- What a run prints about one line: why it failed, if it did, and the stack, if that is asked
for. -/
def report (file : Text) (debug : Bool) (t : Turn) : List Shown :=
  (t.failure?.map (Shown.failedAt file t.number)).toList ++
    if debug then [.stackAt t.number t.after.stackWritten] else []

variable {limit : Nat} {file : Text} {debug : Bool} {t : Turn}

/-- What has become of a run after a line. -/
def Progress.next (p : Progress) (t : Turn) : Progress := ⟨t.after, p.failed || t.failure?.isSome⟩

/-- A line is accounted for, and then the run goes on. -/
lemma runLine_eq (number : Nat) (line : Text) (p : Progress) :
    runLine limit file debug number line p =
      (account file debug ⟨limit, number, line, p.interpreter⟩).andThen fun _ =>
        .done (p.next ⟨limit, number, line, p.interpreter⟩) := by
  have heval : evalLine limit file number line p =
      (attempt limit p.interpreter line).andThen fun result =>
        (complain file number result).andThen fun _ =>
          .done (p.next ⟨limit, number, line, p.interpreter⟩) := by
    refine Traced.andThen_congr fun result hresult => ?_
    rcases Turn.of_outcome_attempt (t := ⟨limit, number, line, p.interpreter⟩) hresult with
      ⟨rfl, hfail⟩ | ⟨e, rfl, hfail, -⟩
    · rw [Progress.next, hfail, Option.isSome_none, Bool.or_false]
      rfl
    · rw [Progress.next, hfail, Option.isSome_some, Bool.or_true, Turn.after_of_failure hfail]
      rfl
  have hrun : runLine limit file debug number line p =
      (evalLine limit file number line p).andThen fun q =>
        if debug then (stackText q.interpreter).andThen fun text =>
          (display (.stackAt number text)).andThen fun _ => .done q
        else .done q := by
    cases debug <;> rfl
  rw [hrun, heval, account]
  simp only [Traced.andThen_assoc, Traced.andThen_done]
  refine Traced.andThen_congr fun result _ => Traced.andThen_congr fun _ _ => ?_
  cases debug with
  | false => rfl
  | true => exact (Traced.andThen_assoc _ _ _).symm

/-- A line after which the run goes on has been reported. -/
lemma account_of_passes (hpasses : t.Passes) (hdebug : debug = true → t.after.IsWritable) :
    account file debug t = ⟨t.logs ++ (report file debug t).map .shown, .ok ()⟩ := by
  have hstack : (if debug then (stackText t.after).andThen fun text =>
      display (.stackAt t.number text) else .done () : Console Unit) =
      ⟨(if debug then [.stackAt t.number t.after.stackWritten] else []).map .shown, .ok ()⟩ := by
    cases debug with
    | false => rfl
    | true =>
      rw [if_pos rfl, if_pos rfl, stackText_of_isWritable (hdebug rfl)]
      rfl
  rw [account, report, hstack]
  cases hfail : t.failure? with
  | none =>
    rw [Turn.attempt_of_ok hfail]
    rfl
  | some e =>
    rw [Turn.attempt_of_recoverable hfail (hpasses e hfail)]
    rfl

/-- The run goes on after a line unless it fails beyond recovery, or the stack is to be shown and
cannot be written. -/
lemma outcome_account_eq_ok_iff :
    (account file debug t).outcome = .ok () ↔
      t.Passes ∧ (debug = true → t.after.IsWritable) := by
  constructor
  · intro h
    obtain ⟨result, hresult, h⟩ := Traced.exists_of_outcome_andThen h
    refine ⟨Turn.passes_of_outcome_attempt hresult, ?_⟩
    rintro rfl
    obtain ⟨_, -, h⟩ := Traced.exists_of_outcome_andThen h
    by_contra hlong
    rw [if_pos rfl, stackText_of_not_isWritable hlong] at h
    exact absurd h (by simp)
  · rintro ⟨hpasses, hdebug⟩
    rw [account_of_passes hpasses hdebug]

/-! ## All lines -/

/-- **The lines are accounted for turn by turn.**  They leave what they lead to by themselves, and
whether some line has failed. -/
theorem runLines_eq (first : Nat) (lines : List Text) (p : Progress) :
    runLines limit file debug first lines p =
      (Traced.sequence
        ((turnsFrom limit first p.interpreter lines).map (account file debug))).andThen
        fun _ => .done ⟨lines.foldl (Interpreter.attempt limit) p.interpreter,
          p.failed || (turnsFrom limit first p.interpreter lines).any
            fun t => t.failure?.isSome⟩ := by
  induction lines generalizing first p with
  | nil =>
    rw [turnsFrom_nil, List.any_nil, Bool.or_false]
    rfl
  | cons line rest ih =>
    have hcons : runLines limit file debug first (line :: rest) p =
        (runLine limit file debug first line p).andThen
          (runLines limit file debug (first + 1) rest) := rfl
    rw [hcons, runLine_eq, turnsFrom_cons, List.map_cons, Traced.sequence, List.any_cons,
      List.foldl_cons, ← Bool.or_assoc]
    simp only [Traced.andThen_assoc, Traced.andThen_done]
    refine Traced.andThen_congr fun _ _ => ?_
    rw [ih]
    rfl

/-- The turns of a program. -/
def turnsOf (limit : Nat) (lines : List Text) : List Turn := turnsFrom limit 1 .new lines

/-- The interpreter that the lines of a program lead to. -/
def afterAll (limit : Nat) (lines : List Text) : Interpreter :=
  lines.foldl (Interpreter.attempt limit) .new

/-- A run gets through a program: no line fails beyond recovery, and the stack can be written after
each line, if that is asked for. -/
def GetsThrough (limit : Nat) (debug : Bool) (lines : List Text) : Prop :=
  ∀ turn ∈ turnsOf limit lines, turn.Passes ∧ (debug = true → turn.after.IsWritable)

variable {source : Source} {lines : List Text}

/-- Where the stack is not shown after each line, it need not be writable there. -/
lemma getsThrough_of_passes (h : ∀ turn ∈ turnsOf limit lines, turn.Passes) :
    GetsThrough limit false lines :=
  fun turn hturn => ⟨h turn hturn, fun hdebug => absurd hdebug Bool.false_ne_true⟩

/-- The messages about the lines of a program. -/
def reports (limit : Nat) (file : Text) (debug : Bool) (lines : List Text) : List Shown :=
  (turnsOf limit lines).flatMap (report file debug)

/-- What a run has done and printed when it has got through its lines. -/
lemma runProgram_of_getsThrough (file : Text) (h : GetsThrough limit debug lines) :
    ∃ trace, runProgram limit file debug lines = ⟨trace, .ok ⟨afterAll limit lines,
        (turnsOf limit lines).any fun turn => turn.failure?.isSome⟩⟩ ∧
      shownIn trace = reports limit file debug lines := by
  have hsequence : Traced.sequence ((turnsOf limit lines).map (account file debug)) =
      ⟨(turnsOf limit lines).flatMap fun turn => turn.logs ++ (report file debug turn).map .shown,
        .ok ()⟩ :=
    Traced.sequence_map_of_eq fun turn hturn =>
      account_of_passes (h turn hturn).1 (h turn hturn).2
  refine ⟨(turnsOf limit lines).flatMap fun turn =>
    turn.logs ++ (report file debug turn).map .shown, ?_, ?_⟩
  · rw [runProgram, runLines_eq, ← turnsOf, hsequence]
    simp [Traced.andThen, Traced.done, afterAll]
  · simp [shownIn_flatMap, reports]

lemma getsThrough_of_outcome {p : Progress}
    (h : (runProgram limit file debug lines).outcome = .ok p) : GetsThrough limit debug lines := by
  intro turn hturn
  rw [runProgram, runLines_eq] at h
  obtain ⟨_, hsequence, -⟩ := Traced.exists_of_outcome_andThen h
  have haccount := Traced.outcome_sequence_map_eq_ok_iff.1 hsequence turn hturn
  exact outcome_account_eq_ok_iff.1 haccount

/-- What is no text ends the run. -/
lemma exists_text_of_outcome {p : Progress}
    (h : (runSource limit file debug source).outcome = .ok p) : ∃ text, source = .text text := by
  cases source with
  | text text => exact ⟨text, rfl⟩
  | undecodable before =>
    obtain ⟨_, -, h⟩ := Traced.exists_of_outcome_andThen h
    exact absurd h (by simp)

/-! ## The whole run -/

lemma conclude_eq (x : Console Progress) :
    conclude x = (x.onFailure fun _ => [.shown .internalError]).andThen fun p =>
      (stackText p.interpreter).andThen fun t =>
        (display (.finalStack t)).andThen fun _ => .done (if p.failed then 1 else 0) := rfl

/-- A fault that arises while the lines are run is announced. -/
lemma conclude_of_fault {x : Console Progress} {fault : Fault} (h : x.outcome = .error fault) :
    conclude x = ⟨x.trace ++ [.shown .internalError], .error fault⟩ := by
  rw [conclude_eq, Traced.onFailure_of_error h]
  rfl

/-- A run that gets through its lines prints the stack that it has come to. -/
lemma conclude_of_isWritable (file : Text) (h : GetsThrough limit debug lines)
    (hlast : (afterAll limit lines).IsWritable) :
    shownIn (conclude (runProgram limit file debug lines)).trace =
        reports limit file debug lines ++ [.finalStack (afterAll limit lines).stackWritten] ∧
      (conclude (runProgram limit file debug lines)).outcome =
        .ok (if (turnsOf limit lines).any fun turn => turn.failure?.isSome then 1 else 0) := by
  obtain ⟨trace, hprogram, hshown⟩ := runProgram_of_getsThrough file h
  rw [conclude_eq, hprogram, Traced.onFailure_of_ok rfl, ← hshown]
  simp [Traced.andThen, stackText_of_isWritable hlast, display, Traced.done, Traced.note, shownIn]

/-- If that stack cannot be written, the run ends in a fault that is not announced. -/
lemma conclude_of_not_isWritable (file : Text) (h : GetsThrough limit debug lines)
    (hlast : ¬ (afterAll limit lines).IsWritable) :
    shownIn (conclude (runProgram limit file debug lines)).trace =
        reports limit file debug lines ∧
      (conclude (runProgram limit file debug lines)).outcome =
        .error (.evaluation (.limit .valueTooLong)) := by
  obtain ⟨trace, hprogram, hshown⟩ := runProgram_of_getsThrough file h
  rw [conclude_eq, hprogram, Traced.onFailure_of_ok rfl, ← hshown]
  simp [Traced.andThen, stackText_of_not_isWritable hlast, Traced.fail]

/-- How a run comes to its end without a fault. -/
lemma getsThrough_of_outcome_conclude {status : Nat}
    (h : (conclude (runProgram limit file debug lines)).outcome = .ok status) :
    GetsThrough limit debug lines ∧ (afterAll limit lines).IsWritable := by
  cases hprogram : (runProgram limit file debug lines).outcome with
  | error fault =>
    rw [conclude_of_fault hprogram] at h
    exact absurd h (by simp)
  | ok p =>
    have hthrough := getsThrough_of_outcome hprogram
    refine ⟨hthrough, ?_⟩
    by_contra hlast
    rw [(conclude_of_not_isWritable file hthrough hlast).2] at h
    exact absurd h (by simp)

lemma exists_text_of_outcome_run {status : Nat}
    (h : (run limit file debug source).outcome = .ok status) : ∃ text, source = .text text := by
  cases hsource : (runSource limit file debug source).outcome with
  | error fault =>
    rw [run, conclude_of_fault hsource] at h
    exact absurd h (by simp)
  | ok p => exact exists_text_of_outcome hsource

/-- The last stack has been shown already if the stack is shown after every line. -/
lemma isWritable_afterAll (h : GetsThrough limit true lines) : (afterAll limit lines).IsWritable :=
  isWritable_foldl Interpreter.isWritable_new fun turn hturn _ => (h turn hturn).2 rfl

/-! ## Recovery -/

/-- The lines of a program that do not fail. -/
def goodLinesOf (limit : Nat) (lines : List Text) : List Text := goodLines limit 1 .new lines

lemma programLines_goodLinesOf (limit : Nat) (text : Text) :
    Text.programLines (Text.ofLines (goodLinesOf limit (Text.programLines text))) =
      goodLinesOf limit (Text.programLines text) :=
  Text.programLines_ofLines fun _ hline _ hc =>
    Text.ne_of_mem_programLines (mem_of_mem_goodLines hline) hc

/-- Without its failing lines a program leads to the same interpreter. -/
lemma afterAll_goodLinesOf (limit : Nat) (lines : List Text) :
    afterAll limit (goodLinesOf limit lines) = afterAll limit lines :=
  foldl_goodLines limit 1 .new lines

lemma failure?_of_mem_goodLinesOf {turn : Turn}
    (h : turn ∈ turnsOf limit (goodLinesOf limit lines)) : turn.failure? = none :=
  (of_mem_turnsFrom_goodLines h).1

lemma getsThrough_goodLinesOf (hall : GetsThrough limit debug lines) :
    GetsThrough limit debug (goodLinesOf limit lines) := by
  intro turn hturn
  refine ⟨fun e he => ?_, fun hdebug => ?_⟩
  · rw [failure?_of_mem_goodLinesOf hturn] at he
    exact absurd he (by simp)
  · obtain ⟨-, other, hother, hafter⟩ := of_mem_turnsFrom_goodLines hturn
    rw [← hafter]
    exact (hall other hother).2 hdebug

/-- The text that a run prints about one line. -/
def reportText (file : Text) (debug : Bool) (t : Turn) : Text :=
  (match t.failure? with
    | some e => "Error in ".toList ++ file ++ ", line ".toList ++ Decimal.ofNat t.number
      ++ ": ".toList ++ e.message ++ ['\n']
    | none => []) ++
  if debug then Decimal.ofNat t.number ++ ": ".toList ++ t.after.stackWritten ++ ['\n'] else []

lemma flatMap_text_report (file : Text) (debug : Bool) (t : Turn) :
    (report file debug t).flatMap Shown.text = reportText file debug t := by
  rw [report, reportText, List.flatMap_append]
  congr 1
  · cases t.failure? <;> simp [Shown.text, Shown.asLine]
  · cases debug <;> simp [Shown.text, Shown.asLine]

lemma flatMap_text_reports (limit : Nat) (file : Text) (debug : Bool) (lines : List Text) :
    (reports limit file debug lines).flatMap Shown.text =
      (turnsOf limit lines).flatMap (reportText file debug) := by
  rw [reports, List.flatMap_assoc]
  simp only [flatMap_text_report]

/-- The text that a run prints which gets through its lines. -/
lemma printed_conclude (file : Text) (h : GetsThrough limit debug lines)
    (hlast : (afterAll limit lines).IsWritable) :
    printed (conclude (runProgram limit file debug lines)).trace =
      (turnsOf limit lines).flatMap (reportText file debug) ++
        (afterAll limit lines).stackWritten ++ ['\n'] := by
  rw [printed, (conclude_of_isWritable file h hlast).1, List.flatMap_append, flatMap_text_reports]
  simp [Shown.text, Shown.asLine]

lemma failedAt_not_mem_reports (h : ∀ turn ∈ turnsOf limit lines, turn.failure? = none) (k : Nat)
    (e : Failure) : Shown.failedAt file k e ∉ reports limit file debug lines := by
  intro hmem
  obtain ⟨turn, hturn, hmem⟩ := List.mem_flatMap.1 hmem
  rw [report, h turn hturn] at hmem
  cases debug <;> simp at hmem

/-- Run without the lines that failed, a program reports nothing and prints the same last stack. -/
lemma conclude_goodLinesOf (file : Text) (h : GetsThrough limit debug lines)
    (hlast : (afterAll limit lines).IsWritable) :
    shownIn (conclude (runProgram limit file debug (goodLinesOf limit lines))).trace =
        reports limit file debug (goodLinesOf limit lines) ++
          [.finalStack (afterAll limit lines).stackWritten] ∧
      (conclude (runProgram limit file debug (goodLinesOf limit lines))).outcome = .ok 0 ∧
      printed (conclude (runProgram limit file debug (goodLinesOf limit lines))).trace =
        (turnsOf limit (goodLinesOf limit lines)).flatMap (reportText file debug) ++
          (afterAll limit lines).stackWritten ++ ['\n'] := by
  have hgood := getsThrough_goodLinesOf h
  rw [← afterAll_goodLinesOf] at hlast ⊢
  obtain ⟨hshown, hstatus⟩ := conclude_of_isWritable file hgood hlast
  refine ⟨hshown, ?_, printed_conclude file hgood hlast⟩
  have hnone : ∀ turn ∈ turnsOf limit (goodLinesOf limit lines), turn.failure? = none :=
    fun turn hturn => failure?_of_mem_goodLinesOf hturn
  rw [hstatus]
  simpa using hnone

/-- **Batch mode is a recovering fold**, for any lines and any number of levels to spare.  If a run
ends without a fault, it prints for each line, in order, why it failed, exactly if its evaluation
failed on what the earlier lines have left, and then, if it is asked for, the stack after the line;
and finally it prints the last stack.  Its exit status is 1 exactly if some line failed.  Run
without the lines that failed, it reports nothing and prints the same last stack.

A program file is run as the lines that it is cut into, whatever their ends; and there is a file of
the lines that did not fail. -/
theorem run_recovers (limit : Nat) (file : Text) (debug : Bool) :
    (∀ lines status, (conclude (runProgram limit file debug lines)).outcome = .ok status →
      (∀ turn ∈ turnsOf limit lines, ∀ e, turn.failure? = some e → e.isRecoverable = true) ∧
      (debug = true → ∀ turn ∈ turnsOf limit lines,
        turn.after.formatStack = .ok turn.after.stackWritten) ∧
      (afterAll limit lines).formatStack = .ok (afterAll limit lines).stackWritten ∧
      printed (conclude (runProgram limit file debug lines)).trace =
        (turnsOf limit lines).flatMap (reportText file debug) ++
          (afterAll limit lines).stackWritten ++ ['\n'] ∧
      (status = 1 ↔ ∃ turn ∈ turnsOf limit lines, turn.failure? ≠ none) ∧
      (status = 0 ↔ ∀ turn ∈ turnsOf limit lines, turn.failure? = none) ∧
      (conclude (runProgram limit file debug (goodLinesOf limit lines))).outcome = .ok 0 ∧
      (∀ k e, Shown.failedAt file k e ∉
        shownIn (conclude (runProgram limit file debug (goodLinesOf limit lines))).trace) ∧
      (shownIn (conclude (runProgram limit file debug (goodLinesOf limit lines))).trace).getLast? =
        some (.finalStack (afterAll limit lines).stackWritten) ∧
      printed (conclude (runProgram limit file debug (goodLinesOf limit lines))).trace =
        (turnsOf limit (goodLinesOf limit lines)).flatMap (reportText file debug) ++
          (afterAll limit lines).stackWritten ++ ['\n']) ∧
    ∀ source status, (run limit file debug source).outcome = .ok status →
      ∃ text, source = .text text ∧
        run limit file debug source =
          conclude (runProgram limit file debug (Text.programLines text)) ∧
        (∃ text', Text.programLines text' = goodLinesOf limit (Text.programLines text)) ∧
        ∀ text', Text.programLines text' = goodLinesOf limit (Text.programLines text) →
          run limit file debug (.text text') = conclude
            (runProgram limit file debug (goodLinesOf limit (Text.programLines text))) := by
  constructor
  · intro lines status h
    obtain ⟨hthrough, hlast⟩ := getsThrough_of_outcome_conclude h
    obtain ⟨hshown, hstatus, hprinted⟩ := conclude_goodLinesOf file hthrough hlast
    have hone : (if (turnsOf limit lines).any fun turn => turn.failure?.isSome then 1 else 0) =
        status := Except.ok.inj ((conclude_of_isWritable file hthrough hlast).2.symm.trans h)
    refine ⟨fun turn hturn => (hthrough turn hturn).1, ?_,
      Interpreter.formatStack_of_isWritable hlast, printed_conclude file hthrough hlast, ?_, ?_,
      hstatus, fun k e hmem => ?_, ?_, hprinted⟩
    · rintro rfl turn hturn
      exact Interpreter.formatStack_of_isWritable ((hthrough turn hturn).2 rfl)
    · rw [← hone]
      simp [Option.isSome_iff_ne_none]
    · rw [← hone]
      simp
    · rw [hshown, List.mem_append] at hmem
      rcases hmem with hmem | hmem
      · exact failedAt_not_mem_reports (fun turn => failure?_of_mem_goodLinesOf) k e hmem
      · exact absurd hmem (by simp)
    · rw [hshown]
      simp
  · intro source status h
    obtain ⟨text, rfl⟩ := exists_text_of_outcome_run h
    refine ⟨text, rfl, rfl, ⟨_, programLines_goodLinesOf limit text⟩, fun text' htext' => ?_⟩
    rw [run, runSource, htext']

/-- Three lines, of which the second fails after it has stored a definition. -/
def threeLines : Text := ['1', '\n', ':', ' ', 'x', ' ', ';', ' ', '+', '\n', '2']

/-- The failing line is reported and leaves nothing behind; without it nothing is reported. -/
theorem run_recovers_threeLines :
    (run 0 ['f'] true (.text threeLines)).outcome = .ok 1 ∧
      printed (run 0 ['f'] true (.text threeLines)).trace =
        "1: 1\nError in f, line 2: Stack underflow\n2: 1\n3: 1 2\n1 2\n".toList ∧
      (run 0 ['f'] true (.text ['1', '\n', '2'])).outcome = .ok 0 := by
  have hrun : (run 0 ['f'] true (.text threeLines)).outcome = .ok 1 := by decide +kernel
  obtain ⟨hlines, hfile⟩ := run_recovers 0 ['f'] true
  obtain ⟨text, htext, hprogram, -, hgood⟩ := hfile _ _ hrun
  obtain rfl := Source.text.inj htext
  obtain ⟨-, -, -, hprinted, -, -, houtcome, -⟩ := hlines _ _ hrun
  rw [hgood ['1', '\n', '2'] (by decide +kernel)]
  refine ⟨hrun, ?_, houtcome⟩
  rw [hprogram, hprinted]
  decide +kernel

/-! ## Faults -/

/-- A run gets through its file without showing the stack, and is left with a value that is too
long to be written. -/
def EndsUnwritable (limit : Nat) (debug : Bool) (source : Source) : Prop :=
  debug = false ∧ ∃ text, source = .text text ∧
    (∀ turn ∈ turnsOf limit (Text.programLines text), turn.Passes) ∧
    ¬ (afterAll limit (Text.programLines text)).IsWritable

lemma endsUnwritable_of_not_isWritable {text : Text}
    (h : GetsThrough limit debug (Text.programLines text))
    (hlast : ¬ (afterAll limit (Text.programLines text)).IsWritable) :
    EndsUnwritable limit debug (.text text) := by
  cases debug with
  | true => exact absurd (isWritable_afterAll h) hlast
  | false => exact ⟨rfl, text, rfl, fun turn hturn => (h turn hturn).1, hlast⟩

lemma internalError_not_mem_reports : Shown.internalError ∉ reports limit file debug lines := by
  intro hmem
  obtain ⟨turn, -, hmem⟩ := List.mem_flatMap.1 hmem
  rw [report] at hmem
  cases turn.failure? <;> cases debug <;> simp at hmem

/-- **Which faults are announced**, for any number of levels to spare.  A fault that ends a run is
announced in two lines, and nothing is printed after them, unless the run has got through its file
and only the last stack cannot be written.  In that case the run does end in a fault, and it is not
announced: nothing is printed but the error lines of the lines that failed. -/
theorem fault_announced_unless_unwritable (limit : Nat) (file : Text) (debug : Bool)
    (source : Source) :
    (∀ fault, (run limit file debug source).outcome = .error fault →
      ¬ EndsUnwritable limit debug source →
        ∃ before, shownIn (run limit file debug source).trace = before ++ [.internalError] ∧
          printed (run limit file debug source).trace = before.flatMap Shown.text ++
            ("An internal error has occurred.\n".toList ++
              "This is a bug in the Forth interpreter.\n".toList)) ∧
    (EndsUnwritable limit debug source →
      (run limit file debug source).outcome = .error (.evaluation (.limit .valueTooLong)) ∧
      Shown.internalError ∉ shownIn (run limit file debug source).trace ∧
      ∃ text, source = .text text ∧ printed (run limit file debug source).trace =
        (turnsOf limit (Text.programLines text)).flatMap (reportText file false)) := by
  constructor
  · intro fault h hends
    cases hsource : (runSource limit file debug source).outcome with
    | error fault' =>
      have hshown : shownIn (run limit file debug source).trace =
          shownIn (runSource limit file debug source).trace ++ [.internalError] := by
        rw [run, conclude_of_fault hsource, shownIn_append]
        rfl
      refine ⟨_, hshown, ?_⟩
      rw [printed, hshown, List.flatMap_append]
      rfl
    | ok p =>
      -- the lines have been run, so only the last stack is left to fail
      obtain ⟨text, rfl⟩ := exists_text_of_outcome hsource
      have hthrough := getsThrough_of_outcome hsource
      by_cases hlast : (afterAll limit (Text.programLines text)).IsWritable
      · have hok := (conclude_of_isWritable file hthrough hlast).2
        exact absurd (hok.symm.trans h) (by simp)
      · exact absurd (endsUnwritable_of_not_isWritable hthrough hlast) hends
  · rintro ⟨rfl, text, rfl, hpasses, hlast⟩
    obtain ⟨hshown, houtcome⟩ :=
      conclude_of_not_isWritable file (getsThrough_of_passes hpasses) hlast
    refine ⟨houtcome, ?_, text, rfl, ?_⟩
    · rw [run, runSource, hshown]
      exact internalError_not_mem_reports
    · rw [run, runSource, printed, hshown, flatMap_text_reports]

/-- Ten, squared thirteen times. -/
def squaredTen : Text := '1' :: '0' :: (List.replicate 13 [' ', 'd', 'u', 'p', ' ', '*']).flatten

/-- The same fault is announced if the stack is to be shown after every line. -/
theorem fault_announced_squaredTen :
    (run 0 ['f'] true (.text squaredTen)).outcome = .error (.evaluation (.limit .valueTooLong)) ∧
      ∃ before, shownIn (run 0 ['f'] true (.text squaredTen)).trace = before ++ [.internalError] ∧
        printed (run 0 ['f'] true (.text squaredTen)).trace = before.flatMap Shown.text ++
          ("An internal error has occurred.\n".toList ++
            "This is a bug in the Forth interpreter.\n".toList) := by
  have hfault : (run 0 ['f'] true (.text squaredTen)).outcome =
      .error (.evaluation (.limit .valueTooLong)) := by decide +kernel
  have hshown : ¬ EndsUnwritable 0 true (.text squaredTen) := fun h => absurd h.1 (by simp)
  exact ⟨hfault, (fault_announced_unless_unwritable 0 ['f'] true _).1 _ hfault hshown⟩

/-- A value that is too long to be written ends the run, and nothing at all is printed. -/
theorem unwritable_stack_unannounced :
    ∃ limit text fault, (run limit ['f'] false (.text text)).outcome = .error fault ∧
      printed (run limit ['f'] false (.text text)).trace = [] :=
  ⟨Interpreter.expansionLimit, squaredTen, .evaluation (.limit .valueTooLong), by decide +kernel,
    by decide +kernel⟩

end Batch

end Host

end ColonForth
