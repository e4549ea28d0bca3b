import ColonForth.Proofs.BatchRun
import ColonForth.Proofs.Interruption

/-!
# Three ways to run the same lines

The same lines can be the startup file of a session, its input, or a batch program.  The three
hosts read them, recover from a failing line and print what they have to say in loops of their own,
but all of them take the same turns:

* `runStartupLines_eq` and `answer_eq`: the two loops of a session deal with the turns one after
  the other;
* `settled` and `replied`: what a session shows about a turn, in its startup file and in its input;
* `errorMessages`: what a host prints about failing lines, without what it prints around it.  It is
  determined by the turns (`failureMessages`).

So all three come to the same interpreter and print the same error messages (`hosts_agree`).
-/

namespace ColonForth.Host

/-! ## Error messages -/

/-- The wording of the failure that a message is about, if it is about one. -/
def Shown.errorMessage? : Shown → Option Text
  | .failed e => some e.message
  | .failedAt _ _ e => some e.message
  | _ => none

/-- The error messages that are printed, in order, without the line numbers. -/
def errorMessages (trace : List Emission) : List Text :=
  (shownIn trace).filterMap Shown.errorMessage?

/-- The wording of the failure of a turn, if it fails. -/
def Turn.messages (t : Turn) : List Text := (t.failure?.map Failure.message).toList

/-- The wordings of the failures of some turns. -/
def failureMessages (turns : List Turn) : List Text := turns.flatMap Turn.messages

/-- A host that shows the failure of each turn, and no other failure before and after the turns,
prints the error messages of the turns. -/
lemma errorMessages_of_shownIn {trace : List Emission} {turns : List Turn} {f : Turn → List Shown}
    {before behind : List Shown} (hshown : shownIn trace = before ++ turns.flatMap f ++ behind)
    (hturn : ∀ t, (f t).filterMap Shown.errorMessage? = t.messages)
    (hbefore : before.filterMap Shown.errorMessage? = [])
    (hbehind : behind.filterMap Shown.errorMessage? = []) :
    errorMessages trace = failureMessages turns := by
  rw [errorMessages, hshown, List.filterMap_append, List.filterMap_append, hbefore, hbehind,
    List.nil_append, List.append_nil, List.filterMap_flatMap, failureMessages]
  exact List.flatMap_congr fun t _ => hturn t

/-- A host's computation goes well, and shows the given messages. -/
def Shows (x : Console Unit) (shown : List Shown) : Prop :=
  ∃ trace, x = ⟨trace, .ok ()⟩ ∧ shownIn trace = shown

/-- A host that goes on after every turn shows what it has to show about them in order. -/
lemma shows_sequence {turns : List Turn} {f : Turn → Console Unit} {g : Turn → List Shown}
    (h : ∀ t ∈ turns, Shows (f t) (g t)) :
    Shows (Traced.sequence (turns.map f)) (turns.flatMap g) := by
  induction turns with
  | nil => exact ⟨[], rfl, rfl⟩
  | cons t rest ih =>
    rw [List.forall_mem_cons] at h
    obtain ⟨⟨trace, htrace, hshown⟩, hrest⟩ := h
    obtain ⟨traces, htraces, hall⟩ := ih hrest
    refine ⟨trace ++ traces, ?_, ?_⟩
    · rw [List.map_cons, Traced.sequence, htrace, htraces]
      rfl
    · rw [shownIn_append, hshown, hall, List.flatMap_cons]

namespace Repl

variable {limit : Nat} {debug : Bool} {t : Turn} {i j : Interpreter} {lines : List Text}

/-! ## The lines of a startup file -/

/-- What a session says about how a line of its startup file ended. -/
def complain (file : Text) (number : Nat) : Except Failure Interpreter → Console Unit
  | .ok _ => .done ()
  | .error e => (log (Log.Record.ofStartupFailure file number e)).andThen fun _ =>
      display (.failed e)

/-- What a session does about one line of its startup file. -/
def settle (file : Text) (t : Turn) : Console Unit :=
  (attempt t.limit t.before t.line).andThen (complain file t.number)

/-- What a session shows about one line of its startup file. -/
def settled (t : Turn) : List Shown := (t.failure?.map Shown.failed).toList

/-- **The startup file is dealt with turn by turn.** -/
theorem runStartupLines_eq (limit : Nat) (file : Text) (first : Nat) (lines : List Text)
    (i : Interpreter) :
    runStartupLines limit file first lines i =
      (Traced.sequence ((turnsFrom limit first i lines).map (settle file))).andThen fun _ =>
        .done (lines.foldl (Interpreter.attempt limit) i) := by
  induction lines generalizing first i with
  | nil => rfl
  | cons line rest ih =>
    rw [turnsFrom_cons, List.map_cons, Traced.sequence, settle, Traced.andThen_assoc,
      Traced.andThen_assoc]
    refine Traced.andThen_congr fun result hresult => ?_
    rcases Turn.of_outcome_attempt (t := ⟨limit, first, line, i⟩) hresult with
      ⟨rfl, -⟩ | ⟨e, rfl, hfail, -⟩
    · exact ih (first + 1) _
    · have hafter : i.attempt limit line = i := Turn.after_of_failure hfail
      show (log _).andThen (fun _ => (display _).andThen fun _ =>
        runStartupLines limit file (first + 1) rest i) = _
      rw [ih, complain, Traced.andThen_assoc, Turn.after_of_failure hfail, List.foldl_cons, hafter]

lemma shows_settle (file : Text) (h : t.Passes) : Shows (settle file t) (settled t) := by
  rw [settled]
  cases hfail : t.failure? with
  | none =>
    refine ⟨t.logs, ?_, Turn.shownIn_logs t⟩
    rw [settle, Turn.attempt_of_ok hfail]
    simp [Traced.andThen, complain, Traced.done]
  | some e =>
    refine ⟨t.logs ++ [.logged (Log.Record.ofStartupFailure file t.number e), .shown (.failed e)],
      ?_, ?_⟩
    · rw [settle, Turn.attempt_of_recoverable hfail (h e hfail)]
      rfl
    · rw [shownIn_append, Turn.shownIn_logs]
      rfl

lemma filterMap_settled (t : Turn) : (settled t).filterMap Shown.errorMessage? = t.messages := by
  rw [settled, Turn.messages]
  cases t.failure? <;> rfl

/-! ## The lines of the input -/

/-- What a session says about how a line of its input ended. -/
def acknowledge (debug : Bool) : Except Failure Interpreter → Console Unit
  | .ok j => (stackText j).andThen fun text =>
      (display (.stack text)).andThen fun _ => if debug then display (.mode j.mode) else .done ()
  | .error e => display (.failed e)

/-- What a session does about one line of its input. -/
def reply (debug : Bool) (t : Turn) : Console Unit :=
  (display .prompt).andThen fun _ =>
    (attempt t.limit t.before t.line).andThen (acknowledge debug)

/-- What a session shows about one line of its input. -/
def replied (debug : Bool) (t : Turn) : List Shown :=
  .prompt :: match t.failure? with
    | some e => [.failed e]
    | none => .stack t.after.stackWritten :: if debug then [.mode t.after.mode] else []

lemma respond_eq (limit : Nat) (debug : Bool) (number : Nat) (i : Interpreter) (line : Text) :
    respond limit debug i line =
      ((attempt limit i line).andThen (acknowledge debug)).andThen fun _ =>
        .done (Turn.after ⟨limit, number, line, i⟩) := by
  rw [Traced.andThen_assoc]
  refine Traced.andThen_congr fun result hresult => ?_
  rcases Turn.of_outcome_attempt (t := ⟨limit, number, line, i⟩) hresult with
    ⟨rfl, -⟩ | ⟨e, rfl, hfail, -⟩
  · rw [acknowledge, Traced.andThen_assoc]
    cases debug <;> rfl
  · rw [Turn.after_of_failure hfail]
    rfl

/-- **The input is dealt with turn by turn.** -/
theorem answer_eq (limit : Nat) (debug : Bool) (first : Nat) (lines : List Text)
    (i : Interpreter) :
    answer limit debug lines i =
      (Traced.sequence ((turnsFrom limit first i lines).map (reply debug))).andThen fun _ =>
        .done (lines.foldl (Interpreter.attempt limit) i) := by
  induction lines generalizing first i with
  | nil => rfl
  | cons line rest ih =>
    rw [answer, turnsFrom_cons, List.map_cons, Traced.sequence, reply, Traced.andThen_assoc,
      Traced.andThen_assoc]
    refine Traced.andThen_congr fun _ _ => ?_
    rw [respond_eq limit debug first, Traced.andThen_assoc]
    refine Traced.andThen_congr fun _ _ => ?_
    rw [Traced.andThen_done, ih (first + 1)]
    rfl

/-- A session goes on after a line that does not fail beyond recovery and leaves a stack that can
be written, and only then. -/
lemma of_outcome_reply (h : (reply debug t).outcome = .ok ()) :
    t.Passes ∧ (t.failure? = none → t.after.IsWritable) := by
  obtain ⟨_, -, h⟩ := Traced.exists_of_outcome_andThen h
  obtain ⟨result, hresult, h⟩ := Traced.exists_of_outcome_andThen h
  refine ⟨Turn.passes_of_outcome_attempt hresult, fun hfail => ?_⟩
  rw [Turn.attempt_of_ok hfail] at hresult
  obtain rfl := Except.ok.inj hresult
  by_contra hlong
  rw [acknowledge, stackText_of_not_isWritable hlong] at h
  exact absurd h (by simp)

lemma shows_reply (debug : Bool) (h : t.Passes)
    (hwritable : t.failure? = none → t.after.IsWritable) :
    Shows (reply debug t) (replied debug t) := by
  rw [replied]
  cases hfail : t.failure? with
  | none =>
    refine ⟨.shown .prompt :: (t.logs ++ .shown (.stack t.after.stackWritten) ::
      if debug then [.shown (.mode t.after.mode)] else []), ?_, ?_⟩
    · rw [reply, Turn.attempt_of_ok hfail]
      simp only [Traced.andThen, acknowledge, stackText_of_isWritable (hwritable hfail)]
      cases debug <;> rfl
    · rw [← List.singleton_append, shownIn_append, shownIn_append, Turn.shownIn_logs]
      cases debug <;> rfl
  | some e =>
    refine ⟨.shown .prompt :: (t.logs ++ [.shown (.failed e)]), ?_, ?_⟩
    · rw [reply, Turn.attempt_of_recoverable hfail (h e hfail)]
      rfl
    · rw [← List.singleton_append, shownIn_append, shownIn_append, Turn.shownIn_logs]
      rfl

lemma filterMap_replied (debug : Bool) (t : Turn) :
    (replied debug t).filterMap Shown.errorMessage? = t.messages := by
  rw [replied, Turn.messages]
  cases t.failure? with
  | none => cases debug <;> rfl
  | some e => rfl

/-! ## Whole sessions -/

variable {settings : Settings} {folder : Folder} {name text : Text}

/-- A session with a startup file does what there is to do about its lines, and goes on with what
they lead to. -/
lemma start_of_text (limit : Nat) (hname : settings.startupFile = some name)
    (hfile : folder name = .ok (.text text)) (i : Interpreter) :
    start limit settings folder i =
      (display (.banner settings.platform)).andThen fun _ => (display .startingUp).andThen fun _ =>
        runStartupLines limit name 1 (Text.startupLines text) i := by
  show (display _).andThen (fun _ => (display _).andThen fun _ => _) = _
  rw [hname]
  simp only [runStartupFile, hfile]

/-- A session whose startup file is absent says so, and goes on with what it has. -/
lemma start_of_absent (limit : Nat) (hname : settings.startupFile = some name)
    (habsent : folder name = .error .absent) (i : Interpreter) :
    start limit settings folder i = ⟨[.shown (.banner settings.platform), .shown .startingUp,
      .shown .noStartupFile], .ok i⟩ := by
  show (display _).andThen (fun _ => (display _).andThen fun _ => _) = _
  rw [hname]
  simp only [runStartupFile, habsent]
  rfl

/-- A session whose startup file is there and whose input is empty returns what the lines of the
startup file lead to, if none of them ends the session. -/
lemma run_of_startupFile (hname : settings.startupFile = some name)
    (hfile : folder name = .ok (.text text))
    (h : ∀ t ∈ turnsFrom limit 1 i (Text.startupLines text), t.Passes) :
    (run limit settings folder ⟨[], .endOfInput⟩ i).outcome =
        .ok ((Text.startupLines text).foldl (Interpreter.attempt limit) i) ∧
      shownIn (run limit settings folder ⟨[], .endOfInput⟩ i).trace =
        [.banner settings.platform, .startingUp] ++
          (turnsFrom limit 1 i (Text.startupLines text)).flatMap settled ++
          [.prompt, .farewell] := by
  obtain ⟨trace, htrace, hshown⟩ := shows_sequence fun t ht => shows_settle name (h t ht)
  have hrun : run limit settings folder ⟨[], .endOfInput⟩ i =
      ⟨[.shown (.banner settings.platform), .shown .startingUp] ++ trace ++
          [.shown .prompt, .shown .farewell],
        .ok ((Text.startupLines text).foldl (Interpreter.attempt limit) i)⟩ := by
    rw [run_eq_answer, start_of_text limit hname hfile, runStartupLines_eq, htrace]
    simp [Traced.andThen, answer, conclude_endOfInput, display, Traced.note, Traced.done]
  rw [hrun, shownIn_append, shownIn_append, hshown]
  exact ⟨rfl, rfl⟩

/-- A session without a startup file that comes to the end of its input returns what its lines lead
to.  It has shown the stack after each line that did not fail. -/
lemma of_run_of_absent (hname : settings.startupFile = some name)
    (habsent : folder name = .error .absent)
    (h : (run limit settings folder ⟨lines, .endOfInput⟩ i).outcome = .ok j) :
    j = lines.foldl (Interpreter.attempt limit) i ∧
      (∀ t ∈ turnsFrom limit 1 i lines, t.Passes ∧ (t.failure? = none → t.after.IsWritable)) ∧
      shownIn (run limit settings folder ⟨lines, .endOfInput⟩ i).trace =
        [.banner settings.platform, .startingUp, .noStartupFile] ++
          (turnsFrom limit 1 i lines).flatMap (replied settings.debug) ++ [.prompt, .farewell] := by
  simp only [run_eq_answer, start_of_absent limit hname habsent,
    answer_eq limit settings.debug 1] at h ⊢
  have hall : ∀ t ∈ turnsFrom limit 1 i lines,
      t.Passes ∧ (t.failure? = none → t.after.IsWritable) := by
    obtain ⟨_, hstart, h⟩ := Traced.exists_of_outcome_andThen h
    obtain rfl := Except.ok.inj hstart
    obtain ⟨_, h, -⟩ := Traced.exists_of_outcome_andThen h
    obtain ⟨_, h, -⟩ := Traced.exists_of_outcome_andThen h
    exact fun t ht => of_outcome_reply (Traced.outcome_sequence_map_eq_ok_iff.1 h t ht)
  obtain ⟨trace, htrace, hshown⟩ :=
    shows_sequence fun t ht => shows_reply settings.debug (hall t ht).1 (hall t ht).2
  simp only [htrace, Traced.andThen, Traced.done, conclude_endOfInput] at h ⊢
  refine ⟨(Except.ok.inj h).symm, hall, ?_⟩
  simp only [shownIn_append, hshown, List.append_assoc]
  rfl

/-! ## What sessions print -/

/-- What a session prints before it deals with its startup file. -/
def greeting (platform : Text) : Text :=
  Shown.asLine ("Forth REPL (version ".toList ++ version ++ " on ".toList ++ platform ++
    ").".toList) ++ Shown.asLine "Running startup initialization file...".toList

/-- The line that a session prints about a failure. -/
def errorLine (message : Text) : Text := "Error: ".toList ++ message ++ ['\n']

/-- The text that a session prints about one line of its input. -/
def replyText (debug : Bool) (t : Turn) : Text :=
  ">>> ".toList ++ match t.failure? with
    | some e => errorLine e.message
    | none => "Stack: ".toList ++ t.after.stackWritten ++ ['\n'] ++
        if debug then "Mode: ".toList ++ t.after.mode.describe ++ ['\n'] else []

lemma flatMap_text_settled (t : Turn) :
    (settled t).flatMap Shown.text = t.messages.flatMap errorLine := by
  rw [settled, Turn.messages]
  cases t.failure? <;> rfl

lemma flatMap_text_replied (debug : Bool) (t : Turn) :
    (replied debug t).flatMap Shown.text = replyText debug t := by
  rw [replied, replyText, List.flatMap_cons]
  cases t.failure? with
  | some e =>
    rw [List.flatMap_singleton]
    rfl
  | none =>
    rw [List.flatMap_cons]
    cases debug with
    | false => rfl
    | true =>
      rw [if_pos rfl, if_pos rfl, List.flatMap_singleton]
      rfl

lemma flatMap_text_greeting (platform : Text) :
    [Shown.banner platform, .startingUp].flatMap Shown.text = greeting platform := by
  have htexts : Shown.text (.banner platform) ++ (Shown.text .startingUp ++ []) =
      greeting platform := congrArg _ (List.append_nil _)
  exact htexts

/-- The text that is printed by a session which shows the given messages between its banner and its
end. -/
lemma flatMap_text_session (platform : Text) (shown : List Shown) :
    ([Shown.banner platform, .startingUp] ++ shown ++ [Shown.prompt, .farewell]).flatMap
        Shown.text =
      greeting platform ++ shown.flatMap Shown.text ++ ">>> Bye!\n".toList := by
  have hend : [Shown.prompt, .farewell].flatMap Shown.text = ">>> Bye!\n".toList := by
    decide +kernel
  rw [List.flatMap_append, List.flatMap_append, flatMap_text_greeting, hend]

/-- The text that a session prints about its startup file. -/
lemma printed_of_settled {platform : Text} {turns : List Turn} {trace : List Emission}
    (h : shownIn trace =
      [.banner platform, .startingUp] ++ turns.flatMap settled ++ [.prompt, .farewell]) :
    printed trace = greeting platform ++ (failureMessages turns).flatMap errorLine ++
      ">>> Bye!\n".toList := by
  rw [printed, h, flatMap_text_session, List.flatMap_assoc, failureMessages, List.flatMap_assoc]
  simp only [flatMap_text_settled]

/-- The text that a session prints about its input. -/
lemma printed_of_replied {platform : Text} {turns : List Turn} {trace : List Emission}
    (h : shownIn trace = [.banner platform, .startingUp, .noStartupFile] ++
      turns.flatMap (replied debug) ++ [.prompt, .farewell]) :
    printed trace = greeting platform ++ ("No startup initialization file found.\n".toList ++
      turns.flatMap (replyText debug)) ++ ">>> Bye!\n".toList := by
  have hsession := flatMap_text_session platform (.noStartupFile :: turns.flatMap (replied debug))
  rw [printed, h]
  refine hsession.trans ?_
  rw [List.flatMap_cons, List.flatMap_assoc]
  simp only [flatMap_text_replied]
  rfl

end Repl

/-! ## The three hosts -/

lemma failureMessages_eq_nil_iff {turns : List Turn} :
    failureMessages turns = [] ↔ ∀ t ∈ turns, t.failure? = none := by
  simp [failureMessages, Turn.messages]

lemma Batch.filterMap_report (file : Text) (t : Turn) :
    (report file false t).filterMap Shown.errorMessage? = t.messages := by
  cases hfail : t.failure? <;> simp [report, Turn.messages, hfail, Shown.errorMessage?]

/-- **The three hosts agree**, for any number of levels to spare.  Lines without line breaks of
their own are joined to a text, which is run as the startup file of a session without input, as the
input of a session without a startup file, and as a batch program whose stack is not shown after
every line.  If the second of them returns an interpreter, the first returns the same one, the third
comes to its end and prints the stack of that interpreter as its last line, all of them print the
same error messages in the same order, and the exit status of the third tells if there are any.
Around its messages, each prints what belongs to it and nothing else: the first an error line for
each message, the second its answer to each line, the third the error lines with their numbers and
the last stack. -/
theorem hosts_agree {limit : Nat} {lines : List Text}
    (hlines : ∀ line ∈ lines, ∀ c ∈ line, Text.isLineBreak c = false)
    {settings settings' : Repl.Settings} {folder folder' : Folder} {name name' file : Text}
    (hname : settings.startupFile = some name)
    (hfile : folder name = .ok (.text (Text.join ['\n'] lines)))
    (hname' : settings'.startupFile = some name') (habsent : folder' name' = .error .absent)
    {j : Interpreter}
    (h : (Repl.run limit settings' folder' (.ofSource (.text (Text.join ['\n'] lines)))
      .new).outcome = .ok j) :
    (Repl.run limit settings folder (.ofSource (.text [])) .new).outcome = .ok j ∧
    ∃ turns status stack messages,
      turns = Batch.turnsOf limit (Text.programLines (Text.join ['\n'] lines)) ∧
      (Batch.run limit file false (.text (Text.join ['\n'] lines))).outcome = .ok status ∧
      j.formatStack = .ok stack ∧
      (shownIn (Batch.run limit file false (.text (Text.join ['\n'] lines))).trace).getLast? =
        some (.finalStack stack) ∧
      errorMessages (Repl.run limit settings folder (.ofSource (.text [])) .new).trace = messages ∧
      errorMessages (Repl.run limit settings' folder'
        (.ofSource (.text (Text.join ['\n'] lines))) .new).trace = messages ∧
      errorMessages (Batch.run limit file false (.text (Text.join ['\n'] lines))).trace =
        messages ∧
      (status = 1 ↔ messages ≠ []) ∧ (status = 0 ↔ messages = []) ∧
      printed (Repl.run limit settings folder (.ofSource (.text [])) .new).trace =
        Repl.greeting settings.platform ++ messages.flatMap Repl.errorLine ++
          ">>> Bye!\n".toList ∧
      printed (Repl.run limit settings' folder'
          (.ofSource (.text (Text.join ['\n'] lines))) .new).trace =
        Repl.greeting settings'.platform ++
          ("No startup initialization file found.\n".toList ++
            turns.flatMap (Repl.replyText settings'.debug)) ++ ">>> Bye!\n".toList ∧
      printed (Batch.run limit file false (.text (Text.join ['\n'] lines))).trace =
        turns.flatMap (Batch.reportText file false) ++ stack ++ ['\n'] := by
  set text := Text.join ['\n'] lines
  -- nothing but the line feeds between the lines ends a line, so both ways of cutting agree
  have hcut : Text.startupLines text = Text.programLines text :=
    Text.startupLines_eq_programLines (Text.isLineBreak_of_mem_join hlines)
  obtain ⟨rfl, hall, hinput⟩ := Repl.of_run_of_absent hname' habsent h
  have hpasses : ∀ t ∈ Batch.turnsOf limit (Text.programLines text), t.Passes :=
    fun t ht => (hall t ht).1
  -- the session has shown the stack after every line that went well, and the last of these is the
  -- one that the batch run prints
  have hlast : (Batch.afterAll limit (Text.programLines text)).IsWritable :=
    isWritable_foldl Interpreter.isWritable_new fun t ht => (hall t ht).2
  obtain ⟨hreturns, hstartup⟩ :=
    @Repl.run_of_startupFile limit .new _ _ _ _ hname hfile (by rw [hcut]; exact hpasses)
  rw [hcut] at hreturns hstartup
  have hthrough := Batch.getsThrough_of_passes hpasses
  obtain ⟨hbatch, hstatus⟩ := Batch.conclude_of_isWritable file hthrough hlast
  refine ⟨hreturns, _, _, _, failureMessages (Batch.turnsOf limit (Text.programLines text)), rfl,
    hstatus, Interpreter.formatStack_of_isWritable hlast, ?_, ?_, ?_, ?_, ?_, ?_, ?_, ?_,
    Batch.printed_conclude file hthrough hlast⟩
  · rw [Batch.run, Batch.runSource, hbatch, List.getLast?_append]
    rfl
  · exact errorMessages_of_shownIn hstartup Repl.filterMap_settled rfl rfl
  · exact errorMessages_of_shownIn hinput (Repl.filterMap_replied settings'.debug) rfl rfl
  · exact @errorMessages_of_shownIn _ _ _ [] _ hbatch (Batch.filterMap_report file) rfl rfl
  · rw [ne_eq, failureMessages_eq_nil_iff]
    simp
  · rw [failureMessages_eq_nil_iff]
    simp
  · exact Repl.printed_of_settled hstartup
  · exact Repl.printed_of_replied hinput

/-- Four lines: a definition is begun in the first and stored in the second, and the third
fails. -/
def fourLines : List Text :=
  [['1', ' ', ':'], ['x', ' ', '2', ' ', ';'], ['+'], ['x']]

/-- A working folder whose startup file consists of these lines. -/
def fourLinesFolder : Folder :=
  Folder.ofFiles [(Repl.defaultStartupFile, .text (Text.join ['\n'] fourLines))]

/-- Both sessions return the same interpreter, with 1 and 2 on its stack, and all three hosts report
the third line and nothing else. -/
theorem hosts_agree_fourLines :
    ∃ j : Interpreter,
      (Repl.run 1 Repl.plainly (Folder.ofFiles [])
        (.ofSource (.text (Text.join ['\n'] fourLines))) .new).outcome = .ok j ∧
      (Repl.run 1 Repl.plainly fourLinesFolder (.ofSource (.text [])) .new).outcome = .ok j ∧
      j.formatStack = .ok ['1', ' ', '2'] ∧
      (∃ status, (Batch.run 1 ['f'] false (.text (Text.join ['\n'] fourLines))).outcome =
        .ok status ∧ status = 1) ∧
      errorMessages (Repl.run 1 Repl.plainly fourLinesFolder (.ofSource (.text [])) .new).trace =
        [Failure.message (.word .stackUnderflow)] ∧
      errorMessages (Batch.run 1 ['f'] false (.text (Text.join ['\n'] fourLines))).trace =
        [Failure.message (.word .stackUnderflow)] ∧
      printed (Batch.run 1 ['f'] false (.text (Text.join ['\n'] fourLines))).trace =
        "Error in f, line 3: Stack underflow\n1 2\n".toList := by
  have hinput : (Repl.run 1 Repl.plainly (Folder.ofFiles [])
      (.ofSource (.text (Text.join ['\n'] fourLines))) .new).outcome =
        .ok (((Interpreter.new.push 1).define ['x'] ['2']).push 2) := by decide +kernel
  have hlines : ∀ line ∈ fourLines, ∀ c ∈ line, Text.isLineBreak c = false := by
    simp [fourLines, Text.isLineBreak]
  have hfile : fourLinesFolder Repl.defaultStartupFile =
      .ok (.text (Text.join ['\n'] fourLines)) := by decide +kernel
  have hmessages : errorMessages (Repl.run 1 Repl.plainly fourLinesFolder
      (.ofSource (.text [])) .new).trace = [Failure.message (.word .stackUnderflow)] := by
    decide +kernel
  have hstack : (((Interpreter.new.push 1).define ['x'] ['2']).push 2).formatStack =
      .ok ['1', ' ', '2'] := by decide +kernel
  obtain ⟨hsame, turns, status, stack, messages, hturns, hstatus, hformat, -, hstartup, -, hbatch,
    hone, -, -, -, hprinted⟩ :=
    @hosts_agree 1 fourLines hlines Repl.plainly Repl.plainly fourLinesFolder
      (Folder.ofFiles []) Repl.defaultStartupFile Repl.defaultStartupFile ['f'] rfl hfile rfl
      (by decide +kernel) _ hinput
  rw [hmessages] at hstartup
  subst hstartup
  obtain rfl := Except.ok.inj (hstack.symm.trans hformat)
  refine ⟨_, hinput, hsame, hstack, ⟨status, hstatus, hone.2 (by simp)⟩, hmessages, hbatch, ?_⟩
  rw [hprinted, hturns]
  decide +kernel

end ColonForth.Host
