import ColonForth.Proofs.EvaluationLog
import ColonForth.Proofs.JsonReading
import ColonForth.Proofs.Lines
import Mathlib.Data.Set.Function

/-!
# Reading the lines of a log

A record is written as a line, and what a program brings into it, the names of words and the texts
of programs, is written as part of that line.  Whatever that is, the line stays one line, and it is
read as the record.  So a program can neither end a line of the log early nor add one.

In a log that is kept, the line of a record says also where in its file the record was made, when,
and in which thread and process (`Entry`).

The JSON format has one limit.  A string in memory may hold the two halves of a pair one after the
other, and it is then written like the string that has their character in this place, so it is read
as that string.  An entry is read back exactly if none of its strings is of this kind
(`Entry.joined_eq_self_iff`), whoever made the strings.  Programs are texts, which have no halves,
and so are all strings that evaluation puts into its records.  A caller who has a name with the two
halves of a pair in memory, and defines it, gets the line of the other name.

* `ofJson?_toJson`: the object that is written for a record or an entry is read as it.
* `ofLine?_line`: its line is read as the record or entry with its pairs joined.
* `map_linesAt_ofLines`: what is written in lines of printable ASCII characters is read line by
  line.
* `log_lines_read_back`: the log of an evaluation is read from its lines.
-/

namespace ColonForth

open Text

/-! ## The members of an object -/

namespace Json

/-- The value under a key. -/
def member? (key : String) : Json → Option Json
  | .object members => members.lookup (Text.wide key.toList)
  | _ => none

/-- The string under a key. -/
def string? (key : String) (v : Json) : Option WideText :=
  match v.member? key with
  | some (.string t) => some t
  | _ => none

/-- The number under a key. -/
def number? (key : String) (v : Json) : Option Int :=
  match v.member? key with
  | some (.number n) => some n
  | _ => none

end Json

namespace Log

/-! ## Records and entries -/

/-- The level with the given name. -/
def Level.ofName? (t : WideText) : Option Level :=
  [debug, info, warning, error, critical].find? fun level => level.name.wide == t

lemma Level.ofName?_name (level : Level) : ofName? level.name.wide = some level := by
  cases level <;> rfl

namespace Record

/-- The line about an error under the key for it, if there is one. -/
def exceptionOf? (v : Json) : Option (Option WideText) :=
  match v.member? "exception" with
  | some .null => some none
  | some (.array [.string line]) => some (some line)
  | _ => none

/-- The record that an object describes. -/
def ofJson? (v : Json) : Option Record := do
  let name ← v.string? "name"
  let message ← v.string? "message"
  let levelName ← v.string? "level_name"
  let level ← Level.ofName? levelName
  let file ← v.string? "file_name"
  let module ← v.string? "module"
  let exception ← exceptionOf? v
  let function ← v.string? "function_name"
  return ⟨name, level, ⟨file, module, function⟩, message, exception⟩

/-- The record that a line describes. -/
def ofLine? (t : Text) : Option Record := (Json.read? t).bind ofJson?

/-- The strings of a record. -/
def strings (r : Record) : List WideText :=
  [r.name, r.origin.file, r.origin.module, r.origin.function, r.message] ++ r.exception.toList

/-- The record with the pairs that are split in its strings joined. -/
def joined (r : Record) : Record where
  name := r.name.joined
  level := r.level
  origin := ⟨r.origin.file.joined, r.origin.module.joined, r.origin.function.joined⟩
  message := r.message.joined
  exception := r.exception.map WideText.joined

end Record

/-- A record in a log that is kept. -/
structure Entry where
  /-- The record. -/
  record : Record
  /-- The path of the file in which it was made. -/
  path : WideText
  /-- The number of the line at which it was made. -/
  lineNumber : Int
  /-- When it was made. -/
  created : WideText
  /-- The number of the thread. -/
  thread : Int
  /-- The name of the thread. -/
  threadName : WideText
  /-- The name of the process. -/
  processName : WideText
  /-- The number of the process. -/
  process : Int
deriving DecidableEq, Repr

namespace Entry

/-- The entry as a JSON object. -/
def toJson (e : Entry) : Json :=
  .object
    [(Text.wide "name".toList, .string e.record.name),
     (Text.wide "message".toList, .string e.record.message),
     (Text.wide "level_name".toList, .string e.record.level.name.wide),
     (Text.wide "path_name".toList, .string e.path),
     (Text.wide "file_name".toList, .string e.record.origin.file),
     (Text.wide "module".toList, .string e.record.origin.module),
     (Text.wide "exception".toList, Record.exceptionJson e.record.exception),
     (Text.wide "line_number".toList, .number e.lineNumber),
     (Text.wide "function_name".toList, .string e.record.origin.function),
     (Text.wide "created".toList, .string e.created),
     (Text.wide "thread".toList, .number e.thread),
     (Text.wide "thread_name".toList, .string e.threadName),
     (Text.wide "process_name".toList, .string e.processName),
     (Text.wide "process".toList, .number e.process)]

/-- The entry as a line of the log. -/
def line (e : Entry) : Text := e.toJson.render

/-- The entry that an object describes. -/
def ofJson? (v : Json) : Option Entry := do
  let record ← Record.ofJson? v
  let path ← v.string? "path_name"
  let lineNumber ← v.number? "line_number"
  let created ← v.string? "created"
  let thread ← v.number? "thread"
  let threadName ← v.string? "thread_name"
  let processName ← v.string? "process_name"
  let process ← v.number? "process"
  return ⟨record, path, lineNumber, created, thread, threadName, processName, process⟩

/-- The entry that a line describes. -/
def ofLine? (t : Text) : Option Entry := (Json.read? t).bind ofJson?

/-- The strings of an entry. -/
def strings (e : Entry) : List WideText :=
  e.record.strings ++ [e.path, e.created, e.threadName, e.processName]

/-- The entry with the pairs that are split in its strings joined. -/
def joined (e : Entry) : Entry where
  record := e.record.joined
  path := e.path.joined
  lineNumber := e.lineNumber
  created := e.created.joined
  thread := e.thread
  threadName := e.threadName.joined
  processName := e.processName.joined
  process := e.process

end Entry

/-! ## Joined pairs -/

lemma Record.exceptionJson_joined (exception : Option WideText) :
    (exceptionJson exception).joined = exceptionJson (exception.map WideText.joined) := by
  cases exception <;> rfl

/-- The keys and the names of levels are texts, in which there is nothing to join. -/
lemma Record.toJson_joined (r : Record) : r.toJson.joined = r.joined.toJson := by
  simp only [toJson, joined, Json.joined, Json.joinedMembers, WideText.joined_wide,
    exceptionJson_joined]

lemma Entry.toJson_joined (e : Entry) : e.toJson.joined = e.joined.toJson := by
  simp only [toJson, joined, Record.joined, Json.joined, Json.joinedMembers, WideText.joined_wide,
    Record.exceptionJson_joined]

/-- **There is nothing to join in a record exactly if no pair is split in its strings.** -/
theorem Record.joined_eq_self_iff (r : Record) :
    r.joined = r ↔ ∀ t ∈ r.strings, t.IsUnsplit := by
  obtain ⟨name, level, ⟨file, module, function⟩, message, exception⟩ := r
  simp only [joined, strings, mk.injEq, Origin.mk.injEq, List.mem_append, List.mem_cons,
    List.not_mem_nil, or_false, forall_eq, or_imp, forall_and, Option.mem_toList,
    ← WideText.joined_eq_self_iff, true_and]
  cases exception <;> simp [and_assoc]

/-- **There is nothing to join in an entry exactly if no pair is split in its strings.** -/
theorem Entry.joined_eq_self_iff (e : Entry) : e.joined = e ↔ ∀ t ∈ e.strings, t.IsUnsplit := by
  obtain ⟨record, path, lineNumber, created, thread, threadName, processName, process⟩ := e
  simp only [strings, List.forall_mem_append, ← Record.joined_eq_self_iff]
  simp [joined, ← WideText.joined_eq_self_iff]

/-! ## Reading what is written -/

/-- The members of the object of a record are among those of an entry, in the same order. -/
lemma Entry.exists_sublist (e : Entry) : ∃ own all, e.record.toJson = .object own ∧
    e.toJson = .object all ∧ own.Sublist all := by
  refine ⟨_, _, rfl, rfl, ?_⟩
  -- the path stands behind the level, the line number behind the error, and the rest at the end
  refine .cons_cons _ (.cons_cons _ (.cons_cons _ (.cons _ ?_)))
  refine .cons_cons _ (.cons_cons _ (.cons_cons _ (.cons _ ?_)))
  exact .cons_cons _ (List.nil_sublist _)

/-- **The object of a record is read as the record.** -/
theorem Record.ofJson?_toJson (r : Record) : ofJson? r.toJson = some r := by
  obtain ⟨name, level, origin, message, exception⟩ := r
  have hmembers : ofJson? (toJson ⟨name, level, origin, message, exception⟩) =
      (Level.ofName? level.name.wide).bind (some ⟨name, ·, origin, message, exception⟩) := by
    cases exception <;> rfl
  rw [hmembers, Level.ofName?_name, Option.bind_some]

lemma Entry.record_ofJson?_toJson (e : Entry) : Record.ofJson? e.toJson = some e.record := by
  obtain ⟨⟨name, level, origin, message, exception⟩, path, lineNumber, created, thread, threadName,
    processName, process⟩ := e
  have hmembers : Record.ofJson? (toJson ⟨⟨name, level, origin, message, exception⟩, path,
      lineNumber, created, thread, threadName, processName, process⟩) =
      (Level.ofName? level.name.wide).bind (some ⟨name, ·, origin, message, exception⟩) := by
    cases exception <;> rfl
  rw [hmembers, Level.ofName?_name, Option.bind_some]

/-- **The object of an entry is read as the entry.** -/
theorem Entry.ofJson?_toJson (e : Entry) : ofJson? e.toJson = some e := by
  rw [ofJson?, record_ofJson?_toJson]
  rfl

/-- **The line of a record is read as the record**, with its pairs joined. -/
theorem Record.ofLine?_line (r : Record) : ofLine? r.line = some r.joined := by
  rw [ofLine?, line, Json.read?_render, Option.bind_some, toJson_joined, ofJson?_toJson]

/-- **The line of an entry is read as the entry**, with its pairs joined. -/
theorem Entry.ofLine?_line (e : Entry) : ofLine? e.line = some e.joined := by
  rw [ofLine?, line, Json.read?_render, Option.bind_some, toJson_joined, ofJson?_toJson]

lemma Entry.record_ofLine?_line (e : Entry) : Record.ofLine? e.line = some e.record.joined := by
  rw [Record.ofLine?, line, Json.read?_render, Option.bind_some, toJson_joined,
    record_ofJson?_toJson]
  rfl

/-- Entries have the same line exactly if they are the same with their pairs joined. -/
lemma Entry.line_eq_iff (e e' : Entry) : e.line = e'.line ↔ e.joined = e'.joined := by
  constructor
  · intro h
    have hread := congrArg ofLine? h
    rw [ofLine?_line, ofLine?_line] at hread
    exact Option.some.inj hread
  · intro h
    rw [line, line, ← Json.render_joined, ← Json.render_joined e'.toJson, toJson_joined,
      toJson_joined, h]

/-- All strings in the records of an evaluation are texts. -/
lemma joined_of_mem_log {limit : Nat} {i : Interpreter} {program : Text} {r : Record}
    (h : r ∈ Interpreter.log limit i program) : r.joined = r := by
  rw [Interpreter.log, Interpreter.recordsOf_debug] at h
  obtain ⟨event, -, rfl⟩ := List.mem_map.1 h
  cases event <;>
    simp [Record.ofEvent, Record.ofEvaluator, Record.joined]

/-- No printable ASCII character ends a line. -/
lemma isLineBreak_of_isPlain {t : Text} (h : IsPlain t) {c : Char} (hc : c ∈ t) :
    isLineBreak c = false := by
  have hbreaks : ['\n', '\x0b', '\x0c', '\r', '\x1c', '\x1d', '\x1e', '\u0085', '\u2028',
      '\u2029'].all (fun d => !decide (0x20 ≤ d.toNat ∧ d.toNat ≤ 0x7E)) = true := by decide
  rw [isLineBreak, List.contains_eq_mem, decide_eq_false_iff_not]
  intro hmem
  have hout := List.all_eq_true.1 hbreaks c hmem
  rw [decide_eq_true (h c hc)] at hout
  exact absurd hout (by decide)

/-- What is written in lines of printable ASCII characters is read line by line. -/
lemma map_linesAt_ofLines {α : Type} {write : α → Text} {read? : Text → Option α} {f : α → α}
    (hplain : ∀ a, IsPlain (write a)) (hread : ∀ a, read? (write a) = some (f a)) (as : List α) :
    (linesAt isLineBreak (ofLines (as.map write))).map read? = as.map fun a => some (f a) := by
  have hlines : ∀ line ∈ as.map write, ∀ c ∈ line, isLineBreak c = false := by
    intro line hline c hc
    obtain ⟨a, -, rfl⟩ := List.mem_map.1 hline
    exact isLineBreak_of_isPlain (hplain a) hc
  rw [linesAt_ofLines hlines rfl, List.map_map]
  exact List.map_congr_left fun a _ => hread a

/-- The two halves of a pair, put into a record as the name of a word, and their character in the
same place: the records differ, and their lines do not. -/
example :
    let record (name : WideText) : Record :=
      { Record.ofEvaluator "_capture" [] with
        message := Text.wide "defined ".toList ++ name ++ Text.wide " as '1'".toList }
    let halves : WideText :=
      [.half ⟨0xD83D, by decide, by decide⟩, .half ⟨0xDE00, by decide, by decide⟩]
    let character := Text.wide [Char.ofNat 0x1F600]
    record halves ≠ record character ∧ (record halves).line = (record character).line := by
  decide +kernel

end Log

end ColonForth
