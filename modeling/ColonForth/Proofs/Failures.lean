import ColonForth.Proofs.GuardedMachine
import ColonForth.Proofs.Literal
import ColonForth.Proofs.Worklist

/-!
# Where failures come from

A run fails where it meets a word that fails, or where bodies are nested too deeply.  The ways in
which a word without a body fails are few:

* `Fails` lists them by cases, as `Acts` lists what such a word does if it goes well
  (`fails_of_act`).
* `ComesTo`: a run comes to a word with an interpreter that the word is given.  A run that
  fails, and not for its depth, comes to a word that fails alike (`exists_comesTo_of_eval`).

Together with the guards of the built-in words this says all that can come out of an evaluation
(`eval_fails_as_stated`).
-/

namespace ColonForth

namespace Interpreter

/-! ## Words that fail -/

/-- All the ways in which a word without a body can fail. -/
inductive Fails (i : Interpreter) (word : Text) : Failure → Prop
  /-- A colon, a semicolon or a literal names no definition. -/
  | name (hmode : i.mode = .awaitingName)
      (hword : word = colon ∨ word = semicolon ∨ ∃ n, Literal.read word = .ok (some n)) :
      Fails i word (.word .invalidWord)
  /-- A word is refused for its length where it might be a literal. -/
  | length {e : LimitError} (hmode : i.mode = .evaluating ∨ i.mode = .awaitingName)
      (hread : Literal.read word = .error e) : Fails i word (.limit e)
  /-- A built-in word fails. -/
  | primitive {p : Primitive} {e : WordError} (hmode : i.mode = .evaluating)
      (hname : Primitive.ofName? word = some p) (hrun : p.run i.stack = .error e) :
      Fails i word (.word e)
  /-- A word that is evaluated stands for nothing. -/
  | unknown (hmode : i.mode = .evaluating) (hlook : i.definitions.lookup word = none)
      (hname : Primitive.ofName? word = none) : Fails i word (.word .unknownWord)

variable {i k : Interpreter} {word : Text} {e : Failure}

lemma fails_of_nameDefinition (hmode : i.mode = .awaitingName)
    (h : i.nameDefinition word = .error e) : Fails i word e := by
  unfold nameDefinition at h
  split at h
  · next hword =>
    obtain rfl := Except.error.inj h
    exact .name hmode (hword.imp_right Or.inl)
  split at h
  · next hread =>
    obtain rfl := Except.error.inj h
    exact .length (Or.inr hmode) hread
  · next n hread =>
    obtain rfl := Except.error.inj h
    exact .name hmode (Or.inr (Or.inr ⟨n, hread⟩))
  · exact absurd h (by simp)

lemma fails_of_perform (hword : word ≠ []) (hmode : i.mode = .evaluating)
    (hexp : i.expansion? word = none)
    (h : (perform (fun _ _ => .fail .tooDeep) i word).outcome = .error e) : Fails i word e := by
  unfold perform meaning at h
  -- the cases come in the order in which a meaning is looked for
  by_cases hcolon : word = colon
  · simp only [if_pos hcolon] at h
    exact absurd h (by simp)
  rw [if_neg hcolon] at h
  cases hread : Literal.read word with
  | error limit =>
    simp only [hread] at h
    obtain rfl := Except.error.inj h
    exact .length (Or.inl hmode) hread
  | ok value =>
    cases value with
    | some n =>
      simp only [hread] at h
      exact absurd h (by simp)
    | none =>
      cases hlook : i.definitions.lookup word with
      | some body =>
        rw [expansion?_eq_some_iff.2 ⟨hword, hmode, hcolon, hread, hlook⟩] at hexp
        exact absurd hexp (by simp)
      | none =>
        cases hname : Primitive.ofName? word with
        | none =>
          simp only [hread, hlook, hname] at h
          obtain rfl := Except.error.inj h
          exact .unknown hmode hlook hname
        | some p =>
          simp only [hread, hlook, hname] at h
          cases hrun : p.run i.stack with
          | ok s =>
            rw [hrun] at h
            exact absurd h (by simp)
          | error error =>
            rw [hrun] at h
            obtain rfl := Except.error.inj h
            exact .primitive hmode hname hrun

/-- **However a word without a body fails is listed by `Fails`.** -/
theorem fails_of_act (hexp : i.expansion? word = none) (h : i.act word = .error e) :
    Fails i word e := by
  by_cases hword : word = []
  · subst hword
    exact absurd h (by simp)
  cases hmode : i.mode with
  | awaitingName =>
    rw [act_of_awaitingName hword hmode] at h
    exact fails_of_nameDefinition hmode h
  | capturing name body =>
    rw [act_of_capturing hword hmode] at h
    exact absurd h (by simp)
  | evaluating =>
    rw [act_of_evaluating hword hmode] at h
    exact fails_of_perform hword hmode hexp h

/-- What a word fails with tells in which mode it was met, and a word that is refused for its length
begins with too many digits. -/
lemma Fails.mode_cases (h : Fails i word e) :
    (i.mode = .evaluating ∧
      (e = .word .divisionByZero ∨ e = .word .stackUnderflow ∨ e = .word .unknownWord)) ∨
    (i.mode = .awaitingName ∧ e = .word .invalidWord) ∨
    ((i.mode = .evaluating ∨ i.mode = .awaitingName) ∧
      ∃ n, digitLimit < n ∧ Literal.BeginsWithDigits n word ∧ e = .limit (.literalTooLong n)) := by
  cases h with
  | name hmode => exact Or.inr (Or.inl ⟨hmode, rfl⟩)
  | length hmode hread =>
    obtain ⟨n, hlong, hdigits, rfl⟩ := Literal.beginsWithDigits_of_read hread
    exact Or.inr (Or.inr ⟨hmode, n, hlong, hdigits, rfl⟩)
  | primitive hmode hname hrun =>
    rcases Primitive.run_error hrun with rfl | rfl
    · exact Or.inl ⟨hmode, Or.inr (Or.inl rfl)⟩
    · exact Or.inl ⟨hmode, Or.inl rfl⟩
  | unknown hmode => exact Or.inl ⟨hmode, Or.inr (Or.inr rfl)⟩

/-! ## Words that a run comes to -/

/-- A run of `program` comes to `word` with the interpreter `k`. -/
def ComesTo (i : Interpreter) (program : Text) (k : Interpreter) (word : Text) : Prop :=
  ∃ n queue, Worklist.MovesIn n ⟨i, tokenize program⟩ ⟨k, word :: queue⟩

/-- **A run that fails comes to a word that fails alike**, unless it fails for its depth. -/
theorem exists_comesTo_of_eval {limit : Nat} {program : Text}
    (h : (eval limit i program).outcome = .error e) (he : e ≠ .tooDeep) :
    ∃ k word, ComesTo i program k word ∧ k.act word = .error e ∧ Fails k word e := by
  have hmatch := Worklist.matches_steps limit i (tokenize program) []
  rw [List.append_nil, ← outcome_eval, h] at hmatch
  cases hmatch with
  | tooDeep => exact absurd rfl he
  | @failed n c _ _ hmoves hnext =>
    -- the flat machine stops in front of the word that fails
    obtain ⟨k, queue⟩ := c
    cases queue with
    | nil => exact absurd hnext (by simp [Worklist.next])
    | cons word queue =>
      cases hexp : k.expansion? word with
      | some body =>
        rw [Worklist.next_expand hexp] at hnext
        exact absurd hnext (by simp)
      | none =>
        cases hact : k.act word with
        | ok j =>
          rw [Worklist.next_act hexp hact] at hnext
          exact absurd hnext (by simp)
        | error e' =>
          rw [Worklist.next_error hexp hact] at hnext
          obtain rfl := Except.error.inj (Option.some.inj hnext)
          exact ⟨k, word, ⟨n, queue, hmoves⟩, hact, fails_of_act hexp hact⟩

end Interpreter

/-! ## All that comes out of an evaluation -/

namespace Machine

open Interpreter (ComesTo)

variable {m : Machine}

/-- **Only the stated failures come out.**  On a stack that was made by pushing and popping, in any
mode and with any table, the machine gets through a program, or it breaks off with a failure, and
never with a misuse; evaluation goes the same way.  It fails for the nesting of bodies, or because
it comes to a word that fails: with a division by zero, a stack underflow or an unknown word where
words are evaluated, with an invalid word where a definition awaits its name, or, in one of these
modes, because the word begins with too many digits. -/
theorem eval_fails_as_stated (h : m.chain.Built) (limit : Nat) (program : Text) :
    (∃ m', m.eval limit program = .ok m' ∧ m'.chain.Built ∧
      (Interpreter.eval limit m.interpreter program).outcome = .ok m'.interpreter) ∨
    ∃ e, m.eval limit program = .error (.failure e) ∧
      (Interpreter.eval limit m.interpreter program).outcome = .error e ∧
      (e = .tooDeep ∨ ∃ k word, ComesTo m.interpreter program k word ∧ k.act word = .error e ∧
        ((k.mode = .evaluating ∧
          (e = .word .divisionByZero ∨ e = .word .stackUnderflow ∨ e = .word .unknownWord)) ∨
        (k.mode = .awaitingName ∧ e = .word .invalidWord) ∨
        ((k.mode = .evaluating ∨ k.mode = .awaitingName) ∧ ∃ n, digitLimit < n ∧
          Literal.BeginsWithDigits n word ∧ e = .limit (.literalTooLong n)))) := by
  have hfollows := follows_eval limit h program
  generalize hm : m.eval limit program = x at hfollows
  generalize heval : (Interpreter.eval limit m.interpreter program).outcome = y at hfollows
  cases hfollows with
  | @ok m' j hshows =>
    obtain ⟨hbuilt, rfl⟩ := hshows
    exact Or.inl ⟨m', rfl, hbuilt, rfl⟩
  | failure e =>
    refine Or.inr ⟨e, rfl, rfl, or_iff_not_imp_left.2 fun he => ?_⟩
    obtain ⟨k, word, hcomes, hact, hfails⟩ := Interpreter.exists_comesTo_of_eval heval he
    exact ⟨k, word, hcomes, hact, hfails.mode_cases⟩

/-- Of two values that were pushed one is left, and `x` drops it and opens a definition. -/
def oneLeft : Machine :=
  ⟨Chain.nil.push 3, .evaluating,
    Dictionary.empty.insert ['x'] ['d', 'r', 'o', 'p', ' ', ':']⟩

/-- The program `x 7` gives a number where a name is awaited. -/
theorem eval_fails_as_stated_oneLeft :
    oneLeft.chain.Built ∧
      oneLeft.eval 1 ['x', ' ', '7'] = .error (.failure (.word .invalidWord)) ∧
      ∃ k word, ComesTo oneLeft.interpreter ['x', ' ', '7'] k word ∧ k.mode = .awaitingName ∧
        k.act word = .error (.word .invalidWord) := by
  have hpop : ((Chain.nil.push 3).push 4).pop 1 = .ok ([4], oneLeft.chain) := rfl
  have hbuilt : oneLeft.chain.Built := ((Chain.Built.nil.push 3).push 4).pop hpop
  have heval : oneLeft.eval 1 ['x', ' ', '7'] = .error (.failure (.word .invalidWord)) := by
    decide +kernel
  rcases eval_fails_as_stated hbuilt 1 ['x', ' ', '7'] with
    ⟨m', hm', -⟩ | ⟨e, hm, -, hfails⟩
  · exact absurd (heval.symm.trans hm') (by simp)
  obtain rfl : .word .invalidWord = e :=
    Trouble.failure.inj (Except.error.inj (heval.symm.trans hm))
  rcases hfails with hdeep | ⟨k, word, hcomes, hact, hmodes⟩
  · exact absurd hdeep (by simp)
  · refine ⟨hbuilt, heval, k, word, hcomes, ?_, hact⟩
    simpa using hmodes

end Machine

end ColonForth
