import ColonForth.Proofs.PrintedStack

/-!
# Arithmetic expressions

An expression is a tree of integers and arithmetic operators.  Its program writes the left operand,
the right operand and then the operator, so that every operator finds its operands on top of the
stack.  Evaluating the program computes the expression: it pushes the value, or it fails for a
division by zero if some divisor is zero, and there is no other way for it to end.

* `value`, `DividesByZero`: what an expression stands for, and whether it stands for anything.  The
  value is a total function, so a quotient by zero has some value too; nothing depends on it, as
  the expression divides by zero then.
* `outcome_steps_words`: the words of an expression, whatever lies on the stack below its value and
  whatever words follow.
* `eval_program`: the program as a whole.
-/

namespace ColonForth

open Text

/-- A tree of integers and arithmetic operators. -/
inductive Expression where
  /-- An integer. -/
  | constant (n : Int)
  /-- An operator between two operands. -/
  | binary (o : Operator) (left right : Expression)
deriving DecidableEq, Repr

namespace Expression

/-- The integers at the leaves, from left to right. -/
def constants : Expression → List Int
  | constant n => [n]
  | binary _ left right => left.constants ++ right.constants

/-- The value in unbounded integers; quotients are cut toward zero. -/
def value : Expression → Int
  | constant n => n
  | binary .add left right => left.value + right.value
  | binary .subtract left right => left.value - right.value
  | binary .multiply left right => left.value * right.value
  | binary .divide left right => left.value.tdiv right.value

/-- Some quotient in the tree has a divisor whose value is zero. -/
def DividesByZero : Expression → Prop
  | constant _ => False
  | binary o left right =>
    left.DividesByZero ∨ right.DividesByZero ∨ o = .divide ∧ right.value = 0

@[simp] lemma not_dividesByZero_constant (n : Int) : ¬ (constant n).DividesByZero := id

@[simp] lemma dividesByZero_binary {o : Operator} {left right : Expression} :
    (binary o left right).DividesByZero ↔
      left.DividesByZero ∨ right.DividesByZero ∨ o = .divide ∧ right.value = 0 := Iff.rfl

instance decidableDividesByZero : (e : Expression) → Decidable e.DividesByZero
  | constant _ => isFalse id
  | binary o left right =>
    have := decidableDividesByZero left
    have := decidableDividesByZero right
    inferInstanceAs
      (Decidable (left.DividesByZero ∨ right.DividesByZero ∨ o = .divide ∧ right.value = 0))

/-- The words of an expression: both operands, then the operator. -/
def words : Expression → List Text
  | constant n => [Decimal.ofInt n]
  | binary o left right => left.words ++ right.words ++ [o.name]

/-- The program that computes an expression. -/
def program (e : Expression) : Text := spaced e.words

/-- They are words of programs, literals or arithmetic ones. -/
lemma isWord_of_mem_words {e : Expression} {t : Text} (h : t ∈ e.words) : IsWord t := by
  induction e with
  | constant n =>
    rw [List.mem_singleton.1 h]
    exact (Decimal.isLiteral_ofInt n).isWord
  | binary o left right ihleft ihright =>
    rw [words, List.mem_append, List.mem_append, List.mem_singleton] at h
    rcases h with (h | h) | rfl
    · exact ihleft h
    · exact ihright h
    · exact (Primitive.arithmetic o).isWord_name

/-- What an operator makes of the values of its operands. -/
lemma apply_value (o : Operator) (left right : Expression) :
    o.apply left.value right.value =
      if o = .divide ∧ right.value = 0 then .error .divisionByZero
      else .ok (binary o left right).value := by
  cases o with
  | add => rfl
  | subtract => rfl
  | multiply => rfl
  | divide => simp [Operator.apply, value]

end Expression

/-- An operator takes the two values that were pushed last, the later one as its right operand. -/
lemma Operator.run_push_push (o : Operator) (s : Stack Int) (a b : Int) :
    o.run ((s.push a).push b) = (o.apply a b).map s.push := by
  have hstack : (s.push a).push b = Stack.ofList ([b, a] ++ s.toList) := Stack.ext_toList rfl
  have hrun : o.run (Stack.ofList ([b, a] ++ s.toList)) =
      ((o.apply a b).map fun n => [n]).map fun top => Stack.ofList (top ++ s.toList) :=
    @Primitive.run_append (.arithmetic o) [b, a] rfl s.toList
  rw [hstack, hrun]
  cases o.apply a b with
  | ok n => exact congrArg Except.ok (Stack.ext_toList rfl)
  | error e => rfl

namespace Interpreter

variable {i : Interpreter} {e : Expression}

/-- Evaluation goes on, and no arithmetic word is defined. -/
structure Calculates (i : Interpreter) : Prop where
  /-- Words are evaluated. -/
  mode : i.mode = .evaluating
  /-- The arithmetic words have their own meaning. -/
  lookup : ∀ o : Operator, i.definitions.lookup o.name = none

lemma Calculates.push (h : i.Calculates) (n : Int) : (i.push n).Calculates := ⟨h.mode, h.lookup⟩

/-- An operator computes on the two values that were pushed last. -/
lemma Calculates.outcome_step (h : i.Calculates) (expand : Interpreter → Text → Run)
    (o : Operator) (a b : Int) :
    (step expand ((i.push a).push b) o.name).outcome =
      match o.apply a b with
      | .ok n => .ok (i.push n)
      | .error e => .error (.word e) := by
  have hword : o.name ≠ [] := (Primitive.arithmetic o).isWord_name.ne_nil
  have hmeaning : ((i.push a).push b).meaning o.name = .ok (.primitive (.arithmetic o)) :=
    meaning_name (p := .arithmetic o) (h.lookup o)
  have hmode : ((i.push a).push b).mode = .evaluating := h.mode
  have hrun : (Primitive.arithmetic o).run ((i.push a).push b).stack =
      (o.apply a b).map i.stack.push := o.run_push_push i.stack a b
  rw [step_of_evaluating expand hword hmode, Traced.outcome_onFailure, perform, hmeaning]
  simp only [hrun]
  cases o.apply a b with
  | ok n => rfl
  | error e => rfl

/-- **The words of an expression push its value and go on**, or fail if some divisor is zero. -/
theorem outcome_steps_words (expand : Interpreter → Text → Run) (h : i.Calculates)
    (hconst : ∀ n ∈ e.constants, n.natAbs < writeBound) (rest : List Text) :
    (steps expand (e.words ++ rest) i).outcome =
      if e.DividesByZero then .error (.word .divisionByZero)
      else (steps expand rest (i.push e.value)).outcome := by
  -- what lies on the stack and what follows are arbitrary, as an operand stands before others
  induction e generalizing i rest with
  | constant n =>
    have hn : n.natAbs < writeBound := hconst n List.mem_cons_self
    rw [if_neg (Expression.not_dividesByZero_constant n)]
    exact outcome_steps_of_ok (outcome_step_ofInt expand h.mode hn)
  | binary o left right ihleft ihright =>
    rw [Expression.constants, List.forall_mem_append] at hconst
    obtain ⟨hleft, hright⟩ := hconst
    rw [Expression.words, List.append_assoc, List.append_assoc, ihleft h hleft]
    by_cases hzero : left.DividesByZero
    · simp [hzero]
    rw [if_neg hzero, ihright (h.push _) hright]
    by_cases hzero' : right.DividesByZero
    · simp [hzero']
    rw [if_neg hzero', List.singleton_append]
    -- both values are on the stack, and the operator is next
    have hstep := h.outcome_step expand o left.value right.value
    rw [Expression.apply_value] at hstep
    by_cases hdivisor : o = .divide ∧ right.value = 0
    · have hall : (Expression.binary o left right).DividesByZero := Or.inr (Or.inr hdivisor)
      rw [if_pos hdivisor] at hstep
      rw [outcome_steps_of_error hstep, if_pos hall]
    · have hnone : ¬ (Expression.binary o left right).DividesByZero := by
        simp [hzero, hzero', hdivisor]
      rw [if_neg hdivisor] at hstep
      rw [outcome_steps_of_ok hstep, if_neg hnone]

/-- **The program of an expression computes it.**  Where no arithmetic word is defined, and the
integers in the expression are less than 10 ^ 4300 in absolute value, evaluation succeeds exactly
if no divisor is zero.  It has then pushed the value of the expression, and changed nothing else;
otherwise it has failed for a division by zero. -/
theorem eval_program (hmode : i.mode = .evaluating)
    (hlook : ∀ o : Operator, i.definitions.lookup o.name = none) (e : Expression)
    (hconst : ∀ n ∈ e.constants, n.natAbs < 10 ^ 4300) (limit : Nat) :
    ((∃ j, (eval limit i e.program).outcome = .ok j) ↔ ¬ e.DividesByZero) ∧
      (¬ e.DividesByZero → (eval limit i e.program).outcome = .ok (i.push e.value)) ∧
      (e.DividesByZero → (eval limit i e.program).outcome = .error (.word .divisionByZero)) := by
  rw [← Decimal.writeBound_eq] at hconst
  have hall := outcome_steps_words (inner limit) ⟨hmode, hlook⟩ hconst []
  rw [List.append_nil, outcome_steps_nil,
    ← outcome_eval_spaced limit i fun t => Expression.isWord_of_mem_words] at hall
  rw [Expression.program, hall]
  by_cases hzero : e.DividesByZero
  · simp [hzero]
  · simp [hzero]

/-- One value, and a body for a word that is not an arithmetic one. -/
def oneValue : Interpreter :=
  ⟨Stack.ofList [4], .evaluating, Dictionary.empty.insert ['d', 'u', 'p'] []⟩

/-- The expression -7 / (2 - -1), whose quotient is cut toward zero. -/
def cutQuotient : Expression :=
  .binary .divide (.constant (-7)) (.binary .subtract (.constant 2) (.constant (-1)))

/-- The program `-7 2 -1 - /` pushes -2 on top of the value that is there, and `1 -7 2 -1 - / 0 / +`
fails for the one divisor that is zero. -/
theorem eval_program_cutQuotient :
    cutQuotient.program = ['-', '7', ' ', '2', ' ', '-', '1', ' ', '-', ' ', '/'] ∧
      ¬ cutQuotient.DividesByZero ∧
      (eval 0 oneValue cutQuotient.program).outcome =
        .ok { oneValue with stack := Stack.ofList [-2, 4] } ∧
      (eval 0 oneValue (Expression.program (.binary .add (.constant 1)
        (.binary .divide cutQuotient (.constant 0))))).outcome =
          .error (.word .divisionByZero) := by
  have hlook : ∀ o : Operator, oneValue.definitions.lookup o.name = none := by
    intro o
    cases o with
    | add => rfl
    | subtract => rfl
    | multiply => rfl
    | divide => rfl
  have hzero : ¬ cutQuotient.DividesByZero := by decide
  refine ⟨by decide, hzero, ?_, ?_⟩
  · exact (eval_program rfl hlook cutQuotient (by decide +kernel) 0).2.1 hzero
  · exact (eval_program rfl hlook _ (by decide +kernel) 0).2.2 (by decide)

end Interpreter

end ColonForth
