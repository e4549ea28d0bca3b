import ColonForth.Proofs.FlatSession
import Mathlib.Algebra.Ring.Nat

/-!
# The printed stack

A stack is printed as its values in decimal, bottom first.  It can be printed if none of them has
too many digits (`IsWritable`), and what is printed is then a program: evaluated by any
interpreter, whatever words are defined, it pushes the same values in the same order.

* `read_ofInt`: an integer that can be written is read back.  The bound on what is written is a
  bound on the size of the integer, the bound on what is read is one on the number of digits, and
  the two meet (`length_ofNat_le_iff`).
* `outcome_steps_ofInt`: integers in decimal, one after the other, are pushed.
* `formatStack_rebuilds`: printing and evaluating what was printed.
-/

namespace ColonForth

/-! ## Integers in decimal -/

namespace Decimal

lemma writeBound_eq_pow {k : Nat} (hk : digitLimit = k) : writeBound = 10 ^ k := by
  unfold writeBound
  rw [hk]
  rfl

/-- The bound on what is written, as a power of ten. -/
lemma writeBound_eq : writeBound = 10 ^ 4300 := @writeBound_eq_pow 4300 rfl

/-- A number has few digits exactly if it is small. -/
lemma length_ofNat_le_iff (n : Nat) : (ofNat n).length ≤ digitLimit ↔ n < writeBound := by
  rw [writeBound_eq_pow rfl]
  exact Nat.length_toDigits_le_iff (by decide) (by decide)

lemma valueOf_ofNat (n : Nat) : Literal.valueOf (ofNat n) = n := Nat.ofDigitChars_ten_toDigits

lemma ofNat_ne_nil (n : Nat) : ofNat n ≠ [] := Nat.toDigits_ne_nil

lemma isDigit_of_mem_ofNat {n : Nat} : ∀ c ∈ ofNat n, Literal.isDigit c = true :=
  fun _ hc => Nat.isDigit_of_mem_toDigits (by decide) (by decide) hc

lemma ofInt_eq (n : Int) : ofInt n = (if n < 0 then ['-'] else []) ++ ofNat n.natAbs := by
  unfold ofInt
  split
  · rfl
  · rfl

lemma isLiteral_ofInt (n : Int) : IsLiteral (ofInt n) := by
  refine ⟨if n < 0 then ['-'] else [], ofNat n.natAbs, ?_, ofNat_ne_nil _, isDigit_of_mem_ofNat,
    ofInt_eq n⟩
  split
  · exact Or.inr (Or.inr rfl)
  · exact Or.inl rfl

/-- **An integer that can be written is read back.** -/
theorem read_ofInt {n : Int} (h : n.natAbs < writeBound) :
    Literal.read (ofInt n) = .ok (some n) := by
  have hshort : ¬ digitLimit < (ofNat n.natAbs).length :=
    Nat.not_lt.2 ((length_ofNat_le_iff _).2 h)
  by_cases hneg : n < 0
  · have hvalue : -(n.natAbs : Int) = n := by omega
    rw [ofInt_eq, if_pos hneg, Literal.read_sign_append (Or.inr (Or.inr rfl)) (ofNat_ne_nil _)
      isDigit_of_mem_ofNat, if_neg hshort, if_pos rfl, valueOf_ofNat, hvalue]
  · have hvalue : (n.natAbs : Int) = n := by omega
    rw [ofInt_eq, if_neg hneg, Literal.read_sign_append (Or.inl rfl) (ofNat_ne_nil _)
      isDigit_of_mem_ofNat, if_neg hshort, if_neg (by simp), valueOf_ofNat, hvalue]

/-- Integers are written as they are, if none of them has too many digits. -/
lemma writeAll_of_lt {ns : List Int} (h : ∀ n ∈ ns, n.natAbs < writeBound) :
    writeAll ns = .ok (ns.map ofInt) := by
  induction ns with
  | nil => rfl
  | cons n rest ih =>
    rw [List.forall_mem_cons] at h
    rw [writeAll, write, if_pos h.1, ih h.2]
    rfl

lemma writeAll_of_le {ns : List Int} (h : ∃ n ∈ ns, writeBound ≤ n.natAbs) :
    writeAll ns = .error .valueTooLong := by
  induction ns with
  | nil => exact absurd h (by simp)
  | cons n rest ih =>
    rw [writeAll, write]
    by_cases hn : n.natAbs < writeBound
    · rw [List.exists_mem_cons_iff] at h
      rw [if_pos hn, ih (h.resolve_left (Nat.not_le.2 hn))]
      rfl
    · rw [if_neg hn]

end Decimal

/-! ## Writing the stack -/

namespace Interpreter

/-- No value on the stack has too many digits to be written. -/
def IsWritable (i : Interpreter) : Prop := ∀ n ∈ i.stack.toList, n.natAbs < writeBound

instance (i : Interpreter) : Decidable i.IsWritable := List.decidableBAll _ _

/-- The stack in decimal, bottom first, however long its values are. -/
def stackWritten (i : Interpreter) : Text := Text.spaced (i.stack.toList.reverse.map Decimal.ofInt)

variable {i : Interpreter}

lemma isWritable_new : new.IsWritable := fun _ h => absurd h List.not_mem_nil

lemma formatStack_of_isWritable (h : i.IsWritable) : i.formatStack = .ok i.stackWritten := by
  have hall : ∀ n ∈ i.stack.items.reverse, n.natAbs < writeBound :=
    fun n hn => h n (List.mem_reverse.1 hn)
  rw [formatStack, Stack.format, Decimal.writeAll_of_lt hall]
  rfl

lemma formatStack_of_not_isWritable (h : ¬ i.IsWritable) :
    i.formatStack = .error .valueTooLong := by
  have hlong : ∃ n ∈ i.stack.items.reverse, writeBound ≤ n.natAbs := by
    simpa [IsWritable, Stack.toList] using h
  rw [formatStack, Stack.format, Decimal.writeAll_of_le hlong]
  rfl

/-! ## Evaluating what was written -/

/-- An integer in decimal is pushed, whatever is defined: literals come before definitions. -/
lemma outcome_step_ofInt (expand : Interpreter → Text → Run) (hmode : i.mode = .evaluating)
    {n : Int} (hn : n.natAbs < writeBound) :
    (step expand i (Decimal.ofInt n)).outcome = .ok (i.push n) := by
  have hword := (Decimal.isLiteral_ofInt n).isWord
  rw [step_of_evaluating expand hword.ne_nil hmode, Traced.outcome_onFailure, perform,
    meaning_of_read hword.ne_colon (Decimal.read_ofInt hn)]
  rfl

/-- **Integers in decimal are pushed one after the other.** -/
theorem outcome_steps_ofInt (expand : Interpreter → Text → Run) (hmode : i.mode = .evaluating)
    {ns : List Int} (hns : ∀ n ∈ ns, n.natAbs < writeBound) :
    (steps expand (ns.map Decimal.ofInt) i).outcome =
      .ok { i with stack := i.stack.pushAll ns } := by
  induction ns generalizing i with
  | nil => rfl
  | cons n rest ih =>
    rw [List.forall_mem_cons] at hns
    have hpush : (i.push n).mode = .evaluating := hmode
    rw [List.map_cons, outcome_steps_of_ok (outcome_step_ofInt expand hmode hns.1),
      ih hpush hns.2]
    rfl

lemma outcome_eval_stackWritten (h : i.IsWritable) (limit : Nat) {j : Interpreter}
    (hmode : j.mode = .evaluating) :
    (eval limit j i.stackWritten).outcome =
      .ok { j with stack := j.stack.pushAll i.stack.toList.reverse } := by
  have hwords : ∀ t ∈ i.stack.toList.reverse.map Decimal.ofInt, IsWord t := by
    intro t ht
    obtain ⟨n, -, rfl⟩ := List.mem_map.1 ht
    exact (Decimal.isLiteral_ofInt n).isWord
  have hall : ∀ n ∈ i.stack.toList.reverse, n.natAbs < writeBound :=
    fun n hn => h n (List.mem_reverse.1 hn)
  rw [stackWritten, outcome_eval_spaced limit j hwords, outcome_steps_ofInt _ hmode hall]

/-- The values of a stack, bottom first, make the same stack again. -/
lemma pushAll_reverse_toList (s : Stack Int) : Stack.empty.pushAll s.toList.reverse = s := by
  refine Stack.ext_toList ?_
  rw [Stack.toList_pushAll, List.reverse_reverse, Stack.toList_empty, List.append_nil]

/-- **The printed stack is a program that rebuilds the stack.**  Printing fails exactly if a value
on the stack has 10 ^ 4300 or more as its absolute value.  Otherwise what is printed, evaluated by
the new interpreter, leaves a stack with the same values, nothing defined and evaluation going on;
and evaluated by any interpreter that is evaluating, whatever its table, it pushes these values,
bottom first, and changes nothing else. -/
theorem formatStack_rebuilds (i : Interpreter) :
    (i.formatStack = .error .valueTooLong ↔ ∃ n ∈ i.stack.toList, 10 ^ 4300 ≤ n.natAbs) ∧
    ((∀ n ∈ i.stack.toList, n.natAbs < 10 ^ 4300) → ∃ text, i.formatStack = .ok text ∧
      (∀ limit, (eval limit new text).outcome = .ok ⟨i.stack, .evaluating, Dictionary.empty⟩) ∧
      ∀ (limit : Nat) (j : Interpreter), j.mode = .evaluating →
        (eval limit j text).outcome =
          .ok { j with stack := j.stack.pushAll i.stack.toList.reverse }) := by
  rw [← Decimal.writeBound_eq]
  refine ⟨⟨fun hfail => ?_, fun hlong => ?_⟩, fun hshort => ?_⟩
  · by_contra hshort
    have hwritable : i.IsWritable := by
      simpa [IsWritable] using hshort
    rw [formatStack_of_isWritable hwritable] at hfail
    exact absurd hfail (by simp)
  · obtain ⟨n, hn, hbound⟩ := hlong
    exact formatStack_of_not_isWritable fun h => Nat.not_lt.2 hbound (h n hn)
  · refine ⟨i.stackWritten, formatStack_of_isWritable hshort, fun limit => ?_,
      fun limit j hmode => outcome_eval_stackWritten hshort limit hmode⟩
    have hstack : new.stack.pushAll i.stack.toList.reverse = i.stack :=
      pushAll_reverse_toList i.stack
    rw [outcome_eval_stackWritten hshort limit rfl, hstack]
    rfl

/-- Three values, in the middle of a definition. -/
def threeValues : Interpreter :=
  ⟨Stack.ofList [-12, 0, 7], .capturing ['x'] ['1'], Dictionary.empty⟩

/-- One value, and a table that gives the text `7` a body. -/
def sevenDefined : Interpreter :=
  ⟨Stack.ofList [5], .evaluating, Dictionary.empty.insert ['7'] ['d', 'r', 'o', 'p']⟩

/-- The three values are printed as `7 0 -12`, and pushed where `7` has a body as anywhere. -/
theorem formatStack_rebuilds_threeValues :
    threeValues.formatStack = .ok ['7', ' ', '0', ' ', '-', '1', '2'] ∧
      (eval 0 new ['7', ' ', '0', ' ', '-', '1', '2']).outcome =
        .ok ⟨threeValues.stack, .evaluating, Dictionary.empty⟩ ∧
      (eval 0 sevenDefined ['7', ' ', '0', ' ', '-', '1', '2']).outcome =
        .ok { sevenDefined with stack := Stack.ofList [-12, 0, 7, 5] } := by
  have hshort : ∀ n ∈ threeValues.stack.toList, n.natAbs < 10 ^ 4300 := by decide +kernel
  have hprinted : threeValues.formatStack = .ok ['7', ' ', '0', ' ', '-', '1', '2'] := by
    decide +kernel
  obtain ⟨text, htext, hnew, hany⟩ := (formatStack_rebuilds threeValues).2 hshort
  obtain rfl := Except.ok.inj (hprinted.symm.trans htext)
  exact ⟨hprinted, hnew 0, hany 0 sevenDefined rfl⟩

end Interpreter

end ColonForth
