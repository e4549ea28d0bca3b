import ColonForth.Proofs.Simulation
import ColonForth.Proofs.StackEffects

/-!
# What a run sees of the stack

A word looks at the top of the stack only, and it looks at it for the values that it computes with:
which words are run, what is defined and what a word stands for do not depend on the stack.  So two
interpreters that differ in their stacks stay in step for as long as the built-in words keep their
stacks related (`simulatesUnless_alike`).  Two relations between stacks are kept in this way:

* one stack is the other with further values below its bottom.  A run on the shorter one is a run
  on the longer one, unless it fails for want of values (`eval_onto`);
* the stacks have the same depth.  The runs have the same course, unless one of them divides by
  zero (`eval_of_depth_eq`).
-/

namespace ColonForth

/-- The stack with further values below its bottom, given from the top down. -/
def Stack.onto (s : Stack Int) (below : List Int) : Stack Int := .ofList (s.toList ++ below)

@[simp] lemma Stack.toList_onto (s : Stack Int) (below : List Int) :
    (s.onto below).toList = s.toList ++ below := rfl

namespace Interpreter

variable {E E' : Failure → Prop} {S : Stack Int → Stack Int → Prop}
  {T : Dictionary → Dictionary → Prop} {i i' : Interpreter}

/-- **Runs that differ in related stacks stay in step**, or one of them is excused.  Their tables
may differ too, as long as they have the same bodies and storing a definition in both keeps them
related. -/
theorem simulatesUnless_alike (hS : StackRelation E E' S)
    (hlookup : ∀ {D D' : Dictionary}, T D D' → ∀ name, D.lookup name = D'.lookup name)
    (hinsert : ∀ {D D' : Dictionary} (name body : Text), T D D' →
      T (D.insert name body) (D'.insert name body)) :
    SimulatesUnless E E' fun _ => Alike S T := by
  refine ⟨?_, ?_⟩
  · intro word queue i i' h hexp
    refine ⟨?_, h.act hS hinsert fun _ => hlookup h.table word⟩
    rw [← h.expansion? fun _ => hlookup h.table word, hexp]
  · intro word body queue i i' h hexp
    refine ⟨?_, h⟩
    rw [← h.expansion? fun _ => hlookup h.table word, hexp]

/-! ## Values below the bottom -/

/-- The interpreter with further values below the bottom of its stack. -/
def onto (i : Interpreter) (below : List Int) : Interpreter :=
  { i with stack := i.stack.onto below }

/-- An interpreter that differs by values below the bottom is the interpreter with these values
there. -/
lemma Alike.eq_onto {below : List Int}
    (h : Alike (fun s s' => s' = s.onto below) (· = ·) i i') : i' = i.onto below := by
  obtain ⟨stack, mode, definitions⟩ := i
  obtain ⟨stack', mode', definitions'⟩ := i'
  obtain ⟨rfl, rfl, rfl⟩ := h
  rfl

/-- Built-in words do not see what is below the values that they take, unless there are too few of
them. -/
lemma stackRelation_onto (below : List Int) :
    StackRelation (fun e => e = .word .stackUnderflow) (fun _ => False)
      fun s s' => s' = s.onto below := by
  refine ⟨?_, ?_⟩
  · rintro s _ rfl n
    exact Stack.ext_toList rfl
  · rintro s _ rfl p
    by_cases hdepth : s.depth < p.takes
    · rw [Primitive.run_of_lt hdepth]
      refine .left ?_ _
      rfl
    · obtain ⟨values, rest, hvalues, rfl⟩ := Stack.exists_split (Nat.not_lt.1 hdepth)
      have honto : (Stack.ofList (values ++ rest)).onto below =
          Stack.ofList (values ++ (rest ++ below)) :=
        Stack.ext_toList (by simp)
      rw [honto, Primitive.run_append hvalues, Primitive.run_append hvalues]
      cases p.effect values with
      | error e => exact .error e
      | ok top => exact .ok (Stack.ext_toList (List.append_assoc top rest below).symm)

/-- **A run does not see what is below the bottom of the stack it needs.**  With further values
there, a program that goes well goes well and leaves them where they are, and a program that fails
for another reason than want of values fails for the same reason. -/
theorem eval_onto (limit : Nat) (i : Interpreter) (program : Text) (below : List Int) :
    (∀ j, (eval limit i program).outcome = .ok j →
      (eval limit (i.onto below) program).outcome = .ok (j.onto below)) ∧
    ∀ e, (eval limit i program).outcome = .error e → e ≠ .word .stackUnderflow →
      (eval limit (i.onto below) program).outcome = .error e := by
  have hagree : AgreeUnless (fun e => e = .word .stackUnderflow) (fun _ => False)
      (Alike (fun s s' => s' = s.onto below) (· = ·)) (eval limit i program).outcome
      (eval limit (i.onto below) program).outcome :=
    (simulatesUnless_alike (T := (· = ·)) (stackRelation_onto below) (fun hD _ => hD ▸ rfl)
      fun _ _ hD => hD ▸ rfl).eval limit ⟨rfl, rfl, rfl⟩
  refine ⟨fun j hj => ?_, fun e he hne => ?_⟩
  · rw [hj] at hagree
    generalize (eval limit (i.onto below) program).outcome = r at hagree ⊢
    cases hagree with
    | ok h => rw [h.eq_onto]
    | right he => exact he.elim
  · rw [he] at hagree
    generalize (eval limit (i.onto below) program).outcome = r at hagree ⊢
    cases hagree with
    | error => rfl
    | left he => exact absurd he hne
    | right he => exact he.elim

/-- The program `: q / ; q dup`, which defines a word that divides, runs it and copies the
quotient. -/
def quotientTwice : Text :=
  [':', ' ', 'q', ' ', '/', ' ', ';', ' ', 'q', ' ', 'd', 'u', 'p']

/-- Above 5 and 0 the program divides 7 by 2 as it does on a stack of its own, and leaves 5 and 0
alone; a division by zero fails above them as it does on a stack of its own. -/
theorem eval_onto_quotientTwice :
    (eval 1 { new with stack := .ofList [2, 7] } quotientTwice).outcome =
        .ok { new.define ['q'] ['/'] with stack := .ofList [3, 3] } ∧
      (eval 1 (onto { new with stack := .ofList [2, 7] } [5, 0]) quotientTwice).outcome =
        .ok (onto { new.define ['q'] ['/'] with stack := .ofList [3, 3] } [5, 0]) ∧
      (eval 1 { new with stack := .ofList [0, 7] } quotientTwice).outcome =
        .error (.word .divisionByZero) ∧
      (eval 1 (onto { new with stack := .ofList [0, 7] } [5, 0]) quotientTwice).outcome =
        .error (.word .divisionByZero) := by
  have hok : (eval 1 { new with stack := .ofList [2, 7] } quotientTwice).outcome =
      .ok { new.define ['q'] ['/'] with stack := .ofList [3, 3] } := by decide +kernel
  have herror : (eval 1 { new with stack := .ofList [0, 7] } quotientTwice).outcome =
      .error (.word .divisionByZero) := by decide +kernel
  exact ⟨hok, (eval_onto 1 _ _ [5, 0]).1 _ hok, herror,
    (eval_onto 1 _ _ [5, 0]).2 _ herror (by decide)⟩

/-! ## Stacks of the same depth -/

/-- What built-in words do to the depth of a stack does not depend on its values, unless a divisor
is zero. -/
lemma stackRelation_depth :
    StackRelation (fun e => e = .word .divisionByZero) (fun e => e = .word .divisionByZero)
      fun s s' => s.depth = s'.depth := by
  refine ⟨fun h n => congrArg (· + 1) h, fun {s s'} h p => ?_⟩
  by_cases hdepth : s.depth < p.takes
  · rw [Primitive.run_of_lt hdepth, Primitive.run_of_lt (h ▸ hdepth)]
    exact .error _
  · obtain ⟨values, rest, hvalues, rfl⟩ := Stack.exists_split (Nat.not_lt.1 hdepth)
    obtain ⟨values', rest', hvalues', rfl⟩ := Stack.exists_split (Nat.not_lt.1 (h ▸ hdepth))
    have hrest : rest.length = rest'.length := by
      simp only [Stack.depth_eq_length_toList, Stack.toList_ofList, List.length_append] at h
      omega
    rw [Primitive.run_append hvalues, Primitive.run_append hvalues']
    rcases Primitive.effect_cases hvalues with ⟨top, htop, hleft⟩ | hzero
    · rcases Primitive.effect_cases hvalues' with ⟨top', htop', hleft'⟩ | hzero'
      · rw [htop, htop']
        refine .ok ?_
        simp only [Stack.depth_eq_length_toList, Stack.toList_ofList, List.length_append]
        omega
      · rw [hzero']
        refine .right ?_ _
        rfl
    · rw [hzero]
      refine .left ?_ _
      rfl

/-- **Values on the stack do not influence the course of a run.**  Two interpreters that have the
same bodies for all names, in whatever order these were defined, and differ only in the values on
stacks of the same depth run a program to the same failure, or to interpreters that again differ
only in this way, unless one of them divides by zero.  If their tables are equal, order and all,
they are equal again. -/
theorem eval_of_depth_eq {limit : Nat} {program : Text}
    (hdepth : i.stack.depth = i'.stack.depth) (hmode : i.mode = i'.mode)
    (hdefinitions : ∀ name, i.definitions.lookup name = i'.definitions.lookup name)
    (hi : (eval limit i program).outcome ≠ .error (.word .divisionByZero))
    (hi' : (eval limit i' program).outcome ≠ .error (.word .divisionByZero)) :
    Agree (fun j j' => j.mode = j'.mode ∧
        (∀ name, j.definitions.lookup name = j'.definitions.lookup name) ∧
        (i.definitions = i'.definitions → j.definitions = j'.definitions) ∧
        j.stack.depth = j'.stack.depth)
      (eval limit i program).outcome (eval limit i' program).outcome := by
  have hsimulates : SimulatesUnless (fun e => e = .word .divisionByZero)
      (fun e => e = .word .divisionByZero) fun _ => Alike (fun s s' => s.depth = s'.depth)
        fun D D' => (∀ name, D.lookup name = D'.lookup name) ∧
          (i.definitions = i'.definitions → D = D') := by
    refine simulatesUnless_alike stackRelation_depth (fun hD => hD.1) fun name body hD => ⟨?_, ?_⟩
    · exact fun t => Dictionary.lookup_insert_congr name body fun _ => hD.1 t
    · exact fun h => hD.2 h ▸ rfl
  have hunless : AgreeUnless _ _ _ (eval limit i program).outcome (eval limit i' program).outcome :=
    hsimulates.eval limit ⟨hdepth, hmode, hdefinitions, id⟩
  have hagree := hunless.agree (fun e he => he ▸ hi) (fun e he => he ▸ hi')
  exact hagree.imp fun j j' _ _ h => ⟨h.mode, h.table.1, h.table.2, h.stack⟩

/-- Dividing 7 by 2 and dividing -9 by 5 have the same course: both define the same word and leave
two values. -/
theorem eval_of_depth_eq_quotientTwice :
    (eval 1 { new with stack := .ofList [2, 7] } quotientTwice).outcome =
        .ok { new.define ['q'] ['/'] with stack := .ofList [3, 3] } ∧
      (eval 1 { new with stack := .ofList [5, -9] } quotientTwice).outcome ≠
        .error (.word .divisionByZero) ∧
      Agree (fun j j' => j.mode = j'.mode ∧ j.definitions = j'.definitions ∧
          j.stack.depth = j'.stack.depth)
        (eval 1 { new with stack := .ofList [2, 7] } quotientTwice).outcome
        (eval 1 { new with stack := .ofList [5, -9] } quotientTwice).outcome := by
  have hleft : (eval 1 { new with stack := .ofList [2, 7] } quotientTwice).outcome =
      .ok { new.define ['q'] ['/'] with stack := .ofList [3, 3] } := by decide +kernel
  have hright : (eval 1 { new with stack := .ofList [5, -9] } quotientTwice).outcome ≠
      .error (.word .divisionByZero) := by decide +kernel
  have hagree := @eval_of_depth_eq { new with stack := .ofList [2, 7] }
    { new with stack := .ofList [5, -9] } 1 quotientTwice rfl rfl (fun _ => rfl) (by simp [hleft])
    hright
  exact ⟨hleft, hright, hagree.imp fun j j' _ _ h => ⟨h.1, h.2.2.1 rfl, h.2.2.2⟩⟩

end Interpreter

end ColonForth
