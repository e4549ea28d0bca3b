import ColonForth.Proofs.Chain
import ColonForth.Proofs.Stepping

/-!
# A machine with partial operations

Evaluation on a `Stack` needs no guards: an operation that cannot be done gives nothing, and the
word fails.  Here evaluation is done on a linked stack, whose operations must not be used where they
cannot be done.  The words guard them: a word asks for the length first (`require`), and a table is
asked whether it has a word before the word is looked up in it.  A guard that is missing, or that
asks for too little, would let a `Misuse` come out.

* `applyOperator`, `applyShuffle`: the built-in words with their guards.
* `Machine.eval`: evaluation with these words.
* `Follows`: two outcomes agree, and there is no misuse.
* `follows_eval`: from a stack that was built by pushing and popping, the machine follows
  evaluation to its end, whatever the mode, the table and the program are.
-/

namespace ColonForth

/-- Why the machine breaks off. -/
inductive Trouble where
  /-- The evaluation fails. -/
  | failure (e : Failure)
  /-- An operation is used where it cannot be done. -/
  | misuse (m : Misuse)
deriving DecidableEq, Repr

/-- The outcome of the machine agrees with that of an evaluation: the same failure, or results
related by `R`.  No misuse agrees with anything. -/
inductive Follows {α β : Type} (R : α → β → Prop) : Except Trouble α → Except Failure β → Prop
  /-- Both go well. -/
  | ok {a : α} {b : β} (h : R a b) : Follows R (.ok a) (.ok b)
  /-- Both fail, and alike. -/
  | failure (e : Failure) : Follows R (.error (.failure e)) (.error e)

/-! ## Words with guards -/

/-- An operation that is trusted to go well. -/
def trust {α : Type} (x : Except Misuse α) : Except Trouble α := x.mapError .misuse

/-- A word fails for want of items. -/
def underflow : Trouble := .failure (.word .stackUnderflow)

/-- The guard of the words: at least `n` items are noted. -/
def require (n : Nat) (c : Chain Int) : Except Trouble Unit :=
  if c.len < n then .error underflow else .ok ()

/-- The arithmetic word of the given name, which is looked up when its operands are there. -/
def applyOperator (name : Text) (c : Chain Int) : Except Trouble (Chain Int) := do
  require 2 c
  match ← trust (c.pop 2) with
  | ([first, second], rest) =>
    match Operator.ofName? name with
    | some o =>
      match o.apply second first with
      | .ok n => return rest.push n
      | .error e => .error (.failure (.word e))
    | none => .error (.misuse .noSuchWord)
  | _ => .error (.misuse .wrongCount)

/-- A shuffle word. -/
def Shuffle.apply : Shuffle → Chain Int → Except Trouble (Chain Int)
  | .dup, c => do
    require 1 c
    let x ← trust (c.get 0)
    return c.push x
  | .drop, c => do
    require 1 c
    let (_, rest) ← trust (c.pop 1)
    return rest
  | .swap, c => do
    require 2 c
    match ← trust (c.pop 2) with
    | ([y, x], rest) => return rest.pushAll [y, x]
    | _ => .error (.misuse .wrongCount)
  | .over, c => do
    require 2 c
    let x ← trust (c.get 1)
    return c.push x

/-- The shuffle word of the given name. -/
def applyShuffle (name : Text) (c : Chain Int) : Except Trouble (Chain Int) :=
  match Shuffle.ofName? name with
  | some w => w.apply c
  | none => .error (.misuse .noSuchWord)

/-- The built-in word of the given name, looked up in the table that `p` is from. -/
def applyPrimitive (p : Primitive) (name : Text) (c : Chain Int) : Except Trouble (Chain Int) :=
  match p with
  | .arithmetic _ => applyOperator name c
  | .shuffle _ => applyShuffle name c

/-- A chain that was made by pushing and popping shows a stack if it has the same items. -/
def Chain.Shows (c : Chain Int) (s : Stack Int) : Prop := c.Built ∧ c.toStack = s

variable {c : Chain Int} {name : Text}

/-- **A word that asks for as many items as it takes is guarded**: it is left to show that it
follows where they are there. -/
lemma follows_require {p : Primitive} {x : Except Trouble (Chain Int)} (h : c.Built)
    (hx : p.takes ≤ c.len → Follows Chain.Shows x ((p.run c.toStack).mapError .word)) :
    Follows Chain.Shows (require p.takes c >>= fun _ => x)
      ((p.run c.toStack).mapError .word) := by
  by_cases hlen : c.len < p.takes
  · have hrequire : require p.takes c = .error underflow := if_pos hlen
    rw [hrequire, Primitive.run_of_lt (h.len_eq_depth ▸ hlen)]
    exact .failure _
  · have hrequire : require p.takes c = .ok () := if_neg hlen
    rw [hrequire]
    exact hx (Nat.not_lt.1 hlen)

lemma follows_applyOperator (h : c.Built) {o : Operator} (hname : Operator.ofName? name = some o) :
    Follows Chain.Shows (applyOperator name c)
      ((Primitive.run (.arithmetic o) c.toStack).mapError .word) := by
  refine follows_require (p := .arithmetic o) h fun hlen => ?_
  obtain ⟨items, rest, hpop, hrest, hitems, hstack⟩ := h.pop_of_le hlen
  obtain ⟨first, second, rfl⟩ := List.length_eq_two.1 hitems
  rw [Primitive.run, Operator.run, show c.pop 2 = _ from hpop,
    show c.toStack.pop? 2 = _ from hstack]
  simp only [trust, Except.mapError, bind, Except.bind, hname]
  cases o.apply second first with
  | ok n => exact .ok ⟨hrest.push n, Chain.toStack_push rest n⟩
  | error e => exact .failure (.word e)

lemma follows_shuffle (h : c.Built) (w : Shuffle) :
    Follows Chain.Shows (w.apply c) ((Primitive.run (.shuffle w) c.toStack).mapError .word) := by
  cases w with
  | dup =>
    refine follows_require (p := .shuffle .dup) h fun hlen => ?_
    obtain ⟨x, hget, hstack⟩ := h.get_of_lt hlen
    rw [Primitive.run, Shuffle.run, show c.get 0 = _ from hget,
      show c.toStack.get? 0 = _ from hstack]
    exact .ok ⟨h.push x, Chain.toStack_push c x⟩
  | drop =>
    refine follows_require (p := .shuffle .drop) h fun hlen => ?_
    obtain ⟨items, rest, hpop, hrest, -, hstack⟩ := h.pop_of_le hlen
    rw [Primitive.run, Shuffle.run, show c.pop 1 = _ from hpop,
      show c.toStack.pop? 1 = _ from hstack]
    exact .ok ⟨hrest, rfl⟩
  | swap =>
    refine follows_require (p := .shuffle .swap) h fun hlen => ?_
    obtain ⟨items, rest, hpop, hrest, hitems, hstack⟩ := h.pop_of_le hlen
    obtain ⟨y, x, rfl⟩ := List.length_eq_two.1 hitems
    rw [Primitive.run, Shuffle.run, show c.pop 2 = _ from hpop,
      show c.toStack.pop? 2 = _ from hstack]
    exact .ok ⟨hrest.pushAll [y, x], Chain.toStack_pushAll rest [y, x]⟩
  | «over» =>
    refine follows_require (p := .shuffle .over) h fun hlen => ?_
    obtain ⟨x, hget, hstack⟩ := h.get_of_lt hlen
    rw [Primitive.run, Shuffle.run, show c.get 1 = _ from hget,
      show c.toStack.get? 1 = _ from hstack]
    exact .ok ⟨h.push x, Chain.toStack_push c x⟩

/-- **Built-in words are guarded**: on a stack that was made by pushing and popping, a word that is
in a table does what it does without guards. -/
theorem follows_applyPrimitive (h : c.Built) {p : Primitive}
    (hname : Primitive.ofName? name = some p) :
    Follows Chain.Shows (applyPrimitive p name c) ((p.run c.toStack).mapError .word) := by
  unfold Primitive.ofName? at hname
  split at hname
  · next o ho =>
    obtain rfl := Option.some.inj hname
    exact follows_applyOperator h ho
  · obtain ⟨w, hw, rfl⟩ := Option.map_eq_some_iff.1 hname
    rw [applyPrimitive, applyShuffle, hw]
    exact follows_shuffle h w

/-! ## The machine -/

/-- An interpreter on a linked stack. -/
structure Machine where
  /-- The stack. -/
  chain : Chain Int
  /-- What the next word is taken for. -/
  mode : Mode
  /-- The bodies of the defined words. -/
  definitions : Dictionary
deriving DecidableEq

namespace Machine

/-- The interpreter with the same items on its stack. -/
def interpreter (m : Machine) : Interpreter := ⟨m.chain.toStack, m.mode, m.definitions⟩

/-- A word that leaves the stack alone does to the machine what it does to the interpreter. -/
def adopt (m : Machine) : Except Failure Interpreter → Except Trouble Machine
  | .ok j => .ok { m with mode := j.mode, definitions := j.definitions }
  | .error e => .error (.failure e)

/-- The word is evaluated, `expand` saying what becomes of the body of a defined word. -/
def perform (expand : Machine → Text → Except Trouble Machine) (m : Machine) (word : Text) :
    Except Trouble Machine :=
  match m.interpreter.meaning word with
  | .error e => .error (.failure (.limit e))
  | .ok .opening => .ok { m with mode := .awaitingName }
  | .ok (.number n) => .ok { m with chain := m.chain.push n }
  | .ok (.expansion body) => expand m body
  | .ok (.primitive p) => do return { m with chain := ← applyPrimitive p word m.chain }
  | .ok .unknown => .error (.failure (.word .unknownWord))

/-- One word in any mode. -/
def step (expand : Machine → Text → Except Trouble Machine) (m : Machine) (word : Text) :
    Except Trouble Machine :=
  if word.isEmpty then .ok m
  else
    match m.mode with
    | .awaitingName => m.adopt (m.interpreter.nameDefinition word)
    | .capturing name body => m.adopt (m.interpreter.capture name body word).outcome
    | .evaluating => m.perform expand word

/-- Words in order, until the machine breaks off. -/
def steps (expand : Machine → Text → Except Trouble Machine) :
    List Text → Machine → Except Trouble Machine
  | [], m => .ok m
  | word :: rest, m => do steps expand rest (← m.step expand word)

/-- A program, with at most `limit` levels of bodies inside bodies. -/
def eval : (limit : Nat) → Machine → Text → Except Trouble Machine
  | 0, m, program => steps (fun _ _ => .error (.failure .tooDeep)) (tokenize program) m
  | limit + 1, m, program => steps (eval limit) (tokenize program) m

/-- A machine whose stack was made by pushing and popping shows an interpreter if it has the same
items on its stack, and is the same in all else. -/
def Shows (m : Machine) (i : Interpreter) : Prop := m.chain.Built ∧ m.interpreter = i

variable {m : Machine} {word : Text}

lemma follows_adopt (h : m.chain.Built) {r : Except Failure Interpreter}
    (hstack : ∀ j, r = .ok j → j.stack = m.interpreter.stack) : Follows Shows (m.adopt r) r := by
  cases r with
  | error e => exact .failure e
  | ok j =>
    refine .ok ⟨h, ?_⟩
    obtain ⟨stack, mode, definitions⟩ := j
    obtain rfl : stack = _ := hstack _ rfl
    rfl

/-- A word that is looked up in a table is in it. -/
lemma ofName?_of_meaning {i : Interpreter} {p : Primitive}
    (h : i.meaning word = .ok (.primitive p)) : Primitive.ofName? word = some p := by
  unfold Interpreter.meaning at h
  split at h
  · exact absurd h (by simp)
  split at h
  · exact absurd h (by simp)
  · exact absurd h (by simp)
  split at h
  · exact absurd h (by simp)
  split at h
  · next q hq =>
    obtain rfl := Meaning.primitive.inj (Except.ok.inj h)
    exact hq
  · exact absurd h (by simp)

/-- The machine follows a word that is evaluated, if it follows the bodies of words. -/
lemma follows_perform (h : m.chain.Built) {expand : Machine → Text → Except Trouble Machine}
    {expand' : Interpreter → Text → Run}
    (hexpand : ∀ body, Follows Shows (expand m body) (expand' m.interpreter body).outcome) :
    Follows Shows (m.perform expand word)
      (Interpreter.perform expand' m.interpreter word).outcome := by
  rw [perform, Interpreter.perform]
  cases hmeaning : m.interpreter.meaning word with
  | error e => exact .failure (.limit e)
  | ok meaning =>
    cases meaning with
    | opening => exact .ok ⟨h, rfl⟩
    | number n => exact .ok ⟨h.push n, by rw [interpreter, Chain.toStack_push]; rfl⟩
    | expansion body => exact hexpand body
    | primitive p =>
      -- the table that the word was found in has it when it is looked up again
      have hword := follows_applyPrimitive h (ofName?_of_meaning hmeaning)
      simp only [show m.interpreter.stack = m.chain.toStack from rfl]
      generalize applyPrimitive p word m.chain = x at hword ⊢
      cases hrun : p.run m.chain.toStack with
      | error e =>
        rw [hrun] at hword
        cases hword with
        | failure => exact .failure (.word e)
      | ok s =>
        rw [hrun] at hword
        cases hword with
        | ok hs =>
          obtain ⟨hbuilt, rfl⟩ := hs
          exact .ok ⟨hbuilt, rfl⟩
    | unknown => exact .failure (.word .unknownWord)

lemma stack_of_nameDefinition {i j : Interpreter} (h : i.nameDefinition word = .ok j) :
    j.stack = i.stack := by
  unfold Interpreter.nameDefinition at h
  split at h
  · exact absurd h (by simp)
  split at h
  · exact absurd h (by simp)
  · exact absurd h (by simp)
  · obtain rfl := Except.ok.inj h
    rfl

lemma stack_of_capture {i j : Interpreter} {name body : Text}
    (h : (i.capture name body word).outcome = .ok j) : j.stack = i.stack := by
  unfold Interpreter.capture at h
  split at h
  · obtain rfl := Except.ok.inj h
    rfl
  · obtain rfl := Except.ok.inj h
    rfl

/-- The machine follows one word, if it follows the bodies of words. -/
lemma follows_step (h : m.chain.Built) {expand : Machine → Text → Except Trouble Machine}
    {expand' : Interpreter → Text → Run}
    (hexpand : ∀ body, Follows Shows (expand m body) (expand' m.interpreter body).outcome) :
    Follows Shows (m.step expand word) (Interpreter.step expand' m.interpreter word).outcome := by
  have hmode : m.interpreter.mode = m.mode := rfl
  rw [step, Interpreter.step, hmode]
  by_cases hempty : word.isEmpty = true
  · rw [if_pos hempty, if_pos hempty]
    exact .ok ⟨h, rfl⟩
  rw [if_neg hempty, if_neg hempty]
  cases m.mode with
  | awaitingName => exact follows_adopt h fun j => stack_of_nameDefinition
  | capturing name body => exact follows_adopt h fun j => stack_of_capture
  | evaluating =>
    simp only [Traced.outcome_onFailure]
    exact follows_perform h hexpand

/-- The machine follows words in order, if it follows the bodies of words. -/
lemma follows_steps {expand : Machine → Text → Except Trouble Machine}
    {expand' : Interpreter → Text → Run}
    (hexpand : ∀ m body, m.chain.Built →
      Follows Shows (expand m body) (expand' m.interpreter body).outcome)
    (ts : List Text) (h : m.chain.Built) :
    Follows Shows (steps expand ts m) (Interpreter.steps expand' ts m.interpreter).outcome := by
  induction ts generalizing m with
  | nil => exact .ok ⟨h, rfl⟩
  | cons word rest ih =>
    have hword : Follows Shows (m.step expand word)
        (Interpreter.step expand' m.interpreter word).outcome :=
      follows_step h fun body => hexpand m body h
    rw [steps]
    generalize m.step expand word = x at hword ⊢
    generalize hy : (Interpreter.step expand' m.interpreter word).outcome = y at hword
    cases hword with
    | failure e =>
      rw [Interpreter.outcome_steps_of_error hy]
      exact .failure e
    | @ok m' j hm' =>
      rw [Interpreter.outcome_steps_of_ok hy]
      obtain ⟨hbuilt, rfl⟩ := hm'
      exact ih hbuilt

/-- **The machine follows evaluation**, whatever the mode, the table and the program are: from a
stack that was made by pushing and popping, no operation is ever used where it cannot be done. -/
theorem follows_eval (limit : Nat) (h : m.chain.Built) (program : Text) :
    Follows Shows (m.eval limit program)
      (Interpreter.eval limit m.interpreter program).outcome := by
  induction limit generalizing m program with
  | zero => exact follows_steps (fun _ _ _ => .failure .tooDeep) (tokenize program) h
  | succ limit ih => exact follows_steps (fun _ body hm => ih hm body) (tokenize program) h

/-- A wrong note gets past the guard. -/
example : eval 0 ⟨.cell 1 .nil 2, .evaluating, .empty⟩ ['+'] = .error (.misuse .brokenChain) := by
  decide

end Machine

end ColonForth
