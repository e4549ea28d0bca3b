import ColonForth.Proofs.Stepping

/-!
# Two runs of one program

Most facts about whole runs compare two of them, or one with itself.  All are instances of one
induction: a relation between two interpreters that may also speak of the words still to come, the
*queue*.  The queue holds the rest of every program that is under way, innermost first, so the
body of a word is put in front of it when the word is met.

* `SimulatesUnless E E' R`: a word without a body takes related interpreters to related ones, or
  fails alike in both, or fails in one of them in a way that excuses from both, `E` on the left and
  `E'` on the right; a word with a body has the same body in both, and they stay related with the
  body in front of the queue.
* `SimulatesUnless.steps`, `SimulatesUnless.eval`: then whole runs agree or one of them ends in such
  a failure, for every number of levels.
* `Simulates R` is the case in which nothing is excused.
* `Alike.act`: a word that two tables treat alike keeps interpreters alike whose stacks are related,
  if built-in words keep the relation between the stacks.
* `AgreeOn.act` is the case in which the stacks are equal.
* `Preserved.steps`, `Preserved.eval`: what one word preserves, every run preserves.
-/

namespace ColonForth

/-- Two outcomes agree: the same failure, or results related by `R`. -/
inductive Agree {α β : Type} (R : α → β → Prop) : Except Failure α → Except Failure β → Prop
  /-- Both go well. -/
  | ok {a : α} {b : β} (h : R a b) : Agree R (.ok a) (.ok b)
  /-- Both fail, and alike. -/
  | error (e : Failure) : Agree R (.error e) (.error e)

namespace Agree

variable {α β : Type} {R S : α → β → Prop} {x : Except Failure α} {y : Except Failure β}

lemma imp (h : Agree R x y) (hRS : ∀ a b, x = .ok a → y = .ok b → R a b → S a b) :
    Agree S x y := by
  cases h with
  | ok h => exact .ok (hRS _ _ rfl rfl h)
  | error e => exact .error e

lemma symm (h : Agree R x y) : Agree (fun b a => R a b) y x := by
  cases h with
  | ok h => exact .ok h
  | error e => exact .error e

end Agree

/-- Two outcomes agree, unless one of them is a failure that excuses from it: one in `E` on the
left, or one in `E'` on the right. -/
inductive AgreeUnless {ε α β : Type} (E E' : ε → Prop) (R : α → β → Prop) :
    Except ε α → Except ε β → Prop
  /-- Both go well. -/
  | ok {a : α} {b : β} (h : R a b) : AgreeUnless E E' R (.ok a) (.ok b)
  /-- Both fail, and alike. -/
  | error (e : ε) : AgreeUnless E E' R (.error e) (.error e)
  /-- The failure on the left is excused. -/
  | left {e : ε} (he : E e) (y : Except ε β) : AgreeUnless E E' R (.error e) y
  /-- The failure on the right is excused. -/
  | right {e : ε} (he : E' e) (x : Except ε α) : AgreeUnless E E' R x (.error e)

namespace AgreeUnless

variable {ε α β : Type} {E E' : ε → Prop} {R : α → β → Prop}

/-- Computations in sequence agree if their parts do.  A failure that is excused ends the whole
sequence on its side. -/
lemma andThen {ω γ δ : Type} {x : Traced ω ε α} {y : Traced ω ε β} {f : α → Traced ω ε γ}
    {g : β → Traced ω ε δ} {S : γ → δ → Prop} (h : AgreeUnless E E' R x.outcome y.outcome)
    (hfg : ∀ a b, R a b → AgreeUnless E E' S (f a).outcome (g b).outcome) :
    AgreeUnless E E' S (x.andThen f).outcome (y.andThen g).outcome := by
  generalize hx : x.outcome = r at h
  generalize hy : y.outcome = s at h
  cases h with
  | ok hab =>
    rw [Traced.outcome_andThen_of_ok hx, Traced.outcome_andThen_of_ok hy]
    exact hfg _ _ hab
  | error e =>
    rw [Traced.outcome_andThen_of_error hx, Traced.outcome_andThen_of_error hy]
    exact .error e
  | left he =>
    rw [Traced.outcome_andThen_of_error hx]
    exact .left he _
  | right he =>
    rw [Traced.outcome_andThen_of_error hy]
    exact .right he _

/-- Outcomes that are not excused agree. -/
lemma agree {E E' : Failure → Prop} {x : Except Failure α} {y : Except Failure β}
    (h : AgreeUnless E E' R x y) (hx : ∀ e, E e → x ≠ .error e) (hy : ∀ e, E' e → y ≠ .error e) :
    Agree R x y := by
  cases h with
  | ok h => exact .ok h
  | error e => exact .error e
  | left he => exact absurd rfl (hx _ he)
  | right he => exact absurd rfl (hy _ he)

end AgreeUnless

namespace Agree

variable {α β : Type} {R : α → β → Prop} {x : Except Failure α} {y : Except Failure β}

lemma agreeUnless (h : Agree R x y) (E E' : Failure → Prop) : AgreeUnless E E' R x y := by
  cases h with
  | ok h => exact .ok h
  | error e => exact .error e

/-- Computations in sequence agree if their parts do. -/
lemma andThen {ω γ δ : Type} {x : Traced ω Failure α} {y : Traced ω Failure β}
    {f : α → Traced ω Failure γ} {g : β → Traced ω Failure δ} {S : γ → δ → Prop}
    (h : Agree R x.outcome y.outcome)
    (hfg : ∀ a b, R a b → Agree S (f a).outcome (g b).outcome) :
    Agree S (x.andThen f).outcome (y.andThen g).outcome := by
  have hunless := (h.agreeUnless (fun _ => False) (fun _ => False)).andThen fun a b hab =>
    (hfg a b hab).agreeUnless _ _
  exact hunless.agree (fun _ he => he.elim) (fun _ he => he.elim)

end Agree

/-- Two tables have the same body for a name after a definition is stored in both, if they had the
same before or it is the name's. -/
lemma Dictionary.lookup_insert_congr {D D' : Dictionary} {t : Text} (name body : Text)
    (h : t ≠ name → D.lookup t = D'.lookup t) :
    (D.insert name body).lookup t = (D'.insert name body).lookup t := by
  by_cases hname : t = name
  · subst hname
    rw [lookup_insert_self, lookup_insert_self]
  · rw [lookup_insert_of_ne _ _ hname, lookup_insert_of_ne _ _ hname]
    exact h hname

namespace Interpreter

/-- A relation between interpreters and the words still to come that no word breaks, failures in
`E` on the left and in `E'` on the right being excused. -/
structure SimulatesUnless (E E' : Failure → Prop)
    (R : List Text → Interpreter → Interpreter → Prop) : Prop where
  /-- A word without a body keeps the relation, fails alike, or is excused. -/
  act : ∀ {word : Text} {queue : List Text} {i i' : Interpreter}, R (word :: queue) i i' →
    i.expansion? word = none →
      i'.expansion? word = none ∧ AgreeUnless E E' (R queue) (i.act word) (i'.act word)
  /-- A word with a body has the same body on both sides, and the relation extends to it. -/
  expand : ∀ {word body : Text} {queue : List Text} {i i' : Interpreter},
    R (word :: queue) i i' → i.expansion? word = some body →
      i'.expansion? word = some body ∧ R (tokenize body ++ queue) i i'

/-- A relation between interpreters and the words still to come that no word breaks. -/
structure Simulates (R : List Text → Interpreter → Interpreter → Prop) : Prop where
  /-- A word without a body keeps the relation, or fails alike. -/
  act : ∀ {word : Text} {queue : List Text} {i i' : Interpreter}, R (word :: queue) i i' →
    i.expansion? word = none →
      i'.expansion? word = none ∧ Agree (R queue) (i.act word) (i'.act word)
  /-- A word with a body has the same body on both sides, and the relation extends to it. -/
  expand : ∀ {word body : Text} {queue : List Text} {i i' : Interpreter},
    R (word :: queue) i i' → i.expansion? word = some body →
      i'.expansion? word = some body ∧ R (tokenize body ++ queue) i i'

variable {E E' : Failure → Prop} {R : List Text → Interpreter → Interpreter → Prop}
  {i i' j : Interpreter}

/-- One word in related interpreters, if bodies are dealt with in related ways. -/
lemma SimulatesUnless.step (h : SimulatesUnless E E' R) {expand : Interpreter → Text → Run}
    {word : Text} {queue : List Text} (hR : R (word :: queue) i i')
    (hbody : ∀ body, R (tokenize body ++ queue) i i' →
      AgreeUnless E E' (R queue) (expand i body).outcome (expand i' body).outcome) :
    AgreeUnless E E' (R queue) (step expand i word).outcome (step expand i' word).outcome := by
  cases hexp : i.expansion? word with
  | none =>
    obtain ⟨hexp', hagree⟩ := h.act hR hexp
    rw [outcome_step_act expand hexp, outcome_step_act expand hexp']
    exact hagree
  | some body =>
    obtain ⟨hexp', hR'⟩ := h.expand hR hexp
    rw [outcome_step_expand expand hexp, outcome_step_expand expand hexp']
    exact hbody body hR'

/-- Words in order in related interpreters, if bodies are dealt with in related ways. -/
lemma SimulatesUnless.steps_of_expand (h : SimulatesUnless E E' R)
    {expand : Interpreter → Text → Run}
    (hexpand : ∀ body queue i i', R (tokenize body ++ queue) i i' →
      AgreeUnless E E' (R queue) (expand i body).outcome (expand i' body).outcome)
    (ts queue : List Text) (hR : R (ts ++ queue) i i') :
    AgreeUnless E E' (R queue) (steps expand ts i).outcome (steps expand ts i').outcome := by
  induction ts generalizing i i' with
  | nil => exact .ok hR
  | cons word rest ih =>
    have hword : AgreeUnless E E' (R (rest ++ queue)) (Interpreter.step expand i word).outcome
        (Interpreter.step expand i' word).outcome :=
      h.step hR fun body hbody => hexpand body (rest ++ queue) i i' hbody
    exact hword.andThen fun j j' hj => ih hj

/-- **Related interpreters stay related along words in order**, whatever the number of levels, or
one of the runs is excused. -/
theorem SimulatesUnless.steps (h : SimulatesUnless E E' R) (limit : Nat) (ts queue : List Text)
    (hR : R (ts ++ queue) i i') :
    AgreeUnless E E' (R queue) (steps (inner limit) ts i).outcome
      (steps (inner limit) ts i').outcome := by
  refine h.steps_of_expand ?_ ts queue hR
  clear hR
  induction limit with
  | zero => exact fun _ _ _ _ _ => .error Failure.tooDeep
  | succ limit ih =>
    intro body queue i i' hR
    rw [inner, outcome_eval, outcome_eval]
    exact h.steps_of_expand ih (tokenize body) queue hR

/-- **Related interpreters stay related along a program**, or one of the runs is excused. -/
theorem SimulatesUnless.eval (h : SimulatesUnless E E' R) (limit : Nat) {program : Text}
    (hR : R (tokenize program) i i') :
    AgreeUnless E E' (R []) (eval limit i program).outcome (eval limit i' program).outcome := by
  rw [outcome_eval, outcome_eval]
  refine h.steps limit (tokenize program) [] ?_
  rwa [List.append_nil]

lemma Simulates.simulatesUnless (h : Simulates R) :
    SimulatesUnless (fun _ => False) (fun _ => False) R := by
  refine ⟨fun hR hexp => ?_, h.expand⟩
  obtain ⟨hexp', hagree⟩ := h.act hR hexp
  exact ⟨hexp', hagree.agreeUnless _ _⟩

/-- **Related interpreters stay related along words in order**, whatever the number of levels. -/
theorem Simulates.steps (h : Simulates R) (limit : Nat) (ts queue : List Text)
    (hR : R (ts ++ queue) i i') :
    Agree (R queue) (steps (inner limit) ts i).outcome (steps (inner limit) ts i').outcome :=
  (h.simulatesUnless.steps limit ts queue hR).agree (fun _ he => he.elim) (fun _ he => he.elim)

/-- **Related interpreters stay related along a program.** -/
theorem Simulates.eval (h : Simulates R) (limit : Nat) {program : Text}
    (hR : R (tokenize program) i i') :
    Agree (R []) (eval limit i program).outcome (eval limit i' program).outcome :=
  (h.simulatesUnless.eval limit hR).agree (fun _ he => he.elim) (fun _ he => he.elim)

/-! ## Interpreters that are alike -/

/-- A relation between stacks that no word breaks, failures in `E` on the left and in `E'` on the
right being excused. -/
structure StackRelation (E E' : Failure → Prop) (S : Stack Int → Stack Int → Prop) : Prop where
  /-- A literal is pushed on both. -/
  push : ∀ {s s' : Stack Int}, S s s' → ∀ n, S (s.push n) (s'.push n)
  /-- A built-in word keeps the relation, fails alike, or is excused. -/
  run : ∀ {s s' : Stack Int}, S s s' → ∀ p : Primitive,
    AgreeUnless (fun e => E (.word e)) (fun e => E' (.word e)) S (p.run s) (p.run s')

/-- Two interpreters in the same mode, with stacks that `S` relates and tables that `T` relates. -/
structure Alike (S : Stack Int → Stack Int → Prop) (T : Dictionary → Dictionary → Prop)
    (i i' : Interpreter) : Prop where
  /-- The stacks are related. -/
  stack : S i.stack i'.stack
  /-- The modes are equal. -/
  mode : i.mode = i'.mode
  /-- The tables are related. -/
  table : T i.definitions i'.definitions

section

variable {S : Stack Int → Stack Int → Prop} {T : Dictionary → Dictionary → Prop} {word : Text}

lemma Alike.expansion? (h : Alike S T i i') (hword : i.mode = .evaluating →
    i.definitions.lookup word = i'.definitions.lookup word) :
    i.expansion? word = i'.expansion? word := by
  unfold Interpreter.expansion?
  rw [← h.mode]
  split
  · next hcond => exact hword hcond.2.1
  · rfl

lemma Alike.nameDefinition (h : Alike S T i i') (word : Text) :
    AgreeUnless E E' (Alike S T) (i.nameDefinition word) (i'.nameDefinition word) := by
  unfold Interpreter.nameDefinition
  split
  · exact .error _
  · split
    · exact .error _
    · exact .error _
    · exact .ok ⟨h.stack, rfl, h.table⟩

/-- The table is looked at for the word only, and the stack by built-in words only. -/
lemma Alike.perform (hS : StackRelation E E' S) (h : Alike S T i i')
    (hword : i.definitions.lookup word = i'.definitions.lookup word)
    {expand : Interpreter → Text → Run}
    (hexpand : ∀ body,
      AgreeUnless E E' (Alike S T) (expand i body).outcome (expand i' body).outcome) :
    AgreeUnless E E' (Alike S T) (perform expand i word).outcome
      (perform expand i' word).outcome := by
  have hmeaning : i.meaning word = i'.meaning word := by rw [meaning, meaning, hword]
  unfold Interpreter.perform
  rw [← hmeaning]
  split
  · exact .error _
  · exact .ok ⟨h.stack, rfl, h.table⟩
  · next n _ => exact .ok ⟨hS.push h.stack n, h.mode, h.table⟩
  · next body _ => exact hexpand body
  · next p _ =>
    have hrun := hS.run h.stack p
    generalize p.run i.stack = r at hrun ⊢
    generalize p.run i'.stack = r' at hrun ⊢
    cases hrun with
    | ok hs => exact .ok ⟨hs, h.mode, h.table⟩
    | error e => exact .error _
    | left he => exact .left he _
    | right he => exact .right he _
  · exact .error _

/-- **A word that both tables treat alike keeps interpreters alike**, or fails alike, or is
excused. -/
theorem Alike.act (hS : StackRelation E E' S)
    (hT : ∀ {D D' : Dictionary} (name body : Text), T D D' →
      T (D.insert name body) (D'.insert name body)) (h : Alike S T i i')
    (hword : i.mode ≠ .awaitingName →
      i.definitions.lookup word = i'.definitions.lookup word) :
    AgreeUnless E E' (Alike S T) (i.act word) (i'.act word) := by
  by_cases hnil : word = []
  · subst hnil
    exact .ok h
  cases hi : i.mode with
  | awaitingName =>
    -- a name is not looked up, so the tables do not matter
    rw [act_of_awaitingName hnil hi, act_of_awaitingName hnil (h.mode ▸ hi)]
    exact h.nameDefinition word
  | capturing name body =>
    -- the word is looked up for what it adds to the body
    have hsame : i.expansionOf word = i'.expansionOf word := by
      rw [expansionOf, expansionOf, hword (by simp [hi])]
    rw [act_of_capturing hnil hi, act_of_capturing hnil (h.mode ▸ hi), ← hsame]
    split
    · exact .ok ⟨h.stack, rfl, hT name body h.table⟩
    · exact .ok ⟨h.stack, rfl, h.table⟩
  | evaluating =>
    rw [act_of_evaluating hnil hi, act_of_evaluating hnil (h.mode ▸ hi)]
    exact h.perform hS (hword (by simp [hi])) fun _ => .error Failure.tooDeep

end

/-- Equal stacks stay equal. -/
lemma stackRelation_eq (E E' : Failure → Prop) : StackRelation E E' (· = ·) := by
  refine ⟨fun h n => congrArg (·.push n) h, ?_⟩
  rintro s _ rfl p
  cases p.run s with
  | ok t => exact .ok rfl
  | error e => exact .error e

/-! ## Tables that treat a word alike -/

/-- Two interpreters that differ at most in the bodies of names outside `P`. -/
structure AgreeOn (P : Text → Prop) (i i' : Interpreter) : Prop where
  /-- The stacks are equal. -/
  stack : i.stack = i'.stack
  /-- The modes are equal. -/
  mode : i.mode = i'.mode
  /-- The tables have the same bodies for the names in `P`. -/
  lookup : ∀ t, P t → i.definitions.lookup t = i'.definitions.lookup t

variable {P : Text → Prop} {word : Text}

lemma AgreeOn.alike (h : AgreeOn P i i') :
    Alike (· = ·) (fun D D' => ∀ t, P t → D.lookup t = D'.lookup t) i i' :=
  ⟨h.stack, h.mode, h.lookup⟩

lemma AgreeOn.expansion? (h : AgreeOn P i i') (hword : i.mode = .evaluating → P word) :
    i.expansion? word = i'.expansion? word :=
  h.alike.expansion? fun hmode => h.lookup word (hword hmode)

/-- A definition stored on both sides keeps the agreement. -/
lemma AgreeOn.define (h : AgreeOn P i i') (name body : Text) :
    AgreeOn (fun t => t = name ∨ P t) (i.define name body) (i'.define name body) := by
  refine ⟨h.stack, rfl, fun t ht => ?_⟩
  refine Dictionary.lookup_insert_congr name body fun hname => ?_
  exact h.lookup t (ht.resolve_left hname)

lemma AgreeOn.mono {Q : Text → Prop} (h : AgreeOn P i i') (hQP : ∀ t, Q t → P t) :
    AgreeOn Q i i' :=
  ⟨h.stack, h.mode, fun t ht => h.lookup t (hQP t ht)⟩

/-- **A word that both tables treat alike keeps the agreement**, or fails alike. -/
theorem AgreeOn.act (h : AgreeOn P i i') (hword : i.mode ≠ .awaitingName → P word) :
    Agree (AgreeOn P) (i.act word) (i'.act word) := by
  have hunless := h.alike.act (stackRelation_eq (fun _ => False) (fun _ => False))
    (fun name body hD t ht => Dictionary.lookup_insert_congr name body fun _ => hD t ht)
    (fun hmode => h.lookup word (hword hmode))
  have hagree := hunless.agree (fun _ he => he.elim) (fun _ he => he.elim)
  exact hagree.imp fun j j' _ _ hj => ⟨hj.stack, hj.mode, hj.table⟩

/-! ## One run -/

/-- A property of an interpreter and the words still to come that no word breaks. -/
structure Preserved (P : List Text → Interpreter → Prop) : Prop where
  /-- A word without a body keeps it. -/
  act : ∀ {word : Text} {queue : List Text} {i j : Interpreter}, P (word :: queue) i →
    i.expansion? word = none → Acts i word j → P queue j
  /-- It extends to the body of a word. -/
  expand : ∀ {word body : Text} {queue : List Text} {i : Interpreter}, P (word :: queue) i →
    i.expansion? word = some body → P (tokenize body ++ queue) i

/-- A run that preserves a property goes in step with itself. -/
lemma Preserved.simulates {P : List Text → Interpreter → Prop} (h : Preserved P) :
    Simulates fun queue i i' => i = i' ∧ P queue i := by
  refine ⟨?_, ?_⟩
  · rintro word queue i _ ⟨rfl, hP⟩ hexp
    refine ⟨hexp, ?_⟩
    cases hword : i.act word with
    | error e => exact .error e
    | ok j => exact .ok ⟨rfl, h.act hP hexp (acts_of_act hword)⟩
  · rintro word body queue i _ ⟨rfl, hP⟩ hexp
    exact ⟨hexp, rfl, h.expand hP hexp⟩

/-- **What every word preserves, words in order preserve.** -/
theorem Preserved.steps {P : List Text → Interpreter → Prop} (h : Preserved P) {limit : Nat}
    {ts queue : List Text} (hP : P (ts ++ queue) i)
    (hsteps : (steps (inner limit) ts i).outcome = .ok j) : P queue j := by
  have hagree := h.simulates.steps limit ts queue ⟨rfl, hP⟩
  rw [hsteps] at hagree
  cases hagree with
  | ok hj => exact hj.2

/-- **What every word preserves, every program preserves.** -/
theorem Preserved.eval {P : List Text → Interpreter → Prop} (h : Preserved P) {limit : Nat}
    {program : Text} (hP : P (tokenize program) i)
    (heval : (eval limit i program).outcome = .ok j) : P [] j := by
  rw [outcome_eval] at heval
  exact h.steps (by rwa [List.append_nil]) heval

end Interpreter

end ColonForth
