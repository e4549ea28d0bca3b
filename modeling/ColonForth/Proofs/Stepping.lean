import ColonForth.Eval
import ColonForth.Proofs.Pieces

/-!
# What one word does

Evaluation recurses in one place only, at a word that has a body.  This file takes a step apart
at that place:

* `expansion?` gives the body that a word has its evaluation replaced by, if it has one;
* `act` is what any other word does, and `Acts` lists all of it by cases (`acts_of_act`).

The outcome of a step is then described by an equation for each of the two kinds of words
(`outcome_step_expand`, `outcome_step_act`), so that later files need not open `step` again.
-/

namespace ColonForth

namespace Traced

variable {ω ε α β : Type}

@[simp] lemma outcome_done (a : α) : (done a : Traced ω ε α).outcome = .ok a := rfl

@[simp] lemma outcome_fail (e : ε) : (fail e : Traced ω ε α).outcome = .error e := rfl

@[simp] lemma outcome_ofExcept (r : Except ε α) : (ofExcept r : Traced ω ε α).outcome = r := rfl

@[simp] lemma outcome_onFailure (x : Traced ω ε α) (events : ε → List ω) :
    (x.onFailure events).outcome = x.outcome := by
  unfold onFailure
  split
  · next e he => rw [he]
  · rfl

lemma onFailure_of_ok {x : Traced ω ε α} {a : α} (h : x.outcome = .ok a) (events : ε → List ω) :
    x.onFailure events = x := by
  rw [onFailure, h]

lemma onFailure_of_error {x : Traced ω ε α} {e : ε} (h : x.outcome = .error e)
    (events : ε → List ω) : x.onFailure events = ⟨x.trace ++ events e, .error e⟩ := by
  rw [onFailure, h]

lemma andThen_of_ok {x : Traced ω ε α} {a : α} (h : x.outcome = .ok a) (f : α → Traced ω ε β) :
    x.andThen f = ⟨x.trace ++ (f a).trace, (f a).outcome⟩ := by
  rw [andThen, h]

lemma andThen_of_error {x : Traced ω ε α} {e : ε} (h : x.outcome = .error e)
    (f : α → Traced ω ε β) : x.andThen f = ⟨x.trace, .error e⟩ := by
  rw [andThen, h]

lemma outcome_andThen_of_ok {x : Traced ω ε α} {a : α} (h : x.outcome = .ok a)
    (f : α → Traced ω ε β) : (x.andThen f).outcome = (f a).outcome := by
  rw [andThen_of_ok h]

lemma outcome_andThen_of_error {x : Traced ω ε α} {e : ε} (h : x.outcome = .error e)
    (f : α → Traced ω ε β) : (x.andThen f).outcome = .error e := by
  rw [andThen_of_error h]

/-- A sequence goes well if both of its parts do. -/
lemma exists_of_outcome_andThen {x : Traced ω ε α} {f : α → Traced ω ε β} {b : β}
    (h : (x.andThen f).outcome = .ok b) : ∃ a, x.outcome = .ok a ∧ (f a).outcome = .ok b := by
  cases hx : x.outcome with
  | error e =>
    rw [outcome_andThen_of_error hx] at h
    exact absurd h (by simp)
  | ok a =>
    rw [outcome_andThen_of_ok hx] at h
    exact ⟨a, rfl, h⟩

/-- The outcome of a sequence depends on the outcomes of its parts. -/
lemma outcome_andThen_congr {x y : Traced ω ε α} {f g : α → Traced ω ε β}
    (h : x.outcome = y.outcome) (hfg : ∀ a, (f a).outcome = (g a).outcome) :
    (x.andThen f).outcome = (y.andThen g).outcome := by
  cases hy : y.outcome with
  | error e => rw [outcome_andThen_of_error (h.trans hy), outcome_andThen_of_error hy]
  | ok a => rw [outcome_andThen_of_ok (h.trans hy), outcome_andThen_of_ok hy, hfg a]

/-- The trace of a sequence depends on the traces of its parts. -/
lemma trace_andThen_congr {γ : Type} (x : Traced ω ε α) {f : α → Traced ω ε β}
    {g : α → Traced ω ε γ} (h : ∀ a, (f a).trace = (g a).trace) :
    (x.andThen f).trace = (x.andThen g).trace := by
  unfold andThen
  cases x.outcome with
  | error e => rfl
  | ok a => exact congrArg (x.trace ++ ·) (h a)

lemma andThen_assoc {γ : Type} (x : Traced ω ε α) (f : α → Traced ω ε β) (g : β → Traced ω ε γ) :
    (x.andThen f).andThen g = x.andThen fun a => (f a).andThen g := by
  unfold andThen
  cases hx : x.outcome with
  | error e => rfl
  | ok a =>
    cases hf : (f a).outcome with
    | error e => simp [hf]
    | ok b => simp [hf]

/-- What follows a computation matters at its result only. -/
lemma andThen_congr {x : Traced ω ε α} {f g : α → Traced ω ε β}
    (h : ∀ a, x.outcome = .ok a → f a = g a) : x.andThen f = x.andThen g := by
  unfold andThen
  split
  · rfl
  · next a ha => rw [h a ha]

end Traced

namespace Interpreter

/-! ## Words that are expanded and words that act -/

/-- The body that the evaluation of a word is replaced by: the word is evaluated, it is neither
the colon nor a literal, and it is defined. -/
def expansion? (i : Interpreter) (word : Text) : Option Text :=
  if word ≠ [] ∧ i.mode = .evaluating ∧ word ≠ colon ∧ Literal.read word = .ok none then
    i.definitions.lookup word
  else none

/-- What a word does that is not expanded.  Nothing is asked of the expander then, so any would
do. -/
def act (i : Interpreter) (word : Text) : Except Failure Interpreter :=
  (step (fun _ _ => .fail .tooDeep) i word).outcome

variable {i j : Interpreter} {word body : Text}

lemma expansion?_eq_some_iff :
    i.expansion? word = some body ↔ word ≠ [] ∧ i.mode = .evaluating ∧ word ≠ colon ∧
      Literal.read word = .ok none ∧ i.definitions.lookup word = some body := by
  unfold expansion?
  split
  · next h => exact ⟨fun hb => ⟨h.1, h.2.1, h.2.2.1, h.2.2.2, hb⟩, fun hb => hb.2.2.2.2⟩
  · next h =>
    constructor
    · intro hb
      exact absurd hb (by simp)
    · intro hb
      exact absurd ⟨hb.1, hb.2.1, hb.2.2.1, hb.2.2.2.1⟩ h

/-- Words are expanded where they are evaluated only. -/
lemma expansion?_of_mode_ne (h : i.mode ≠ .evaluating) (word : Text) :
    i.expansion? word = none := by
  rw [expansion?, if_neg fun hcond => h hcond.2.1]

lemma step_of_evaluating (expand : Interpreter → Text → Run) (hword : word ≠ [])
    (hmode : i.mode = .evaluating) :
    step expand i word = (perform expand i word).onFailure (failureEvents word) := by
  rw [step, if_neg (by simpa using hword), hmode]

/-- A word with a body has the body dealt with. -/
lemma step_of_expansion (expand : Interpreter → Text → Run) (h : i.expansion? word = some body) :
    step expand i word = (expand i body).onFailure (failureEvents word) := by
  obtain ⟨hword, hmode, hcolon, hread, hbody⟩ := expansion?_eq_some_iff.1 h
  have hmeaning : i.meaning word = .ok (.expansion body) := by
    rw [meaning, if_neg hcolon, hread]
    simp only [hbody]
  rw [step_of_evaluating expand hword hmode, perform, hmeaning]

/-- A word without a body does the same whatever is done with bodies. -/
lemma step_of_no_expansion (expand expand' : Interpreter → Text → Run)
    (h : i.expansion? word = none) : step expand i word = step expand' i word := by
  by_cases hword : word = []
  · subst hword
    rfl
  cases hmode : i.mode with
  | awaitingName =>
    rw [step, step, hmode]
  | capturing name body =>
    rw [step, step, hmode]
  | evaluating =>
    rw [step_of_evaluating expand hword hmode, step_of_evaluating expand' hword hmode]
    -- the two performances differ at a word with a body only, and this has none
    have hmeaning : ∀ body, i.meaning word ≠ .ok (.expansion body) := by
      intro body hbody
      unfold meaning at hbody
      split at hbody
      · exact absurd hbody (by simp)
      next hcolon =>
      split at hbody
      · exact absurd hbody (by simp)
      · exact absurd hbody (by simp)
      next hread =>
      split at hbody
      · next b hlook =>
        rw [expansion?_eq_some_iff.2 ⟨hword, hmode, hcolon, hread, hlook⟩] at h
        exact absurd h (by simp)
      · split at hbody
        · exact absurd hbody (by simp)
        · exact absurd hbody (by simp)
    congr 1
    unfold perform
    split
    · rfl
    · rfl
    · rfl
    · next b hb => exact absurd hb (hmeaning b)
    · rfl
    · rfl

lemma outcome_step_act (expand : Interpreter → Text → Run) (h : i.expansion? word = none) :
    (step expand i word).outcome = i.act word := by
  rw [act, step_of_no_expansion expand _ h]

/-! ## What a word without a body does, mode by mode -/

@[simp] lemma act_nil (i : Interpreter) : i.act [] = .ok i := rfl

lemma act_of_awaitingName (hword : word ≠ []) (hmode : i.mode = .awaitingName) :
    i.act word = i.nameDefinition word := by
  rw [act, step, if_neg (by simpa using hword), hmode]
  rfl

lemma act_of_capturing {name captured : Text} (hword : word ≠ [])
    (hmode : i.mode = .capturing name captured) :
    i.act word = .ok (if word = semicolon then i.define name captured
      else { i with mode := .capturing name (extendBody captured (i.expansionOf word)) }) := by
  rw [act, step, if_neg (by simpa using hword), hmode]
  show (capture i name captured word).outcome = _
  unfold capture
  split
  · rfl
  · rfl

lemma act_of_evaluating (hword : word ≠ []) (hmode : i.mode = .evaluating) :
    i.act word = (perform (fun _ _ => .fail .tooDeep) i word).outcome := by
  rw [act, step_of_evaluating _ hword hmode, Traced.outcome_onFailure]

/-- All that a word without a body can do. -/
inductive Acts (i : Interpreter) : Text → Interpreter → Prop
  /-- An empty word is passed over. -/
  | skip : Acts i [] i
  /-- A word names the definition that was opened. -/
  | name {word : Text} (hmode : i.mode = .awaitingName) (hword : word ≠ [])
      (hcolon : word ≠ colon) (hsemicolon : word ≠ semicolon)
      (hread : Literal.read word = .ok none) : Acts i word { i with mode := .capturing word [] }
  /-- The semicolon stores the definition. -/
  | store {name body : Text} (hmode : i.mode = .capturing name body) :
      Acts i semicolon (i.define name body)
  /-- A word is added to the body that is being captured. -/
  | extend {name body word : Text} (hmode : i.mode = .capturing name body) (hword : word ≠ [])
      (hsemicolon : word ≠ semicolon) :
      Acts i word { i with mode := .capturing name (extendBody body (i.expansionOf word)) }
  /-- The colon opens a definition. -/
  | opening (hmode : i.mode = .evaluating) : Acts i colon { i with mode := .awaitingName }
  /-- A literal is pushed. -/
  | push {word : Text} {n : Int} (hmode : i.mode = .evaluating) (hcolon : word ≠ colon)
      (hread : Literal.read word = .ok (some n)) : Acts i word (i.push n)
  /-- A built-in word acts on the stack. -/
  | primitive {word : Text} {p : Primitive} {s : Stack Int} (hmode : i.mode = .evaluating)
      (hcolon : word ≠ colon) (hread : Literal.read word = .ok none)
      (hlook : i.definitions.lookup word = none) (hname : Primitive.ofName? word = some p)
      (hrun : p.run i.stack = .ok s) : Acts i word { i with stack := s }

lemma acts_of_nameDefinition (hword : word ≠ []) (hmode : i.mode = .awaitingName)
    (h : i.nameDefinition word = .ok j) : Acts i word j := by
  unfold nameDefinition at h
  split at h
  · exact absurd h (by simp)
  next hnot =>
  rw [not_or] at hnot
  split at h
  · exact absurd h (by simp)
  · exact absurd h (by simp)
  next hread =>
  obtain rfl := Except.ok.inj h
  exact .name hmode hword hnot.1 hnot.2 hread

lemma acts_of_perform (hmode : i.mode = .evaluating)
    (h : (perform (fun _ _ => .fail .tooDeep) i word).outcome = .ok j) : Acts i word j := by
  unfold perform meaning at h
  -- the cases come in the order in which a meaning is looked for
  by_cases hcolon : word = colon
  · subst hcolon
    obtain rfl := Except.ok.inj h
    exact .opening hmode
  rw [if_neg hcolon] at h
  cases hread : Literal.read word with
  | error e =>
    simp only [hread] at h
    exact absurd h (by simp)
  | ok value =>
    cases value with
    | some n =>
      simp only [hread] at h
      obtain rfl := Except.ok.inj h
      exact .push hmode hcolon hread
    | none =>
      cases hlook : i.definitions.lookup word with
      | some body =>
        simp only [hread, hlook] at h
        exact absurd h (by simp)
      | none =>
        cases hname : Primitive.ofName? word with
        | none =>
          simp only [hread, hlook, hname] at h
          exact absurd h (by simp)
        | some p =>
          simp only [hread, hlook, hname] at h
          cases hrun : p.run i.stack with
          | error e =>
            rw [hrun] at h
            exact absurd h (by simp)
          | ok s =>
            rw [hrun] at h
            obtain rfl := Except.ok.inj h
            exact .primitive hmode hcolon hread hlook hname hrun

/-- **Whatever a word without a body does is listed by `Acts`.** -/
theorem acts_of_act (h : i.act word = .ok j) : Acts i word j := by
  by_cases hword : word = []
  · subst hword
    obtain rfl := Except.ok.inj h
    exact .skip
  cases hmode : i.mode with
  | awaitingName =>
    rw [act_of_awaitingName hword hmode] at h
    exact acts_of_nameDefinition hword hmode h
  | capturing name body =>
    rw [act_of_capturing hword hmode] at h
    obtain rfl := Except.ok.inj h
    split
    · next hsemicolon =>
      subst hsemicolon
      exact .store hmode
    · next hsemicolon => exact .extend hmode hword hsemicolon
  | evaluating =>
    rw [act_of_evaluating hword hmode] at h
    exact acts_of_perform hmode h

/-- A word other than the colon leaves evaluation going, and the table as it was. -/
lemma Acts.of_evaluating (h : Acts i word j) (hmode : i.mode = .evaluating)
    (hcolon : word ≠ colon) : j.mode = .evaluating ∧ j.definitions = i.definitions := by
  cases h with
  | skip => exact ⟨hmode, rfl⟩
  | name hmode' => exact absurd (hmode.symm.trans hmode') (by simp)
  | store hmode' => exact absurd (hmode.symm.trans hmode') (by simp)
  | extend hmode' => exact absurd (hmode.symm.trans hmode') (by simp)
  | opening => exact absurd rfl hcolon
  | push => exact ⟨hmode, rfl⟩
  | primitive => exact ⟨hmode, rfl⟩

/-- A name has its body changed only where a definition of it is stored. -/
lemma Acts.lookup_eq {name : Text} (h : Acts i word j)
    (hstore : word = semicolon → ∀ captured, i.mode ≠ .capturing name captured) :
    j.definitions.lookup name = i.definitions.lookup name := by
  cases h with
  | @store other captured hmode =>
    refine Dictionary.lookup_insert_of_ne _ _ ?_
    rintro rfl
    exact hstore rfl captured hmode
  | skip => rfl
  | name => rfl
  | extend => rfl
  | opening => rfl
  | push => rfl
  | primitive => rfl

/-- A word without a body never exceeds the number of levels. -/
lemma act_ne_tooDeep (h : i.expansion? word = none) : i.act word ≠ .error .tooDeep := by
  intro hdeep
  -- any expander will do, so take one that does not fail
  rw [← outcome_step_act (fun i _ => .done i) h] at hdeep
  unfold step at hdeep
  split at hdeep
  · exact absurd hdeep (by simp)
  split at hdeep
  · unfold nameDefinition at hdeep
    split at hdeep
    · exact absurd hdeep (by simp)
    · split at hdeep
      · exact absurd hdeep (by simp)
      · exact absurd hdeep (by simp)
      · exact absurd hdeep (by simp)
  · unfold capture at hdeep
    split at hdeep
    · exact absurd hdeep (by simp)
    · exact absurd hdeep (by simp)
  · rw [Traced.outcome_onFailure] at hdeep
    unfold perform at hdeep
    split at hdeep
    · exact absurd hdeep (by simp)
    · exact absurd hdeep (by simp)
    · exact absurd hdeep (by simp)
    · exact absurd hdeep (by simp)
    · split at hdeep
      · exact absurd hdeep (by simp)
      · exact absurd hdeep (by simp)
    · exact absurd hdeep (by simp)

/-! ## Words in order, level by level -/

/-- What becomes of a body when at most `limit` levels are left. -/
def inner : (limit : Nat) → Interpreter → Text → Run
  | 0 => fun _ _ => .fail .tooDeep
  | limit + 1 => eval limit

lemma eval_eq_evalWith (limit : Nat) : eval limit = evalWith (inner limit) := by
  cases limit with
  | zero => rfl
  | succ limit => rfl

/-- The outcome of a program is that of its words. -/
lemma outcome_eval (limit : Nat) (i : Interpreter) (program : Text) :
    (eval limit i program).outcome = (steps (inner limit) (tokenize program) i).outcome := by
  rw [eval_eq_evalWith]
  rfl

variable {limit : Nat} {rest : List Text}

@[simp] lemma outcome_steps_nil (expand : Interpreter → Text → Run) (i : Interpreter) :
    (steps expand [] i).outcome = .ok i := rfl

lemma outcome_steps_of_ok {expand : Interpreter → Text → Run}
    (h : (step expand i word).outcome = .ok j) :
    (steps expand (word :: rest) i).outcome = (steps expand rest j).outcome := by
  rw [steps, Traced.outcome_andThen_of_ok h]

lemma outcome_steps_of_error {expand : Interpreter → Text → Run} {e : Failure}
    (h : (step expand i word).outcome = .error e) :
    (steps expand (word :: rest) i).outcome = .error e := by
  rw [steps, Traced.outcome_andThen_of_error h]

lemma outcome_step_expand (expand : Interpreter → Text → Run)
    (h : i.expansion? word = some body) :
    (step expand i word).outcome = (expand i body).outcome := by
  rw [step_of_expansion expand h, Traced.outcome_onFailure]

/-- A list of one word has the outcome of the word. -/
lemma outcome_steps_singleton (expand : Interpreter → Text → Run) (i : Interpreter)
    (word : Text) : (steps expand [word] i).outcome = (step expand i word).outcome := by
  cases hword : (step expand i word).outcome with
  | ok j => rw [outcome_steps_of_ok hword, outcome_steps_nil]
  | error e => rw [outcome_steps_of_error hword]

/-- Empty words make no difference. -/
lemma steps_dropEmpty (expand : Interpreter → Text → Run) (ts : List Text) (i : Interpreter) :
    steps expand (Text.dropEmpty ts) i = steps expand ts i := by
  induction ts generalizing i with
  | nil => rfl
  | cons t rest ih =>
    by_cases hnil : t = []
    · subst hnil
      rw [Text.dropEmpty_cons_nil, steps, ih]
      rfl
    · rw [Text.dropEmpty_cons_of_ne hnil, steps, steps]
      exact Traced.andThen_congr fun j _ => ih j

/-- The words of two lists in order are those of the first and then those of the second. -/
lemma steps_append (expand : Interpreter → Text → Run) (ts us : List Text) (i : Interpreter) :
    steps expand (ts ++ us) i = (steps expand ts i).andThen (steps expand us) := by
  induction ts generalizing i with
  | nil => rw [List.nil_append, steps, Traced.andThen_done]
  | cons t rest ih =>
    rw [List.cons_append, steps, steps, Traced.andThen_assoc]
    exact Traced.andThen_congr fun j _ => ih j

end Interpreter

end ColonForth
