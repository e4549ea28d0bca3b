import ColonForth.Proofs.Reachable

/-!
# Definitions as programs

The program `: name word … word ;` and what it leaves behind.  While a definition is captured only
its body changes, so the body of a whole definition is a fold over its words (`captureAll`), and
the program has one outcome: the interpreter with this body stored under the name
(`eval_definition`).

The body is compared with the words it was made of by its non-empty pieces: they are those of the
words' expansions, in order (`dropEmpty_pieces_captureAll`).  An empty body among them leaves a
space too many or too few, which the non-empty pieces do not see.
-/

namespace ColonForth

open Text

namespace Interpreter

/-- The body with the expansions of further words added to it, empty words being passed over. -/
def captureAll (i : Interpreter) : (body : Text) → List Text → Text
  | body, [] => body
  | body, word :: rest =>
    i.captureAll (if word = [] then body else extendBody body (i.expansionOf word)) rest

/-- The program that defines `name` by the given words. -/
def definition (name : Text) (words : List Text) : Text :=
  spaced (colon :: (name :: words ++ [semicolon]))

variable {i : Interpreter} {name body : Text} {words : List Text}

/-! ## Evaluating a definition -/

/-- What is captured does not depend on the mode. -/
@[simp] lemma captureAll_mode (i : Interpreter) (mode : Mode) (body : Text) (words : List Text) :
    ({ i with mode := mode } : Interpreter).captureAll body words = i.captureAll body words := by
  induction words generalizing body with
  | nil => rfl
  | cons word rest ih => exact ih _

/-- Words other than the semicolon are collected while a definition is captured. -/
lemma outcome_steps_capture (expand : Interpreter → Text → Run)
    (hmode : i.mode = .capturing name body) (hwords : ∀ t ∈ words, t ≠ semicolon) :
    (steps expand words i).outcome =
      .ok { i with mode := .capturing name (i.captureAll body words) } := by
  induction words generalizing i body with
  | nil =>
    rw [outcome_steps_nil, captureAll, ← hmode]
  | cons word rest ih =>
    rw [List.forall_mem_cons] at hwords
    have hexp : i.expansion? word = none := expansion?_of_mode_ne (by simp [hmode]) word
    by_cases hnil : word = []
    · subst hnil
      have hstep : (step expand i []).outcome = .ok i := outcome_step_act expand hexp
      rw [outcome_steps_of_ok hstep, ih hmode hwords.2, captureAll, if_pos rfl]
    · have hstep : (step expand i word).outcome =
          .ok { i with mode := .capturing name (extendBody body (i.expansionOf word)) } := by
        rw [outcome_step_act expand hexp, act_of_capturing hnil hmode, if_neg hwords.1]
      rw [outcome_steps_of_ok hstep, ih rfl hwords.2, captureAll, if_neg hnil,
        captureAll_mode]

/-- The words of a definition store its body. -/
lemma outcome_steps_definition (expand : Interpreter → Text → Run) (hmode : i.mode = .evaluating)
    (hname : IsName name) (hwords : ∀ t ∈ words, t ≠ semicolon) (rest : List Text) :
    (steps expand (colon :: (name :: words ++ semicolon :: rest)) i).outcome =
      (steps expand rest (i.define name (i.captureAll [] words))).outcome := by
  -- the colon, the name, the words and the semicolon in turn; only the last changes the table
  have hopen : (step expand i colon).outcome = .ok { i with mode := .awaitingName } := by
    have hexp : i.expansion? colon = none := by simp [expansion?]
    rw [outcome_step_act expand hexp, act_of_evaluating (by decide) hmode]
    rfl
  have hnamed : (step expand { i with mode := .awaitingName } name).outcome =
      .ok { i with mode := .capturing name [] } := by
    have hexp : ({ i with mode := .awaitingName } : Interpreter).expansion? name = none :=
      expansion?_of_mode_ne (by simp) name
    rw [outcome_step_act expand hexp, act_of_awaitingName hname.ne_nil rfl, nameDefinition,
      if_neg (by simp [hname.ne_colon, hname.ne_semicolon]), hname.read_eq]
  have hbody := outcome_steps_capture (i := { i with mode := .capturing name [] }) expand rfl hwords
  have hstore : ∀ k : Interpreter, k.mode = .capturing name (i.captureAll [] words) →
      (step expand k semicolon).outcome = .ok (k.define name (i.captureAll [] words)) := by
    intro k hk
    have hexp : k.expansion? semicolon = none := expansion?_of_mode_ne (by simp [hk]) semicolon
    rw [outcome_step_act expand hexp, act_of_capturing (by decide) hk, if_pos rfl]
  rw [captureAll_mode] at hbody
  rw [outcome_steps_of_ok hopen, List.cons_append, outcome_steps_of_ok hnamed,
    steps_append, Traced.outcome_andThen_of_ok hbody, outcome_steps_of_ok (hstore _ rfl)]
  rfl

/-- **A definition goes well with any number of levels, and stores its body under its name.** -/
theorem eval_definition (hmode : i.mode = .evaluating) (hname : IsName name)
    (hwords : ∀ t ∈ words, IsToken t ∧ t ≠ semicolon) (limit : Nat) :
    (eval limit i (definition name words)).outcome =
      .ok (i.define name (i.captureAll [] words)) := by
  have htokens : tokenize (definition name words) = colon :: (name :: words ++ [semicolon]) := by
    refine tokenize_spaced (by decide) (by decide) (fun t ht => ?_) unblank_colon.bare
      unblank_semicolon.bare
    rw [List.mem_cons, List.cons_append, List.mem_cons, List.mem_append, List.mem_singleton] at ht
    rcases ht with rfl | rfl | ht | rfl
    · exact isToken_colon
    · exact hname.token
    · exact (hwords t ht).1
    · exact isToken_semicolon
  rw [outcome_eval, htokens,
    outcome_steps_definition (inner limit) hmode hname (fun t ht => (hwords t ht).2) []]
  rfl

/-- A definition leads to a reachable interpreter. -/
lemma Reachable.define (hi : Reachable i) (hmode : i.mode = .evaluating) (hname : IsName name)
    (words : List Text) (hwords : ∀ t ∈ words, IsToken t ∧ t ≠ semicolon) :
    Reachable (i.define name (i.captureAll [] words)) :=
  .eval hi (eval_definition hmode hname hwords 0)

/-! ## The body of a definition -/

lemma WellFormed.isBody_captureAll (h : WellFormed i) (hbody : IsBody body)
    (hwords : ∀ t ∈ words, IsToken t ∧ t ≠ semicolon) : IsBody (i.captureAll body words) := by
  induction words generalizing body with
  | nil => exact hbody
  | cons word rest ih =>
    rw [List.forall_mem_cons] at hwords
    rw [captureAll]
    split
    · exact ih hbody hwords.2
    · exact ih (hbody.extendBody (h.isBody_expansionOf hwords.1.1 hwords.1.2)) hwords.2

lemma dropEmpty_pieces_extendBody (body addition : Text) :
    dropEmpty (pieces (extendBody body addition)) =
      dropEmpty (pieces body) ++ dropEmpty (pieces addition) := by
  by_cases hnil : body = []
  · subst hnil
    rfl
  · rw [extendBody_of_ne hnil, pieces_append_space, dropEmpty_append]

/-- **The non-empty pieces of a captured body are those of the expansions of its words.** -/
theorem dropEmpty_pieces_captureAll (i : Interpreter) (body : Text) (words : List Text) :
    dropEmpty (pieces (i.captureAll body words)) = dropEmpty (pieces body) ++
      (dropEmpty words).flatMap fun t => dropEmpty (pieces (i.expansionOf t)) := by
  induction words generalizing body with
  | nil => simp [captureAll]
  | cons word rest ih =>
    rw [captureAll, ih]
    by_cases hnil : word = []
    · rw [if_pos hnil, hnil, dropEmpty_cons_nil]
    · rw [if_neg hnil, dropEmpty_pieces_extendBody, dropEmpty_cons_of_ne hnil,
        List.flatMap_cons, List.append_assoc]

/-- A captured body has the characters of the expansions of its words, and spaces. -/
lemma mem_captureAll {c : Char} (h : c ∈ i.captureAll body words) :
    c ∈ body ∨ c = ' ' ∨ ∃ t ∈ words, c ∈ i.expansionOf t := by
  induction words generalizing body with
  | nil => exact Or.inl h
  | cons word rest ih =>
    rw [captureAll] at h
    rcases ih h with hbody | hspace | ⟨t, ht, hc⟩
    · split at hbody
      · exact Or.inl hbody
      · rw [extendBody] at hbody
        split at hbody
        · exact Or.inr (Or.inr ⟨word, List.mem_cons_self, hbody⟩)
        · rw [List.mem_append, List.mem_cons] at hbody
          rcases hbody with hbody | hspace | hbody
          · exact Or.inl hbody
          · exact Or.inr (Or.inl hspace)
          · exact Or.inr (Or.inr ⟨word, List.mem_cons_self, hbody⟩)
    · exact Or.inr (Or.inl hspace)
    · exact Or.inr (Or.inr ⟨t, List.mem_cons_of_mem _ ht, hc⟩)

end Interpreter

end ColonForth
