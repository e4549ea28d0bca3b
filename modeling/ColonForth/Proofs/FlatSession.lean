import ColonForth.Proofs.DefinedWord
import ColonForth.Proofs.StackEffects

/-!
# Sessions without forward references

A definition takes over the bodies of the words it is captured from.  If every word of a session
has a meaning when it is met, so that no body waits for a word to be defined later, all that is
taken over is literals and built-in words: the stored bodies stay *flat*.  A word may be redefined
by way of its own former meaning any number of times.

* `Straight`, `exists_straight_of_isFlat`: how a flat body runs.  None of its words is expanded, so
  it makes no use of the levels that are left, and it fails only for the stack, for a divisor or for
  the length of a literal.
* `Mode.Admits`, `AllAdmitted`, `NoForward`: a word that refers to nothing that is still to be
  defined, words that do so when they are met, and a session of such programs.
* `Flat.acts`, `Flat.step`, `NoForward.flat`: one effect, one word, and a session keep the bodies
  flat.
* `session_stays_flat`: the two together.
-/

namespace ColonForth

open Text

/-! ## Literals and built-in words -/

/-- The text is the name of a built-in word. -/
def IsBuiltIn (t : Text) : Prop := ∃ p : Primitive, t = p.name

/-- A literal or a built-in word. -/
def IsBasic (t : Text) : Prop := IsLiteral t ∨ IsBuiltIn t

/-- The text consists of literals and built-in words with spaces between them. -/
def IsFlat (t : Text) : Prop := ∀ word ∈ dropEmpty (pieces t), IsBasic word

namespace Primitive

lemma ofName?_eq_some_iff {t : Text} {p : Primitive} : ofName? t = some p ↔ t = p.name := by
  constructor
  · intro h
    unfold ofName? at h
    split at h
    · next o ho =>
      obtain rfl := Option.some.inj h
      have hname := List.find?_some ho
      exact (beq_iff_eq.1 hname).symm
    · obtain ⟨w, hw, rfl⟩ := Option.map_eq_some_iff.1 h
      have hname := List.find?_some hw
      exact (beq_iff_eq.1 hname).symm
  · rintro rfl
    cases p with
    | arithmetic o => cases o <;> rfl
    | shuffle w => cases w <;> rfl

lemma isWord_name (p : Primitive) : IsWord p.name := by
  cases p with
  | arithmetic o => cases o <;> decide +kernel
  | shuffle w => cases w <;> decide +kernel

lemma read_name (p : Primitive) : Literal.read p.name = .ok none := by
  cases p with
  | arithmetic o => cases o <;> decide
  | shuffle w => cases w <;> decide

end Primitive

instance (t : Text) : Decidable (IsBuiltIn t) :=
  decidable_of_iff ((Primitive.ofName? t).isSome = true) <| by
    rw [Option.isSome_iff_exists]
    exact exists_congr fun _ => Primitive.ofName?_eq_some_iff

instance (t : Text) : Decidable (IsBasic t) := inferInstanceAs (Decidable (_ ∨ _))

lemma settled_of_isDigit {c : Char} (h : Literal.isDigit c = true) :
    isBlank c = false ∧ Settled c :=
  Literal.of_isDigit (P := fun c => isBlank c = false ∧ Settled c) (by decide +kernel) h

lemma IsLiteral.isWord {t : Text} (h : IsLiteral t) : IsWord t := by
  have hchars : ∀ c ∈ t, isBlank c = false ∧ Settled c := by
    obtain ⟨sign, digits, hsign, -, hdigits, rfl⟩ := h
    intro c hc
    rcases List.mem_append.1 hc with hc | hc
    · rcases hsign with rfl | rfl | rfl
      · exact absurd hc List.not_mem_nil
      · rw [List.mem_singleton.1 hc]
        decide +kernel
      · rw [List.mem_singleton.1 hc]
        decide +kernel
    · exact settled_of_isDigit (hdigits c hc)
  have hnot : ¬ IsLiteral [] ∧ ¬ IsLiteral colon ∧ ¬ IsLiteral semicolon := by decide
  refine ⟨?_, lower_eq_self_iff.2 fun c hc => (hchars c hc).2, fun c hc => (hchars c hc).1, ?_, ?_⟩
  · rintro rfl
    exact hnot.1 h
  · rintro rfl
    exact hnot.2.1 h
  · rintro rfl
    exact hnot.2.2 h

lemma IsBasic.isWord {t : Text} (h : IsBasic t) : IsWord t := by
  rcases h with h | ⟨p, rfl⟩
  · exact h.isWord
  · exact p.isWord_name

/-! ## Flat texts -/

namespace IsFlat

variable {t : Text}

lemma nil : IsFlat [] := fun _ h => absurd h List.not_mem_nil

lemma of_isBasic (h : IsBasic t) : IsFlat t := by
  intro word hword
  rw [pieces_of_not_mem h.isWord.isToken.noSpace] at hword
  obtain ⟨hmem, -⟩ := mem_dropEmpty.1 hword
  rwa [List.mem_singleton.1 hmem]

lemma extendBody {body addition : Text} (hbody : IsFlat body) (hadd : IsFlat addition) :
    IsFlat (Interpreter.extendBody body addition) := by
  by_cases hnil : body = []
  · subst hnil
    rwa [Interpreter.extendBody_nil]
  · rw [Interpreter.extendBody_of_ne hnil]
    intro word hword
    rw [pieces_append_space, dropEmpty_append, List.mem_append] at hword
    rcases hword with hword | hword
    · exact hbody word hword
    · exact hadd word hword

/-- A flat text consists of spaces and of the characters of its words. -/
lemma eq_space_or_mem (h : IsFlat t) {c : Char} (hc : c ∈ t) :
    c = ' ' ∨ ∃ word, IsWord word ∧ c ∈ word := by
  by_cases hspace : c = ' '
  · exact Or.inl hspace
  · have hmem : c ∈ (dropEmpty (pieces t)).flatten := by
      rw [flatten_dropEmpty_pieces]
      exact List.mem_filter.2 ⟨hc, by simpa using hspace⟩
    obtain ⟨word, hword, hcw⟩ := List.mem_flatten.1 hmem
    exact Or.inr ⟨word, (h word hword).isWord, hcw⟩

lemma lower_eq (h : IsFlat t) : lower t = t := by
  refine lower_eq_self_iff.2 fun c hc => ?_
  rcases h.eq_space_or_mem hc with rfl | ⟨word, hword, hcw⟩
  · decide +kernel
  · exact lower_eq_self_iff.1 hword.lower_eq c hcw

lemma eq_space (h : IsFlat t) : ∀ c ∈ t, isBlank c = true → c = ' ' := by
  intro c hc hblank
  rcases h.eq_space_or_mem hc with hspace | ⟨word, hword, hcw⟩
  · exact hspace
  · rw [hword.unblank c hcw] at hblank
    exact absurd hblank (by decide)

end IsFlat

/-! ## How a flat text runs -/

/-- An event at the beginning is not touched by what is added at the end. -/
lemma Traced.onFailure_cons {ω ε α : Type} (w : ω) (x : Traced ω ε α) (events : ε → List ω) :
    onFailure ⟨w :: x.trace, x.outcome⟩ events =
      ⟨w :: (x.onFailure events).trace, x.outcome⟩ := by
  unfold onFailure
  cases hx : x.outcome <;> rfl

/-- A failure for the values that a word is given or for the length of a literal, and not for a
word or for the number of levels. -/
def Failure.OfOperands (e : Failure) : Prop :=
  e = .word .stackUnderflow ∨ e = .word .divisionByZero ∨ ∃ error, e = .limit error

namespace Interpreter

variable {i j : Interpreter} {word : Text}

/-- No built-in word is defined. -/
def KeepsBuiltIns (i : Interpreter) : Prop := ∀ p : Primitive, i.definitions.lookup p.name = none

/-- A run from `i` that evaluates no further text. -/
structure Straight (i : Interpreter) (x : Run) : Prop where
  /-- It changes the stack only. -/
  kept : ∀ {j : Interpreter}, x.outcome = .ok j → ∃ s, j = { i with stack := s }
  /-- It does not fail for want of a meaning. -/
  failed : ∀ {e : Failure}, x.outcome = .error e → e.OfOperands
  /-- It begins the evaluation of no text. -/
  quiet : ∀ text, Event.evaluating text ∉ x.trace

lemma Straight.done (i : Interpreter) (s : Stack Int) :
    Straight i (.done { i with stack := s }) := by
  refine ⟨fun h => ⟨s, (Except.ok.inj h).symm⟩, fun h => absurd h (by simp), fun text => ?_⟩
  exact List.not_mem_nil

lemma Straight.fail {e : Failure} (he : e.OfOperands) (i : Interpreter) :
    Straight i (.fail e) := by
  refine ⟨fun h => absurd h (by simp), fun h => ?_, fun text => List.not_mem_nil⟩
  obtain rfl := Except.error.inj h
  exact he

/-- Passing on a failure records no evaluation. -/
lemma Straight.onFailure {x : Run} (h : Straight i x) (word : Text) :
    Straight i (x.onFailure (failureEvents word)) := by
  refine ⟨fun hj => h.kept (by simpa using hj), fun he => h.failed (by simpa using he), ?_⟩
  intro text
  unfold Traced.onFailure
  split
  · next e he =>
    have hevents : Event.evaluating text ∉ failureEvents word e := by
      cases e <;> simp [failureEvents]
    simpa [hevents] using h.quiet text
  · exact h.quiet text

lemma Straight.andThen {x : Run} {f : Interpreter → Run} (h : Straight i x)
    (hf : ∀ s, Straight { i with stack := s } (f { i with stack := s })) :
    Straight i (x.andThen f) := by
  cases hx : x.outcome with
  | error e =>
    have heq : x.andThen f = ⟨x.trace, .error e⟩ := by rw [Traced.andThen, hx]
    rw [heq]
    exact ⟨fun hj => absurd hj (by simp), fun he => h.failed (hx.trans he), h.quiet⟩
  | ok j =>
    obtain ⟨s, rfl⟩ := h.kept hx
    have heq : x.andThen f = ⟨x.trace ++ (f { i with stack := s }).trace,
        (f { i with stack := s }).outcome⟩ := by rw [Traced.andThen, hx]
    rw [heq]
    refine ⟨(hf s).kept, (hf s).failed, fun text hmem => ?_⟩
    rcases List.mem_append.1 hmem with hmem | hmem
    · exact h.quiet text hmem
    · exact (hf s).quiet text hmem

/-- A literal or built-in word has no body, for a literal is read before definitions are looked
up. -/
lemma KeepsBuiltIns.expansion?_eq (h : i.KeepsBuiltIns) (hword : IsBasic word) :
    i.expansion? word = none := by
  rw [Option.eq_none_iff_forall_ne_some]
  intro body hbody
  obtain ⟨-, -, -, hread, hlook⟩ := expansion?_eq_some_iff.1 hbody
  rcases hword with hword | ⟨p, rfl⟩
  · exact Literal.read_ne_none hword hread
  · rw [h p] at hlook
    exact absurd hlook (by simp)

/-- A word that is read as a number stands for it, whatever is defined. -/
lemma meaning_of_read {n : Int} (hcolon : word ≠ colon) (hread : Literal.read word = .ok (some n)) :
    i.meaning word = .ok (.number n) := by
  rw [meaning, if_neg hcolon, hread]

/-- A built-in word stands for itself where it is not defined. -/
lemma meaning_name {p : Primitive} (hlook : i.definitions.lookup p.name = none) :
    i.meaning p.name = .ok (.primitive p) := by
  rw [meaning, if_neg p.isWord_name.ne_colon, p.read_name]
  simp only [hlook, Primitive.ofName?_eq_some_iff.2 rfl]

/-- One literal or built-in word runs straight. -/
lemma straight_step (h : i.KeepsBuiltIns) (hmode : i.mode = .evaluating) (hword : IsBasic word)
    (expand : Interpreter → Text → Run) : Straight i (step expand i word) := by
  rw [step_of_evaluating expand hword.isWord.ne_nil hmode]
  refine Straight.onFailure ?_ word
  have hcolon := hword.isWord.ne_colon
  rcases hword with hword | ⟨p, rfl⟩
  · cases hread : Literal.read word with
    | error e =>
      have hmeaning : i.meaning word = .error e := by rw [meaning, if_neg hcolon, hread]
      rw [perform, hmeaning]
      exact .fail (Or.inr (Or.inr ⟨e, rfl⟩)) i
    | ok value =>
      cases value with
      | none => exact absurd hread (Literal.read_ne_none hword)
      | some n =>
        rw [perform, meaning_of_read hcolon hread]
        exact .done i (i.stack.push n)
  · rw [perform, meaning_name (h p)]
    cases hrun : p.run i.stack with
    | ok s => simpa only [hrun] using Straight.done i s
    | error e =>
      have he : (Failure.word e).OfOperands := by
        rcases Primitive.run_error hrun with rfl | rfl
        · exact Or.inl rfl
        · exact Or.inr (Or.inl rfl)
      simpa only [hrun] using Straight.fail he i

/-- Literals and built-in words run straight one after the other. -/
lemma straight_steps {words : List Text} (h : i.KeepsBuiltIns) (hmode : i.mode = .evaluating)
    (hwords : ∀ t ∈ words, IsBasic t) (expand : Interpreter → Text → Run) :
    Straight i (steps expand words i) := by
  induction words generalizing i with
  | nil => exact .done i i.stack
  | cons t rest ih =>
    rw [List.forall_mem_cons] at hwords
    -- the stack is all that a word changes, so what follows starts under the same conditions
    exact (straight_step h hmode hwords.1 expand).andThen fun s => ih h hmode hwords.2

/-- Literals and built-in words run alike whatever is done with bodies. -/
lemma steps_expand_irrel {words : List Text} (h : i.KeepsBuiltIns) (hmode : i.mode = .evaluating)
    (hwords : ∀ t ∈ words, IsBasic t) (expand expand' : Interpreter → Text → Run) :
    steps expand words i = steps expand' words i := by
  induction words generalizing i with
  | nil => rfl
  | cons t rest ih =>
    rw [List.forall_mem_cons] at hwords
    rw [steps, steps, step_of_no_expansion expand expand' (h.expansion?_eq hwords.1)]
    refine Traced.andThen_congr fun j hj => ?_
    obtain ⟨s, rfl⟩ := (straight_step h hmode hwords.1 expand').kept hj
    exact ih h hmode hwords.2

/-- **A flat text runs straight, and alike for every number of levels.** -/
theorem exists_straight_of_isFlat {body : Text} (h : i.KeepsBuiltIns)
    (hmode : i.mode = .evaluating) (hbody : IsFlat body) :
    ∃ x : Run, Straight i x ∧
      ∀ limit, eval limit i body = ⟨.evaluating body :: x.trace, x.outcome⟩ := by
  refine ⟨steps (inner 0) (dropEmpty (pieces body)) i, straight_steps h hmode hbody _, ?_⟩
  intro limit
  have hsteps : steps (inner limit) (tokenize body) i =
      steps (inner 0) (dropEmpty (pieces body)) i := by
    rw [steps_tokenize hbody.lower_eq hbody.eq_space]
    exact steps_expand_irrel h hmode hbody _ _
  rw [eval_eq_evalWith, ← hsteps]
  rfl

end Interpreter

/-! ## Words that refer to nothing that is still to be defined -/

/-- The word has a meaning in the mode, or names a new definition without taking the place of a
built-in word. -/
def Mode.Admits : Mode → Dictionary → Text → Prop
  | .evaluating, D, word => word = colon ∨ IsBasic word ∨ (D.lookup word).isSome
  | .awaitingName, _, word => ¬ IsBuiltIn word
  | .capturing _ _, D, word => word = semicolon ∨ IsBasic word ∨ (D.lookup word).isSome

instance : (m : Mode) → (D : Dictionary) → (word : Text) → Decidable (m.Admits D word)
  | .evaluating, D, word =>
    inferInstanceAs (Decidable (word = colon ∨ IsBasic word ∨ (D.lookup word).isSome))
  | .awaitingName, _, word => inferInstanceAs (Decidable (¬ IsBuiltIn word))
  | .capturing _ _, D, word =>
    inferInstanceAs (Decidable (word = semicolon ∨ IsBasic word ∨ (D.lookup word).isSome))

namespace Interpreter

variable {i j : Interpreter} {word program : Text} {limit : Nat}

/-- Every word is admitted at the moment it is met, until one fails.  Empty words are passed
over. -/
def AllAdmitted (limit : Nat) : List Text → Interpreter → Prop
  | [], _ => True
  | word :: rest, i => (word ≠ [] → i.mode.Admits i.definitions word) ∧
      match (step (inner limit) i word).outcome with
      | .ok j => AllAdmitted limit rest j
      | .error _ => True

instance decidableAllAdmitted (limit : Nat) :
    (words : List Text) → (i : Interpreter) → Decidable (AllAdmitted limit words i)
  | [], _ => isTrue trivial
  | word :: rest, i =>
    have : Decidable (match (step (inner limit) i word).outcome with
        | .ok j => AllAdmitted limit rest j
        | .error _ => True) :=
      match (step (inner limit) i word).outcome with
      | .ok j => decidableAllAdmitted limit rest j
      | .error _ => isTrue trivial
    inferInstanceAs (Decidable ((word ≠ [] → i.mode.Admits i.definitions word) ∧ _))

/-- The interpreter after a program: the one that the program leaves, or if it fails the one that
it was given. -/
def attempt (limit : Nat) (i : Interpreter) (program : Text) : Interpreter :=
  match (eval limit i program).outcome with
  | .ok j => j
  | .error _ => i

/-- A session in which no word refers to one that is still to be defined. -/
inductive NoForward : Interpreter → Prop
  /-- No program has been evaluated. -/
  | new : NoForward .new
  /-- One more program has been tried. -/
  | attempt {i : Interpreter} {limit : Nat} {program : Text} (hi : NoForward i)
      (h : AllAdmitted limit (tokenize program) i) : NoForward (i.attempt limit program)

/-- The definitions are flat and of names that are not built in, those stored and the one being
captured. -/
structure Flat (i : Interpreter) : Prop where
  /-- What is stored. -/
  stored : ∀ {name body : Text}, i.definitions.lookup name = some body →
    IsFlat body ∧ ¬ IsBuiltIn name
  /-- What is being captured. -/
  captured : ∀ {name body : Text}, i.mode = .capturing name body → IsFlat body ∧ ¬ IsBuiltIn name

lemma flat_new : Flat new :=
  ⟨fun h => absurd h (by simp [new]), fun h => absurd h (by simp [new])⟩

lemma Flat.keepsBuiltIns (h : Flat i) : i.KeepsBuiltIns := by
  intro p
  rw [Option.eq_none_iff_forall_ne_some]
  intro body hlook
  exact (h.stored hlook).2 ⟨p, rfl⟩

lemma Flat.isFlat_expansionOf (h : Flat i)
    (hword : IsBasic word ∨ (i.definitions.lookup word).isSome) : IsFlat (i.expansionOf word) := by
  rw [expansionOf]
  cases hlook : i.definitions.lookup word with
  | some body => exact (h.stored hlook).1
  | none =>
    rw [hlook] at hword
    rcases hword with hword | hword
    · exact .of_isBasic hword
    · exact absurd hword (by simp)

/-- One effect keeps definitions flat if the word is admitted. -/
lemma Flat.acts (h : Flat i) (hword : word ≠ [] → i.mode.Admits i.definitions word)
    (hacts : Acts i word j) : Flat j := by
  cases hacts with
  | skip => exact h
  | name hmode hne hcolon hsemicolon hread =>
    refine ⟨h.stored, fun hmode' => ?_⟩
    obtain ⟨rfl, rfl⟩ := Mode.capturing.inj hmode'
    have hadmits := hword hne
    rw [hmode] at hadmits
    exact ⟨.nil, hadmits⟩
  | store hmode =>
    refine ⟨fun hlook => ?_, fun hmode' => absurd hmode' (by simp [Interpreter.define])⟩
    rcases lookup_of_lookup_define hlook with ⟨rfl, rfl⟩ | hlook
    · exact h.captured hmode
    · exact h.stored hlook
  | extend hmode hne hsemicolon =>
    refine ⟨h.stored, fun hmode' => ?_⟩
    obtain ⟨rfl, rfl⟩ := Mode.capturing.inj hmode'
    obtain ⟨hbody, hname⟩ := h.captured hmode
    have hadmits := hword hne
    rw [hmode] at hadmits
    exact ⟨hbody.extendBody (h.isFlat_expansionOf (hadmits.resolve_left hsemicolon)), hname⟩
  | opening hmode => exact ⟨h.stored, fun hmode' => absurd hmode' (by simp)⟩
  | push hmode hcolon hread => exact ⟨h.stored, h.captured⟩
  | primitive hmode hcolon hread hlook hname hrun => exact ⟨h.stored, h.captured⟩

/-- One word keeps definitions flat.  A word that is expanded runs a flat body, which changes the
stack only. -/
lemma Flat.step (h : Flat i) (hword : word ≠ [] → i.mode.Admits i.definitions word)
    (hstep : (step (inner limit) i word).outcome = .ok j) : Flat j := by
  cases hexp : i.expansion? word with
  | none =>
    rw [outcome_step_act _ hexp] at hstep
    exact h.acts hword (acts_of_act hstep)
  | some body =>
    rw [outcome_step_expand _ hexp] at hstep
    obtain ⟨-, hmode, -, -, hlook⟩ := expansion?_eq_some_iff.1 hexp
    cases limit with
    | zero => exact absurd hstep (by simp [inner])
    | succ limit =>
      obtain ⟨x, hx, heval⟩ := exists_straight_of_isFlat h.keepsBuiltIns hmode (h.stored hlook).1
      rw [inner, heval] at hstep
      obtain ⟨s, rfl⟩ := hx.kept hstep
      exact ⟨h.stored, h.captured⟩

/-- Words that are admitted keep definitions flat. -/
lemma Flat.steps {words : List Text} (h : Flat i) (hwords : AllAdmitted limit words i)
    (hsteps : (steps (inner limit) words i).outcome = .ok j) : Flat j := by
  induction words generalizing i with
  | nil =>
    obtain rfl := Except.ok.inj hsteps
    exact h
  | cons word rest ih =>
    obtain ⟨hword, hrest⟩ := hwords
    cases hstep : (Interpreter.step (inner limit) i word).outcome with
    | error e =>
      rw [outcome_steps_of_error hstep] at hsteps
      exact absurd hsteps (by simp)
    | ok k =>
      rw [hstep] at hrest
      rw [outcome_steps_of_ok hstep] at hsteps
      exact ih (h.step hword hstep) hrest hsteps

/-- **A session without forward references keeps definitions flat.** -/
theorem NoForward.flat (h : NoForward i) : Flat i := by
  induction h with
  | new => exact flat_new
  | @attempt i limit program _ hwords ih =>
    unfold Interpreter.attempt
    split
    · next j hj =>
      rw [outcome_eval] at hj
      exact ih.steps hwords hj
    · exact ih

lemma NoForward.reachable (h : NoForward i) : Reachable i := by
  induction h with
  | new => exact .new
  | attempt _ _ ih =>
    unfold Interpreter.attempt
    split
    · next j hj => exact .eval ih hj
    · exact ih

/-- **Sessions without forward references stay flat.**  Every stored body consists of literals and
built-in words, and no built-in word is defined.  So evaluating a defined word expands one level
and no more: it begins the evaluation of its body and of no other text, and does the same for
every number of further levels.  It does not fail for an unknown word, for a name or for the
number of levels. -/
theorem session_stays_flat (hi : NoForward i) :
    (∀ name body, i.definitions.lookup name = some body → IsFlat body) ∧
    (∀ p : Primitive, i.definitions.lookup p.name = none) ∧
    (i.mode = .evaluating → ∀ name body, i.definitions.lookup name = some body → ∀ limit,
      command limit i name = command 0 i name ∧
      (∃ events, (command limit i name).trace = .evaluating body :: events ∧
        ∀ text, Event.evaluating text ∉ events) ∧
      (command limit i name).outcome ≠ .error (.word .unknownWord) ∧
      (command limit i name).outcome ≠ .error (.word .invalidWord) ∧
      (command limit i name).outcome ≠ .error .tooDeep) := by
  have hflat := hi.flat
  refine ⟨fun name body hlook => (hflat.stored hlook).1, hflat.keepsBuiltIns, ?_⟩
  intro hmode name body hlook limit
  have hexp := hi.reachable.wellFormed.expansion?_eq hmode hlook
  obtain ⟨x, hx, heval⟩ :=
    exists_straight_of_isFlat hflat.keepsBuiltIns hmode (hflat.stored hlook).1
  -- the events that passing on a failure adds come after the one event that matters
  have hcommand : ∀ limit, command limit i name =
      ⟨.evaluating body :: (x.onFailure (failureEvents name)).trace, x.outcome⟩ := by
    intro limit
    rw [command, step_of_expansion _ hexp, heval]
    exact Traced.onFailure_cons _ x _
  have hfailed : ∀ {e : Failure}, ¬ e.OfOperands → (command limit i name).outcome ≠ .error e := by
    intro e he hfail
    rw [hcommand] at hfail
    exact he (hx.failed hfail)
  refine ⟨by rw [hcommand, hcommand], ⟨_, ?_, (hx.onFailure name).quiet⟩, ?_⟩
  · rw [hcommand]
  · exact ⟨hfailed (by simp [Failure.OfOperands]), hfailed (by simp [Failure.OfOperands]),
      hfailed (by simp [Failure.OfOperands])⟩

/-- The interpreter after the programs `: sq dup * ;`, then `sq`, which fails for want of a value,
then `: SQ sq 1 + ;`, which takes the former meaning over, and `3`. -/
def afterSquares : Interpreter :=
  [[':', ' ', 's', 'q', ' ', 'd', 'u', 'p', ' ', '*', ' ', ';'], ['s', 'q'],
    [':', ' ', 'S', 'Q', ' ', 's', 'q', ' ', '1', ' ', '+', ' ', ';'], ['3']].foldl (attempt 1) new

/-- After the session `sq` has a flat body, and it leaves 10 for 3 with no level below its own. -/
theorem session_stays_flat_squares :
    NoForward afterSquares ∧
      (∃ body, afterSquares.definitions.lookup ['s', 'q'] = some body ∧ IsFlat body ∧
        body = ['d', 'u', 'p', ' ', '*', ' ', '1', ' ', '+']) ∧
      (∃ j, (command 0 afterSquares ['s', 'q']).outcome = .ok j ∧
        j.stack = Stack.empty.push 10) ∧
      ∀ limit, command limit afterSquares ['s', 'q'] = command 0 afterSquares ['s', 'q'] := by
  have hsession : NoForward afterSquares := by
    rw [afterSquares, List.foldl_cons, List.foldl_cons, List.foldl_cons, List.foldl_cons,
      List.foldl_nil]
    refine .attempt (.attempt (.attempt (.attempt .new ?_) ?_) ?_) ?_ <;> decide +kernel
  have hlook : afterSquares.definitions.lookup ['s', 'q'] =
      some ['d', 'u', 'p', ' ', '*', ' ', '1', ' ', '+'] := by decide +kernel
  have hmode : afterSquares.mode = .evaluating := by decide +kernel
  obtain ⟨hflat, -, hruns⟩ := session_stays_flat hsession
  refine ⟨hsession, ⟨_, hlook, hflat _ _ hlook, rfl⟩, ?_, fun limit => ?_⟩
  · exact ⟨{ afterSquares with stack := Stack.empty.push 10 }, by decide +kernel, rfl⟩
  · exact (hruns hmode _ _ hlook limit).1

end Interpreter

end ColonForth
