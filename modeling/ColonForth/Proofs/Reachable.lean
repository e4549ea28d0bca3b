import ColonForth.Proofs.Literal
import ColonForth.Proofs.Simulation
import ColonForth.Proofs.Tokens

/-!
# Reachable interpreters

An interpreter is reachable if programs lead to it from the new one; a program that fails leaves
the interpreter that it was given.  The definitions of a reachable interpreter are well formed:

* a name is a token that is neither empty, a colon, a semicolon nor a literal;
* a body is in lower case, and no piece of it is a semicolon.

The same holds of a definition that is being captured, which is what makes this an invariant: names
and words of bodies come from programs, from the bodies of other words, and from definitions that
were opened by an earlier program.

So no rule of evaluation that comes before the look-up of definitions applies to a name, and a
defined word always has its body evaluated (`definitions_unshadowed`).
-/

namespace ColonForth

open Text

/-- A word that a definition can give a meaning to. -/
structure IsName (name : Text) : Prop where
  /-- Empty words are passed over. -/
  ne_nil : name ≠ []
  /-- It was cut from a program. -/
  token : IsToken name
  /-- The colon opens definitions. -/
  ne_colon : name ≠ colon
  /-- The semicolon ends definitions. -/
  ne_semicolon : name ≠ semicolon
  /-- Literals stand for numbers. -/
  read_eq : Literal.read name = .ok none

instance (name : Text) : Decidable (IsName name) :=
  decidable_of_iff (name ≠ [] ∧ IsToken name ∧ name ≠ colon ∧ name ≠ semicolon ∧
      Literal.read name = .ok none)
    ⟨fun h => ⟨h.1, h.2.1, h.2.2.1, h.2.2.2.1, h.2.2.2.2⟩,
      fun h => ⟨h.ne_nil, h.token, h.ne_colon, h.ne_semicolon, h.read_eq⟩⟩

/-- A literal would have been refused as a name. -/
lemma IsName.not_isLiteral {name : Text} (h : IsName name) : ¬ IsLiteral name :=
  fun hlit => Literal.read_ne_none hlit h.read_eq

/-- A text that a definition can hold. -/
structure IsBody (body : Text) : Prop where
  /-- Its words were cut from programs. -/
  lower_eq : lower body = body
  /-- A semicolon would have ended the definition. -/
  semicolon_not_mem : semicolon ∉ pieces body

lemma isBody_nil : IsBody [] := ⟨rfl, by decide⟩

lemma IsToken.isBody {t : Text} (h : IsToken t) (hne : t ≠ semicolon) : IsBody t := by
  refine ⟨h.lower_eq, ?_⟩
  rw [pieces_of_not_mem h.noSpace, List.mem_singleton]
  exact fun he => hne he.symm

namespace Interpreter

lemma extendBody_nil (addition : Text) : extendBody [] addition = addition := rfl

lemma extendBody_of_ne {body : Text} (h : body ≠ []) (addition : Text) :
    extendBody body addition = body ++ ' ' :: addition := by
  rw [extendBody, if_neg (by simpa using h)]

end Interpreter

open Interpreter

/-- A body stays one when a body is added to it. -/
lemma IsBody.extendBody {body addition : Text} (hbody : IsBody body) (hadd : IsBody addition) :
    IsBody (extendBody body addition) := by
  by_cases hnil : body = []
  · subst hnil
    rwa [extendBody_nil]
  · rw [extendBody_of_ne hnil]
    refine ⟨lower_eq_self_iff.2 fun c hc => ?_, ?_⟩
    · rw [List.mem_append, List.mem_cons] at hc
      rcases hc with hc | rfl | hc
      · exact lower_eq_self_iff.1 hbody.lower_eq c hc
      · decide +kernel
      · exact lower_eq_self_iff.1 hadd.lower_eq c hc
    · rw [pieces_append_space, List.mem_append, not_or]
      exact ⟨hbody.semicolon_not_mem, hadd.semicolon_not_mem⟩

namespace Interpreter

/-- An interpreter that programs lead to from the new one. -/
inductive Reachable : Interpreter → Prop
  /-- No program has been evaluated. -/
  | new : Reachable .new
  /-- One more program has gone well. -/
  | eval {i j : Interpreter} {limit : Nat} {program : Text} (hi : Reachable i)
      (h : (eval limit i program).outcome = .ok j) : Reachable j

/-- The definitions are well formed, those stored and the one being captured. -/
structure WellFormed (i : Interpreter) : Prop where
  /-- What is stored. -/
  stored : ∀ {name body : Text}, i.definitions.lookup name = some body → IsName name ∧ IsBody body
  /-- What is being captured. -/
  captured : ∀ {name body : Text}, i.mode = .capturing name body → IsName name ∧ IsBody body

variable {i j : Interpreter} {word : Text}

lemma wellFormed_new : WellFormed new :=
  ⟨fun h => absurd h (by simp [new]), fun h => absurd h (by simp [new])⟩

lemma WellFormed.isBody_expansionOf (h : WellFormed i) (hword : IsToken word)
    (hne : word ≠ semicolon) : IsBody (i.expansionOf word) := by
  rw [expansionOf]
  cases hlook : i.definitions.lookup word with
  | none => exact hword.isBody hne
  | some body => exact (h.stored hlook).2

/-- What is stored after a definition was stored before it, or is the definition. -/
lemma lookup_of_lookup_define {name body other text : Text}
    (h : (i.define name body).definitions.lookup other = some text) :
    other = name ∧ text = body ∨ i.definitions.lookup other = some text := by
  rw [define] at h
  by_cases hother : other = name
  · rw [hother, Dictionary.lookup_insert_self] at h
    exact Or.inl ⟨hother, (Option.some.inj h).symm⟩
  · rw [Dictionary.lookup_insert_of_ne _ _ hother] at h
    exact Or.inr h

lemma WellFormed.define (h : WellFormed i) {name body : Text} (hname : IsName name)
    (hbody : IsBody body) : WellFormed (i.define name body) := by
  refine ⟨fun hlook => ?_, fun hmode => absurd hmode (by simp [Interpreter.define])⟩
  rcases lookup_of_lookup_define hlook with ⟨rfl, rfl⟩ | hlook
  · exact ⟨hname, hbody⟩
  · exact h.stored hlook

/-- One word keeps definitions well formed. -/
lemma WellFormed.acts (h : WellFormed i) (hword : IsToken word) (hacts : Acts i word j) :
    WellFormed j := by
  cases hacts with
  | skip => exact h
  | name hmode hne hcolon hsemicolon hread =>
    -- what makes a word a name has been checked by the rule that lets it open a definition
    refine ⟨h.stored, fun hmode' => ?_⟩
    obtain ⟨rfl, rfl⟩ := Mode.capturing.inj hmode'
    exact ⟨⟨hne, hword, hcolon, hsemicolon, hread⟩, isBody_nil⟩
  | store hmode =>
    obtain ⟨hname, hbody⟩ := h.captured hmode
    exact h.define hname hbody
  | extend hmode hne hsemicolon =>
    refine ⟨h.stored, fun hmode' => ?_⟩
    obtain ⟨rfl, rfl⟩ := Mode.capturing.inj hmode'
    obtain ⟨hname, hbody⟩ := h.captured hmode
    exact ⟨hname, hbody.extendBody (h.isBody_expansionOf hword hsemicolon)⟩
  | opening hmode => exact ⟨h.stored, fun hmode' => absurd hmode' (by simp)⟩
  | push hmode hcolon hread => exact ⟨h.stored, h.captured⟩
  | primitive hmode hcolon hread hlook hname hrun => exact ⟨h.stored, h.captured⟩

/-- No word breaks well-formed definitions, if the words still to come are tokens. -/
lemma preserved_wellFormed : Preserved fun queue i => WellFormed i ∧ ∀ t ∈ queue, IsToken t := by
  refine ⟨?_, ?_⟩
  · rintro word queue i j ⟨hi, hqueue⟩ - hacts
    rw [List.forall_mem_cons] at hqueue
    exact ⟨hi.acts hqueue.1 hacts, hqueue.2⟩
  · rintro word body queue i ⟨hi, hqueue⟩ -
    rw [List.forall_mem_cons] at hqueue
    refine ⟨hi, fun t ht => ?_⟩
    rcases List.mem_append.1 ht with ht | ht
    · exact isToken_of_mem_tokenize ht
    · exact hqueue.2 t ht

/-- **The definitions of a reachable interpreter are well formed.** -/
theorem Reachable.wellFormed (h : Reachable i) : WellFormed i := by
  induction h with
  | new => exact wellFormed_new
  | eval _ heval ih =>
    exact (preserved_wellFormed.eval ⟨ih, fun t ht => isToken_of_mem_tokenize ht⟩ heval).1

/-! ## No definition is shadowed -/

/-- A defined word is replaced by its body wherever it is evaluated: what makes it a name keeps it
from being passed over, from opening a definition and from being read as a number. -/
lemma WellFormed.expansion?_eq {name body : Text} (h : WellFormed i) (hmode : i.mode = .evaluating)
    (hlook : i.definitions.lookup name = some body) : i.expansion? name = some body := by
  obtain ⟨hname, -⟩ := h.stored hlook
  exact expansion?_eq_some_iff.2 ⟨hname.ne_nil, hmode, hname.ne_colon, hname.read_eq, hlook⟩

/-- **Names and bodies of a reachable interpreter, and that no definition is shadowed.**  Stored or
being captured, a name is a word in lower case without spaces that is neither empty, a colon, a
semicolon nor a literal, and a body is in lower case without a semicolon among its pieces.  So a
defined word runs as its body does one level deeper, up to the failures that are recorded on the
way out; without a level left it fails. -/
theorem definitions_unshadowed (hi : Reachable i) :
    (∀ name body, i.definitions.lookup name = some body ∨ i.mode = .capturing name body →
      (name ≠ [] ∧ ' ' ∉ name ∧ lower name = name ∧ name ≠ colon ∧ name ≠ semicolon ∧
        ¬ IsLiteral name) ∧ lower body = body ∧ semicolon ∉ pieces body) ∧
    (i.mode = .evaluating → ∀ name body, i.definitions.lookup name = some body →
      (∀ limit, command limit i name = (eval limit i body).onFailure (failureEvents name) ∧
        (command limit i name).outcome = (eval limit i body).outcome) ∧
      (step (inner 0) i name).outcome = .error .tooDeep) := by
  have hwf := hi.wellFormed
  refine ⟨fun name body h => ?_, fun hmode name body hlook => ?_⟩
  · have hboth : IsName name ∧ IsBody body := by
      rcases h with hstored | hcaptured
      · exact hwf.stored hstored
      · exact hwf.captured hcaptured
    obtain ⟨hname, hbody⟩ := hboth
    exact ⟨⟨hname.ne_nil, hname.token.noSpace, hname.token.lower_eq, hname.ne_colon,
      hname.ne_semicolon, hname.not_isLiteral⟩, hbody.lower_eq, hbody.semicolon_not_mem⟩
  · have hexp := hwf.expansion?_eq hmode hlook
    refine ⟨fun limit => ⟨?_, ?_⟩, ?_⟩
    · exact step_of_expansion (eval limit) hexp
    · exact outcome_step_expand (eval limit) hexp
    · exact outcome_step_expand (inner 0) hexp

/-- After `: + - ;` the word `+` subtracts, a sign that begins no literal; and after `: X 1` the
definition of `x` is open, its name in lower case and no literal. -/
theorem definitions_unshadowed_plus :
    Reachable (new.define ['+'] ['-']) ∧
      (∀ limit, (command limit (new.define ['+'] ['-']) ['+']).outcome =
        (eval limit (new.define ['+'] ['-']) ['-']).outcome) ∧
      Reachable { new with mode := .capturing ['x'] ['1'] } ∧
      lower ['x'] = ['x'] ∧ ¬ IsLiteral ['x'] ∧ semicolon ∉ pieces ['1'] := by
  have hplus : Reachable (new.define ['+'] ['-']) :=
    @Reachable.eval _ _ 0 [':', ' ', '+', ' ', '-', ' ', ';'] .new (by decide +kernel)
  have hopen : Reachable { new with mode := .capturing ['x'] ['1'] } :=
    @Reachable.eval _ _ 0 [':', ' ', 'X', ' ', '1'] .new (by decide +kernel)
  obtain ⟨hruns, -⟩ := (definitions_unshadowed hplus).2 rfl ['+'] ['-'] rfl
  obtain ⟨⟨-, -, hlower, -, -, hliteral⟩, -, hbody⟩ :=
    (definitions_unshadowed hopen).1 ['x'] ['1'] (Or.inr rfl)
  exact ⟨hplus, fun limit => (hruns limit).2, hopen, hlower, hliteral, hbody⟩

end Interpreter

end ColonForth
