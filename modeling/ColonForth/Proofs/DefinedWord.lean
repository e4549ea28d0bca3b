import ColonForth.Proofs.Capture
import Mathlib.Data.Bool.AllAny

/-!
# A defined word means its body

Defining a word by some words and running it is the same as evaluating these words, as far as the
stack and the errors show.  What is run is not the words themselves: it is the text that capturing
made of them, cut again, one level deeper and with a table that has one more entry.  Three facts
bridge the gap:

* a word that is defined already was replaced by its body when it was captured, and is replaced by
  it one level deeper when it is evaluated, so the levels are the same on both sides;
* the new entry is never looked up, since no stored body uses the name (`simulates_apart`);
* empty bodies leave spaces behind, which are cut into empty words.

The words may use the name itself if it was defined before; the new definition then uses the
former meaning.
-/

namespace ColonForth

open Text

/-- A word as it is written in a program: not empty, in lower case, without blanks, and neither
the colon nor the semicolon. -/
structure IsWord (t : Text) : Prop where
  /-- It is not empty. -/
  ne_nil : t ≠ []
  /-- It is in lower case. -/
  lower_eq : lower t = t
  /-- It has no blank in it. -/
  unblank : Unblank t
  /-- It opens no definition. -/
  ne_colon : t ≠ colon
  /-- It ends no definition. -/
  ne_semicolon : t ≠ semicolon

instance (t : Text) : Decidable (IsWord t) :=
  decidable_of_iff (t ≠ [] ∧ lower t = t ∧ Unblank t ∧ t ≠ colon ∧ t ≠ semicolon)
    ⟨fun h => ⟨h.1, h.2.1, h.2.2.1, h.2.2.2.1, h.2.2.2.2⟩,
      fun h => ⟨h.ne_nil, h.lower_eq, h.unblank, h.ne_colon, h.ne_semicolon⟩⟩

lemma IsWord.isToken {t : Text} (h : IsWord t) : IsToken t :=
  ⟨h.unblank.space_not_mem, h.lower_eq⟩

namespace Interpreter

/-! ## Tables that differ at a name that is not used -/

/-- Two interpreters that evaluate words other than `name`, with the tables `D` and `D'`. -/
structure Apart (name : Text) (D D' : Dictionary) (queue : List Text) (j j' : Interpreter) :
    Prop where
  /-- The stacks are equal. -/
  stack : j.stack = j'.stack
  /-- The first evaluates. -/
  mode : j.mode = .evaluating
  /-- The second evaluates. -/
  mode' : j'.mode = .evaluating
  /-- The table of the first. -/
  table : j.definitions = D
  /-- The table of the second. -/
  table' : j'.definitions = D'
  /-- The words still to come neither use the name nor open a definition. -/
  unused : ∀ t ∈ queue, t ≠ name ∧ t ≠ colon

variable {name : Text} {D D' : Dictionary} {i j j' : Interpreter}

lemma Apart.agreeOn {word : Text} {queue : List Text} (h : Apart name D D' queue j j')
    (hlook : D.lookup word = D'.lookup word) : AgreeOn (fun t => t = word) j j' := by
  refine ⟨h.stack, h.mode.trans h.mode'.symm, ?_⟩
  rintro _ rfl
  rw [h.table, h.table', hlook]

/-- A word without a body keeps two interpreters apart. -/
lemma Apart.act {word : Text} {queue rest : List Text} (h : Apart name D D' queue j j')
    (hlook : D.lookup word = D'.lookup word) (hcolon : word ≠ colon)
    (hrest : ∀ t ∈ rest, t ≠ name ∧ t ≠ colon) :
    Agree (Apart name D D' rest) (j.act word) (j'.act word) := by
  refine ((h.agreeOn hlook).act fun _ => rfl).imp fun k k' hk hk' hagree => ?_
  obtain ⟨hmode, htable⟩ := (acts_of_act hk).of_evaluating h.mode hcolon
  obtain ⟨hmode', htable'⟩ := (acts_of_act hk').of_evaluating h.mode' hcolon
  exact ⟨hagree.stack, hmode, hmode', htable.trans h.table, htable'.trans h.table', hrest⟩

/-- Evaluation goes alike with two tables that differ at a name which no stored body uses. -/
lemma simulates_apart (hlook : ∀ t, t ≠ name → D.lookup t = D'.lookup t)
    (hD : ∀ word body, D.lookup word = some body → ∀ t ∈ tokenize body, t ≠ name ∧ t ≠ colon) :
    Simulates (Apart name D D') := by
  refine ⟨?_, ?_⟩
  · intro word queue j j' h hexp
    obtain ⟨hword, hrest⟩ := List.forall_mem_cons.1 h.unused
    have hsame := hlook word hword.1
    refine ⟨?_, h.act hsame hword.2 hrest⟩
    rw [← (h.agreeOn hsame).expansion? fun _ => rfl, hexp]
  · intro word body queue j j' h hexp
    obtain ⟨hword, hrest⟩ := List.forall_mem_cons.1 h.unused
    refine ⟨?_, h.stack, h.mode, h.mode', h.table, h.table', fun t ht => ?_⟩
    · rw [← (h.agreeOn (hlook word hword.1)).expansion? fun _ => rfl, hexp]
    · obtain ⟨-, -, -, -, hbody⟩ := expansion?_eq_some_iff.1 hexp
      rw [h.table] at hbody
      rcases List.mem_append.1 ht with ht | ht
      · exact hD word body hbody t ht
      · exact hrest t ht

/-! ## Words against the text that they are captured as -/

/-- The stored bodies hold no colon, no use of `name`, and no blank but the space. -/
structure Avoids (D : Dictionary) (name : Text) : Prop where
  /-- No body opens a definition. -/
  colon_not_mem : ∀ word body, D.lookup word = some body → colon ∉ tokenize body
  /-- No body uses the name. -/
  name_not_mem : ∀ word body, D.lookup word = some body → name ∉ tokenize body
  /-- Every blank of a body is a space. -/
  eq_space : ∀ word body, D.lookup word = some body → ∀ c ∈ body, isBlank c = true → c = ' '

lemma Avoids.ne {word body t : Text} (h : Avoids D name) (hbody : D.lookup word = some body)
    (ht : t ∈ tokenize body) : t ≠ name ∧ t ≠ colon := by
  constructor
  · rintro rfl
    exact h.name_not_mem word body hbody ht
  · rintro rfl
    exact h.colon_not_mem word body hbody ht

/-- A text in lower case that has no blank but the space is run as its non-empty pieces. -/
lemma steps_tokenize {text : Text} (hlower : lower text = text)
    (hblank : ∀ c ∈ text, isBlank c = true → c = ' ') (expand : Interpreter → Text → Run)
    (k : Interpreter) :
    steps expand (tokenize text) k = steps expand (dropEmpty (pieces text)) k := by
  rw [← (dropEmpty_tokenize_iff hlower).2 (trim_eq_trimSpaces_of_blank hblank), steps_dropEmpty]

/-- One word, evaluated on one side and replaced by the pieces of its expansion on the other,
where one level less is left. -/
lemma apart_word (limit : Nat) {t : Text} (hi : WellFormed i) (havoid : Avoids i.definitions name)
    (hlook : ∀ t, t ≠ name → i.definitions.lookup t = D'.lookup t) (ht : IsWord t)
    (hname : t = name → (i.definitions.lookup name).isSome)
    (h : Apart name i.definitions D' [] j j') :
    Agree (Apart name i.definitions D' []) (step (inner (limit + 1)) j t).outcome
      (steps (inner limit) (dropEmpty (pieces (i.expansionOf t))) j').outcome := by
  cases hbody : i.definitions.lookup t with
  | some body =>
    -- both sides run the body of the word, at the same level
    obtain ⟨htname, htbody⟩ := hi.stored hbody
    have hexp : j.expansion? t = some body :=
      expansion?_eq_some_iff.2 ⟨ht.ne_nil, h.mode, ht.ne_colon, htname.read_eq, by
        rw [h.table, hbody]⟩
    have hexpansion : i.expansionOf t = body := by rw [expansionOf, hbody, Option.getD_some]
    rw [outcome_step_expand _ hexp, inner, outcome_eval, hexpansion,
      ← steps_tokenize htbody.lower_eq (havoid.eq_space t body hbody)]
    have hsim := simulates_apart hlook fun word body hb t ht => havoid.ne hb ht
    refine hsim.steps limit (tokenize body) [] ⟨h.stack, h.mode, h.mode', h.table, h.table', ?_⟩
    rw [List.append_nil]
    exact fun s hs => havoid.ne hbody hs
  | none =>
    -- the word is the same on both sides, and has a body on neither
    have hne : t ≠ name := by
      intro htn
      have hsome := hname htn
      rw [← htn, hbody] at hsome
      exact absurd hsome (by simp)
    have hexpansion : i.expansionOf t = t := by rw [expansionOf, hbody, Option.getD_none]
    have hexp : j.expansion? t = none := by
      rw [expansion?, h.table, hbody, ite_self]
    have hexp' : j'.expansion? t = none := by
      rw [expansion?, h.table', ← hlook t hne, hbody, ite_self]
    have hrest : ∀ t ∈ ([] : List Text), t ≠ name ∧ t ≠ colon := by simp
    rw [hexpansion, pieces_of_not_mem ht.isToken.noSpace, dropEmpty_cons_of_ne ht.ne_nil,
      dropEmpty_nil, outcome_steps_singleton, outcome_step_act _ hexp, outcome_step_act _ hexp']
    exact h.act (hlook t hne) ht.ne_colon hrest

/-- Words in order, against the pieces of their expansions. -/
lemma apart_words (limit : Nat) {words : List Text} (hi : WellFormed i)
    (havoid : Avoids i.definitions name)
    (hlook : ∀ t, t ≠ name → i.definitions.lookup t = D'.lookup t)
    (hwords : ∀ t ∈ words, IsWord t) (hname : name ∈ words → (i.definitions.lookup name).isSome)
    (h : Apart name i.definitions D' [] j j') :
    Agree (Apart name i.definitions D' []) (steps (inner (limit + 1)) words j).outcome
      (steps (inner limit) (words.flatMap fun t => dropEmpty (pieces (i.expansionOf t)))
        j').outcome := by
  induction words generalizing j j' with
  | nil => exact .ok h
  | cons t rest ih =>
    rw [List.forall_mem_cons] at hwords
    have hword := apart_word limit hi havoid hlook hwords.1
      (fun ht => hname (ht ▸ List.mem_cons_self)) h
    rw [List.flatMap_cons, steps_append, steps]
    exact hword.andThen fun k k' hk =>
      ih hwords.2 (fun hmem => hname (List.mem_cons_of_mem _ hmem)) hk

/-! ## Defining a word and running it -/

variable {words : List Text}

/-- The words of the program `: name word … word ; name`. -/
lemma tokenize_define_and_run (hname : IsName name) (hblank : Unblank name)
    (hwords : ∀ t ∈ words, IsWord t) :
    tokenize (spaced [colon, name, spaced words, semicolon, name]) =
      colon :: (name :: pieces (spaced words) ++ semicolon :: [name]) := by
  have hlower : lower (spaced [colon, name, spaced words, semicolon, name]) =
      spaced [colon, name, spaced words, semicolon, name] := by
    refine lower_spaced fun t ht => ?_
    simp only [List.mem_cons, List.not_mem_nil, or_false] at ht
    rcases ht with rfl | rfl | rfl | rfl | rfl
    · exact isToken_colon.lower_eq
    · exact hname.token.lower_eq
    · exact lower_spaced fun t ht => (hwords t ht).lower_eq
    · exact isToken_semicolon.lower_eq
    · exact hname.token.lower_eq
  have hbare : Bare isBlank (spaced [colon, name, spaced words, semicolon, name]) := by
    refine ⟨fun c hc => ?_, fun c hc => ?_⟩
    · rw [head?_spaced (by decide)] at hc
      exact unblank_colon.bare.head c hc
    · rw [show [colon, name, spaced words, semicolon, name] =
        [colon, name, spaced words, semicolon] ++ [name] from rfl,
        getLast?_spaced hname.ne_nil] at hc
      exact hblank.bare.last c hc
  rw [tokenize_of_bare hlower hbare, pieces_spaced (by simp)]
  simp [pieces_of_not_mem isToken_colon.noSpace, pieces_of_not_mem isToken_semicolon.noSpace,
    pieces_of_not_mem hname.token.noSpace]

lemma dropEmpty_pieces_spaced (hwords : ∀ t ∈ words, IsWord t) :
    dropEmpty (pieces (spaced words)) = words := by
  by_cases hnil : words = []
  · subst hnil
    rfl
  · rw [pieces_spaced_of_not_mem hnil fun t ht => (hwords t ht).isToken.noSpace,
      dropEmpty_eq_self fun t ht => (hwords t ht).ne_nil]

lemma eq_space_of_mem_spaced (hwords : ∀ t ∈ words, IsWord t) :
    ∀ c ∈ spaced words, isBlank c = true → c = ' ' := by
  intro c hc hblank
  rcases mem_spaced hc with hspace | ⟨t, ht, hct⟩
  · exact hspace
  · rw [(hwords t ht).unblank c hct] at hblank
    exact absurd hblank (by decide)

lemma mem_or_eq_nil_of_mem_pieces_spaced (hwords : ∀ t ∈ words, IsWord t) {t : Text}
    (ht : t ∈ pieces (spaced words)) : t = [] ∨ t ∈ words := by
  by_cases hnil : t = []
  · exact Or.inl hnil
  · refine Or.inr ?_
    rw [← dropEmpty_pieces_spaced hwords]
    exact mem_dropEmpty.2 ⟨ht, hnil⟩

/-- The body that the words are captured as can be stored. -/
lemma isBody_captureAll_spaced (hi : WellFormed i) (hwords : ∀ t ∈ words, IsWord t) :
    IsBody (i.captureAll [] (pieces (spaced words))) := by
  refine hi.isBody_captureAll isBody_nil fun t ht => ?_
  rcases mem_or_eq_nil_of_mem_pieces_spaced hwords ht with rfl | ht
  · exact ⟨⟨List.not_mem_nil, rfl⟩, by decide⟩
  · exact ⟨(hwords t ht).isToken, (hwords t ht).ne_semicolon⟩

/-- The body that the words are captured as has no blank but the space. -/
lemma eq_space_of_mem_captureAll (havoid : Avoids i.definitions name)
    (hwords : ∀ t ∈ words, IsWord t) :
    ∀ c ∈ i.captureAll [] (pieces (spaced words)), isBlank c = true → c = ' ' := by
  intro c hc hblank
  rcases mem_captureAll hc with hc | hspace | ⟨t, ht, hct⟩
  · exact absurd hc List.not_mem_nil
  · exact hspace
  · rw [expansionOf] at hct
    cases hbody : i.definitions.lookup t with
    | some body =>
      rw [hbody] at hct
      exact havoid.eq_space t body hbody c hct hblank
    | none =>
      rw [hbody, Option.getD_none] at hct
      exact eq_space_of_mem_spaced hwords c (mem_of_mem_pieces ht c hct).1 hblank

/-- Words are evaluated one by one: the spaces between them make no difference. -/
lemma outcome_eval_spaced (limit : Nat) (i : Interpreter) (hwords : ∀ t ∈ words, IsWord t) :
    (eval limit i (spaced words)).outcome = (steps (inner limit) words i).outcome := by
  rw [outcome_eval, steps_tokenize (lower_spaced fun t ht => (hwords t ht).lower_eq)
    (eq_space_of_mem_spaced hwords), dropEmpty_pieces_spaced hwords]

/-- Defining a name and running it runs the pieces of the expansions of its words, one level
deeper. -/
lemma outcome_eval_define_and_run (limit : Nat) (hi : WellFormed i) (hmode : i.mode = .evaluating)
    (havoid : Avoids i.definitions name) (hname : IsName name) (hblank : Unblank name)
    (hwords : ∀ t ∈ words, IsWord t) :
    (eval (limit + 1) i (spaced [colon, name, spaced words, semicolon, name])).outcome =
      (steps (inner limit) (words.flatMap fun t => dropEmpty (pieces (i.expansionOf t)))
        (i.define name (i.captureAll [] (pieces (spaced words))))).outcome := by
  have hpieces : ∀ t ∈ pieces (spaced words), t ≠ semicolon := by
    intro t ht
    rcases mem_or_eq_nil_of_mem_pieces_spaced hwords ht with rfl | ht
    · decide
    · exact (hwords t ht).ne_semicolon
  -- the definition stores a body, and the name is replaced by it
  have hexp : (i.define name (i.captureAll [] (pieces (spaced words)))).expansion? name =
      some (i.captureAll [] (pieces (spaced words))) :=
    expansion?_eq_some_iff.2 ⟨hname.ne_nil, rfl, hname.ne_colon, hname.read_eq,
      Dictionary.lookup_insert_self _ _ _⟩
  rw [outcome_eval, tokenize_define_and_run hname hblank hwords,
    outcome_steps_definition _ hmode hname hpieces, outcome_steps_singleton,
    outcome_step_expand _ hexp, inner, outcome_eval,
    steps_tokenize (isBody_captureAll_spaced hi hwords).lower_eq
      (eq_space_of_mem_captureAll havoid hwords),
    dropEmpty_pieces_captureAll, dropEmpty_pieces_spaced hwords]
  rfl

/-- **A defined word means its body.**  Where no stored body uses the name, defining it by some
words and running it has the same stack or the same failure as evaluating the words, and both are
evaluating afterwards.  The words may use the name if it has a meaning already. -/
theorem eval_define_and_run (hi : Reachable i) (hmode : i.mode = .evaluating)
    (havoid : Avoids i.definitions name) (hname : IsName name) (hblank : Unblank name)
    (hwords : ∀ t ∈ words, IsWord t) (hself : name ∈ words → (i.definitions.lookup name).isSome)
    {limit : Nat} (hlimit : 1 ≤ limit) :
    Agree (fun j j' => j.stack = j'.stack ∧ j.mode = .evaluating ∧ j'.mode = .evaluating)
      (eval limit i (spaced [colon, name, spaced words, semicolon, name])).outcome
      (eval limit i (spaced words)).outcome := by
  obtain ⟨limit, rfl⟩ := Nat.exists_eq_add_of_le' hlimit
  have hwf := hi.wellFormed
  have hstart : Apart name i.definitions
      (i.definitions.insert name (i.captureAll [] (pieces (spaced words)))) [] i
      (i.define name (i.captureAll [] (pieces (spaced words)))) :=
    ⟨rfl, hmode, rfl, rfl, rfl, by simp⟩
  have hagree := apart_words limit hwf havoid
    (fun t ht => (Dictionary.lookup_insert_of_ne _ _ ht).symm) hwords hself hstart
  rw [outcome_eval_define_and_run limit hwf hmode havoid hname hblank hwords,
    outcome_eval_spaced (limit + 1) i hwords]
  exact hagree.symm.imp fun k k' _ _ hk => ⟨hk.stack.symm, hk.mode', hk.mode⟩

/-- After `: n 1 dup ;` the word `n` can be redefined as `n +`: running it adds the two numbers
that the former `n` pushes, as the words `n +` do. -/
theorem eval_define_and_run_own_name :
    Reachable (new.define ['n'] ['1', ' ', 'd', 'u', 'p']) ∧
      (eval 1 (new.define ['n'] ['1', ' ', 'd', 'u', 'p']) (spaced [['n'], ['+']])).outcome =
        .ok ((new.define ['n'] ['1', ' ', 'd', 'u', 'p']).push 2) ∧
      Agree (fun j j' => j.stack = j'.stack ∧ j.mode = .evaluating ∧ j'.mode = .evaluating)
        (eval 1 (new.define ['n'] ['1', ' ', 'd', 'u', 'p'])
          (spaced [colon, ['n'], spaced [['n'], ['+']], semicolon, ['n']])).outcome
        (eval 1 (new.define ['n'] ['1', ' ', 'd', 'u', 'p']) (spaced [['n'], ['+']])).outcome := by
  have hreach : Reachable (new.define ['n'] ['1', ' ', 'd', 'u', 'p']) :=
    Reachable.define .new rfl (by decide +kernel) [['1'], ['d', 'u', 'p']] (by decide +kernel)
  have hbody : ∀ word body,
      (new.define ['n'] ['1', ' ', 'd', 'u', 'p']).definitions.lookup word = some body →
        body = ['1', ' ', 'd', 'u', 'p'] := by
    intro word body hlook
    rcases lookup_of_lookup_define hlook with ⟨-, hbody⟩ | hlook
    · exact hbody
    · exact absurd hlook (by simp [new])
  have havoid : Avoids (new.define ['n'] ['1', ' ', 'd', 'u', 'p']).definitions ['n'] := by
    refine ⟨?_, ?_, ?_⟩
    · intro word body hlook
      rw [hbody word body hlook]
      decide +kernel
    · intro word body hlook
      rw [hbody word body hlook]
      decide +kernel
    · intro word body hlook
      rw [hbody word body hlook]
      exact List.all_iff_forall_prop.1 (by decide +kernel)
  refine ⟨hreach, by decide +kernel, ?_⟩
  exact eval_define_and_run hreach rfl havoid (by decide +kernel) (by decide +kernel)
    (by decide +kernel) (fun _ => rfl) (Nat.le_refl 1)

end Interpreter

end ColonForth
