import ColonForth.Proofs.Capture
import Mathlib.Data.Finset.Card
import Mathlib.Logic.Relation

/-!
# Endless expansion

A body is made of words, which may have bodies themselves, so a table of definitions is a graph:
`a` *uses* `b` if `b` is defined and is a word of the body of `a`.  As long as no body opens a
definition the table does not change, and the graph decides whether expansion comes to an end:

* `steps_ne_tooDeep`: where no cycle is reached, a word that is expanded is not met again inside
  its own body.  So each level leaves fewer names to be expanded, and as many levels as there are
  definitions are enough.
* `Finishes.of_uses`: a body that is evaluated to its end has had the bodies of all defined words
  among its words evaluated to their ends, with fewer levels.  Around a cycle this would go on for
  ever (`not_finishes_of_cycle`).
-/

namespace ColonForth

open Text Relation

/-! ## The graph of a table -/

namespace Dictionary

variable {D : Dictionary} {a b : Text} {ts : List Text}

/-- The defined word `b` is a word of the body of `a`. -/
def Uses (D : Dictionary) (a b : Text) : Prop :=
  (D.lookup b).isSome ∧ ∃ body, D.lookup a = some body ∧ b ∈ tokenize body

/-- From a defined word among the given ones, uses lead to a word that uses itself, perhaps by way
of others. -/
def ReachesCycle (D : Dictionary) (ts : List Text) : Prop :=
  ∃ t ∈ ts, (D.lookup t).isSome ∧ ∃ a, ReflTransGen D.Uses t a ∧ TransGen D.Uses a a

/-- The names that have a body. -/
def names (D : Dictionary) : Finset Text := (D.entries.map Prod.fst).toFinset

lemma card_names (D : Dictionary) : D.names.card = D.size := by
  rw [names, List.toFinset_card_of_nodup D.nodup, List.length_map, size]

lemma mem_names_of_isSome (h : (D.lookup a).isSome) : a ∈ D.names := by
  rw [lookup, Option.isSome_map] at h
  obtain ⟨entry, hentry⟩ := Option.isSome_iff_exists.1 h
  have hname : entry.1 = a := by simpa using List.find?_some hentry
  rw [names, List.mem_toFinset, ← hname]
  exact List.mem_map_of_mem (List.mem_of_find?_eq_some hentry)

/-- Whatever the defined words among `ts` come to use is in `S`. -/
def Within (D : Dictionary) (S : Finset Text) (ts : List Text) : Prop :=
  ∀ t ∈ ts, (D.lookup t).isSome → ∀ a, ReflTransGen D.Uses t a → a ∈ S

lemma within_names (D : Dictionary) (ts : List Text) : D.Within D.names ts := by
  intro t _ ht a hta
  cases hta with
  | refl => exact mem_names_of_isSome ht
  | tail _ huses => exact mem_names_of_isSome huses.1

/-- The words of a body reach no cycle if the word does not. -/
lemma not_reachesCycle_body {t body : Text} (h : ¬ D.ReachesCycle ts) (ht : t ∈ ts)
    (hbody : D.lookup t = some body) : ¬ D.ReachesCycle (tokenize body) := by
  rintro ⟨u, hu, hsome, a, hua, hcycle⟩
  have huses : D.Uses t u := ⟨hsome, body, hbody, hu⟩
  exact h ⟨t, ht, by rw [hbody]; rfl, a, hua.head huses, hcycle⟩

/-- The words of a body do not come to use the word again, if it reaches no cycle. -/
lemma Within.body {S : Finset Text} {t body : Text} (h : D.Within S ts)
    (hcycle : ¬ D.ReachesCycle ts) (ht : t ∈ ts) (hbody : D.lookup t = some body) :
    D.Within (S.erase t) (tokenize body) := by
  have htsome : (D.lookup t).isSome := by rw [hbody]; rfl
  intro u hu husome a hua
  have huses : D.Uses t u := ⟨husome, body, hbody, hu⟩
  refine Finset.mem_erase.2 ⟨?_, h t ht htsome a (hua.head huses)⟩
  rintro rfl
  exact hcycle ⟨a, ht, htsome, a, .refl, TransGen.head' huses hua⟩

end Dictionary

namespace Interpreter

open Dictionary

/-- The interpreter evaluates, with the table `D`, and the words still to come open no
definition. -/
structure Steady (D : Dictionary) (queue : List Text) (i : Interpreter) : Prop where
  /-- It evaluates. -/
  mode : i.mode = .evaluating
  /-- Its table. -/
  table : i.definitions = D
  /-- A colon would open a definition. -/
  colon_not_mem : colon ∉ queue

section

variable {D : Dictionary} {i j : Interpreter} {limit : Nat} {ts queue : List Text} {word : Text}
  (hD : ∀ name body, D.lookup name = some body → colon ∉ tokenize body)

include hD

/-- Without a colon in sight evaluation goes on, and the table stays as it is. -/
lemma preserved_steady : Preserved (Steady D) := by
  refine ⟨?_, ?_⟩
  · rintro word queue i j hi - hacts
    have hword : word ≠ colon := Ne.symm (List.ne_of_not_mem_cons hi.colon_not_mem)
    obtain ⟨hmode, htable⟩ := hacts.of_evaluating hi.mode hword
    exact ⟨hmode, htable.trans hi.table, List.not_mem_of_not_mem_cons hi.colon_not_mem⟩
  · rintro word body queue i hi hexp
    obtain ⟨-, -, -, -, hlook⟩ := expansion?_eq_some_iff.1 hexp
    rw [hi.table] at hlook
    refine ⟨hi.mode, hi.table, fun hmem => ?_⟩
    rcases List.mem_append.1 hmem with hmem | hmem
    · exact hD word body hlook hmem
    · exact List.not_mem_of_not_mem_cons hi.colon_not_mem hmem

lemma Steady.step (hi : Steady D (word :: queue) i)
    (hstep : (step (inner limit) i word).outcome = .ok j) : Steady D queue j := by
  rw [← outcome_steps_singleton] at hstep
  exact (preserved_steady hD).steps hi hstep

/-! ## Without a cycle -/

/-- Words in order do not run out of levels if the bodies of the defined ones among them do
not. -/
lemma steps_ne_tooDeep_of_bodies
    (hbodies : ∀ t ∈ ts, ∀ body, D.lookup t = some body → ∀ k, Steady D [] k →
      (inner limit k body).outcome ≠ .error .tooDeep) (hi : Steady D ts i) :
    (steps (inner limit) ts i).outcome ≠ .error .tooDeep := by
  induction ts generalizing i with
  | nil => simp
  | cons word rest ih =>
    rw [List.forall_mem_cons] at hbodies
    cases hstep : (Interpreter.step (inner limit) i word).outcome with
    | ok j =>
      rw [outcome_steps_of_ok hstep]
      exact ih hbodies.2 (hi.step hD hstep)
    | error e =>
      rw [outcome_steps_of_error hstep, ← hstep]
      cases hexp : i.expansion? word with
      | none =>
        rw [outcome_step_act _ hexp]
        exact act_ne_tooDeep hexp
      | some body =>
        obtain ⟨-, -, -, -, hlook⟩ := expansion?_eq_some_iff.1 hexp
        rw [outcome_step_expand _ hexp]
        exact hbodies.1 body (hi.table ▸ hlook) i ⟨hi.mode, hi.table, List.not_mem_nil⟩

/-- **Where no cycle is reached, as many levels as there are names to be expanded are enough.** -/
theorem steps_ne_tooDeep {S : Finset Text} (hS : D.Within S ts) (hcycle : ¬ D.ReachesCycle ts)
    (hcard : S.card ≤ limit) (hi : Steady D ts i) :
    (steps (inner limit) ts i).outcome ≠ .error .tooDeep := by
  -- expanding a word takes one level, and takes the word out of the names inside its body
  induction limit generalizing S ts i with
  | zero =>
    refine steps_ne_tooDeep_of_bodies hD (fun t ht body hbody => ?_) hi
    have hmem : t ∈ S := hS t ht (by rw [hbody]; rfl) t .refl
    rw [Finset.card_eq_zero.1 (Nat.le_zero.1 hcard)] at hmem
    exact absurd hmem (Finset.notMem_empty t)
  | succ limit ih =>
    refine steps_ne_tooDeep_of_bodies hD (fun t ht body hbody k hk => ?_) hi
    have hmem : t ∈ S := hS t ht (by rw [hbody]; rfl) t .refl
    have hless : (S.erase t).card ≤ limit := by
      rw [Finset.card_erase_of_mem hmem]
      omega
    rw [inner, outcome_eval]
    exact ih (hS.body hcycle ht hbody) (not_reachesCycle_body hcycle ht hbody) hless
      ⟨hk.mode, hk.table, hD t body hbody⟩

end

/-! ## Around a cycle -/

/-- Somewhere the body of the word is evaluated to its end, with the table `D` and at most `limit`
levels. -/
def Finishes (D : Dictionary) (limit : Nat) (word : Text) : Prop :=
  ∃ body i j, D.lookup word = some body ∧ Steady D (tokenize body) i ∧
    (eval limit i body).outcome = .ok j

section

variable {D : Dictionary} {i j : Interpreter} {limit : Nat} {ts : List Text} {a b t : Text}
  (hD : ∀ name body, D.lookup name = some body → colon ∉ tokenize body)
  (hnames : ∀ name body, D.lookup name = some body → IsName name)

include hD hnames

/-- Words that are evaluated to their end have had the body of each defined word among them
evaluated to its end, one level deeper. -/
lemma exists_finishes_of_steps (hi : Steady D ts i)
    (hsteps : (steps (inner limit) ts i).outcome = .ok j) (ht : t ∈ ts)
    (hsome : (D.lookup t).isSome) : ∃ less < limit, Finishes D less t := by
  induction ts generalizing i with
  | nil => exact absurd ht List.not_mem_nil
  | cons word rest ih =>
    cases hstep : (step (inner limit) i word).outcome with
    | error e =>
      rw [outcome_steps_of_error hstep] at hsteps
      exact absurd hsteps (by simp)
    | ok k =>
      rcases List.mem_cons.1 ht with rfl | hrest
      · -- the word is a name, so nothing keeps it from being replaced by its body
        obtain ⟨body, hbody⟩ := Option.isSome_iff_exists.1 hsome
        have hname := hnames t body hbody
        have hexp : i.expansion? t = some body :=
          expansion?_eq_some_iff.2 ⟨hname.ne_nil, hi.mode, hname.ne_colon, hname.read_eq,
            hi.table ▸ hbody⟩
        rw [outcome_step_expand _ hexp] at hstep
        cases limit with
        | zero => exact absurd hstep (by simp [inner])
        | succ less =>
          exact ⟨less, Nat.lt_succ_self less, body, i, k, hbody,
            ⟨hi.mode, hi.table, hD t body hbody⟩, hstep⟩
      · rw [outcome_steps_of_ok hstep] at hsteps
        exact ih (hi.step hD hstep) hsteps hrest

/-- **A body that is evaluated to its end leaves fewer levels to the words that it uses.** -/
theorem Finishes.of_uses (h : Finishes D limit a) (huses : D.Uses a b) :
    ∃ less < limit, Finishes D less b := by
  obtain ⟨body, i, j, hbody, hi, heval⟩ := h
  obtain ⟨hsome, body', hbody', hmem⟩ := huses
  obtain rfl : body' = body := Option.some.inj (hbody'.symm.trans hbody)
  rw [outcome_eval] at heval
  exact exists_finishes_of_steps hD hnames hi heval hmem hsome

lemma Finishes.of_transGen (h : Finishes D limit a) (huses : TransGen D.Uses a b) :
    ∃ less < limit, Finishes D less b := by
  induction huses with
  | single hab => exact h.of_uses hD hnames hab
  | tail _ hbc ih =>
    obtain ⟨less, hless, hb⟩ := ih
    obtain ⟨least, hleast, hc⟩ := hb.of_uses hD hnames hbc
    exact ⟨least, Nat.lt_trans hleast hless, hc⟩

/-- **A word on a cycle is never evaluated to its end.** -/
theorem not_finishes_of_cycle (hcycle : TransGen D.Uses a a) (limit : Nat) :
    ¬ Finishes D limit a := by
  induction limit using Nat.strong_induction_on with
  | _ limit ih =>
    intro h
    obtain ⟨less, hless, h'⟩ := h.of_transGen hD hnames hcycle
    exact ih less hless h'

/-- Words that reach a cycle are not evaluated to their end. -/
lemma steps_ne_ok (hcycle : D.ReachesCycle ts) (hi : Steady D ts i) :
    (steps (inner limit) ts i).outcome ≠ .ok j := by
  intro hsteps
  obtain ⟨t, ht, hsome, a, hta, hcycle⟩ := hcycle
  obtain ⟨less, -, h⟩ := exists_finishes_of_steps hD hnames hi hsteps ht hsome
  rcases reflTransGen_iff_eq_or_transGen.1 hta with rfl | hta
  · exact not_finishes_of_cycle hD hnames hcycle less h
  · obtain ⟨least, -, h'⟩ := h.of_transGen hD hnames hta
    exact not_finishes_of_cycle hD hnames hcycle least h'

end

/-! ## Whole programs -/

variable {i : Interpreter} {program : Text}

/-- **Expansion is endless exactly around a cycle that is reached.**  If neither the program nor a
stored body opens a definition, a program that reaches no cycle does not run out of levels when
there are as many as definitions, and a program that reaches one never goes well. -/
theorem expansion_ends_unless_cycle (hi : Reachable i) (hmode : i.mode = .evaluating)
    (hstored : ∀ name body, i.definitions.lookup name = some body → colon ∉ tokenize body)
    (hprogram : colon ∉ tokenize program) :
    (¬ i.definitions.ReachesCycle (tokenize program) → ∀ limit, i.definitions.size ≤ limit →
      (eval limit i program).outcome ≠ .error .tooDeep) ∧
    (i.definitions.ReachesCycle (tokenize program) → ∀ limit, ∃ e,
      (eval limit i program).outcome = .error e) := by
  have hsteady : Steady i.definitions (tokenize program) i := ⟨hmode, rfl, hprogram⟩
  refine ⟨fun hcycle limit hlimit => ?_, fun hcycle limit => ?_⟩
  · rw [outcome_eval]
    refine steps_ne_tooDeep hstored (within_names _ _) hcycle ?_ hsteady
    rwa [card_names]
  · cases heval : (eval limit i program).outcome with
    | error e => exact ⟨e, rfl⟩
    | ok j =>
      rw [outcome_eval] at heval
      exact absurd heval (steps_ne_ok hstored
        (fun name body hlook => (hi.wellFormed.stored hlook).1) hcycle hsteady)

/-- The interpreter after `: a b ;`, `: b 1 ;` and `: c c ;`: `a` waits for `b` to be defined, and
`c` for itself. -/
def tangled : Interpreter :=
  ((new.define ['a'] ['b']).define ['b'] ['1']).define ['c'] ['c']

lemma reachable_tangled : Reachable tangled := by
  have ha : Reachable (new.define ['a'] ['b']) :=
    Reachable.define .new rfl (by decide +kernel) [['b']] (by decide +kernel)
  have hb : Reachable ((new.define ['a'] ['b']).define ['b'] ['1']) :=
    Reachable.define ha rfl (by decide +kernel) [['1']] (by decide +kernel)
  exact Reachable.define hb rfl (by decide +kernel) [['c']] (by decide +kernel)

lemma lookup_tangled {name body : Text} (h : tangled.definitions.lookup name = some body) :
    name = ['a'] ∧ body = ['b'] ∨ name = ['b'] ∧ body = ['1'] ∨ name = ['c'] ∧ body = ['c'] := by
  rcases lookup_of_lookup_define h with hc | h
  · exact Or.inr (Or.inr hc)
  rcases lookup_of_lookup_define h with hb | h
  · exact Or.inr (Or.inl hb)
  rcases lookup_of_lookup_define h with ha | h
  · exact Or.inl ha
  · exact absurd h (by simp [new])

lemma uses_tangled {x y : Text} (h : tangled.definitions.Uses x y) :
    x = ['a'] ∧ y = ['b'] ∨ x = ['c'] ∧ y = ['c'] := by
  obtain ⟨hsome, body, hbody, hmem⟩ := h
  have htokens : ∀ c : Char, c = 'b' ∨ c = '1' ∨ c = 'c' → tokenize [c] = [[c]] := by
    rintro c (rfl | rfl | rfl) <;> decide +kernel
  rcases lookup_tangled hbody with ⟨rfl, rfl⟩ | ⟨rfl, rfl⟩ | ⟨rfl, rfl⟩
  · rw [htokens _ (by simp), List.mem_singleton] at hmem
    exact Or.inl ⟨rfl, hmem⟩
  · rw [htokens _ (by simp), List.mem_singleton] at hmem
    subst hmem
    exact absurd hsome (by decide)
  · rw [htokens _ (by simp), List.mem_singleton] at hmem
    exact Or.inr ⟨rfl, hmem⟩

/-- A cycle goes through `c` only, and `a` leads to `b` only. -/
lemma not_reachesCycle_tangled : ¬ tangled.definitions.ReachesCycle (tokenize ['a']) := by
  rintro ⟨t, ht, -, x, htx, hcycle⟩
  obtain rfl : t = ['a'] := by
    rw [show tokenize ['a'] = [['a']] by decide +kernel] at ht
    exact List.mem_singleton.1 ht
  have hx : x = ['a'] ∨ x = ['b'] := by
    clear hcycle
    induction htx with
    | refl => exact Or.inl rfl
    | tail _ huses ih =>
      rcases uses_tangled huses with ⟨-, rfl⟩ | ⟨rfl, -⟩
      · exact Or.inr rfl
      · exact absurd ih (by decide)
  obtain ⟨y, hxy, -⟩ := TransGen.head'_iff.1 hcycle
  obtain ⟨z, -, hzx⟩ := TransGen.tail'_iff.1 hcycle
  rcases hx with rfl | rfl
  · exact absurd (uses_tangled hzx) (by simp)
  · exact absurd (uses_tangled hxy) (by simp)

lemma reachesCycle_tangled : tangled.definitions.ReachesCycle (tokenize ['1', ' ', 'c']) := by
  have hself : tangled.definitions.Uses ['c'] ['c'] := ⟨rfl, ['c'], rfl, by decide +kernel⟩
  exact ⟨['c'], by decide +kernel, rfl, ['c'], .refl, .single hself⟩

/-- The word `a` is two levels deep, which three definitions leave room for, and reaches no cycle,
though `c` is one.  A program that comes to `c` fails for every number of levels. -/
theorem expansion_ends_unless_cycle_tangled :
    Reachable tangled ∧ tangled.definitions.size = 3 ∧
      ¬ tangled.definitions.ReachesCycle (tokenize ['a']) ∧
      (∀ limit, 3 ≤ limit → (eval limit tangled ['a']).outcome ≠ .error .tooDeep) ∧
      (eval 2 tangled ['a']).outcome = .ok (tangled.push 1) ∧
      (eval 1 tangled ['a']).outcome = .error .tooDeep ∧
      tangled.definitions.ReachesCycle (tokenize ['1', ' ', 'c']) ∧
      ∀ limit, ∃ e, (eval limit tangled ['1', ' ', 'c']).outcome = .error e := by
  have hstored : ∀ name body, tangled.definitions.lookup name = some body →
      colon ∉ tokenize body := by
    intro name body hlook
    rcases lookup_tangled hlook with ⟨-, rfl⟩ | ⟨-, rfl⟩ | ⟨-, rfl⟩ <;> decide +kernel
  have hends := @expansion_ends_unless_cycle tangled ['a'] reachable_tangled rfl hstored
    (by decide +kernel)
  have hendless := @expansion_ends_unless_cycle tangled ['1', ' ', 'c'] reachable_tangled rfl
    hstored (by decide +kernel)
  exact ⟨reachable_tangled, rfl, not_reachesCycle_tangled, hends.1 not_reachesCycle_tangled,
    by decide +kernel, by decide +kernel, reachesCycle_tangled, hendless.2 reachesCycle_tangled⟩

end Interpreter

end ColonForth
