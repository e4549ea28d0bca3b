import ColonForth.Proofs.Replay
import ColonForth.Proofs.Worklist

/-!
# Redefining a word that another word was built from

A definition takes over the body of a defined word when it is captured, so that the word can be
redefined later without harm.  It takes over the text of the body and no more.  Names in this text
stay names: they may have had no meaning when the text was captured and have one now, and then
they are looked up each time the word is run.  So whether redefining `name` changes a word depends
on the run of the word, which is followed here by the moves of the flat machine:

* `Meets name c`: the first use that the machine makes of `name` from `c` on is to evaluate it.
  Then some redefinition of `name` changes the outcome (`ends_of_meets`).
* `Copies name c`: its first use is to take over the body of `name` into a definition, and a
  definition is stored afterwards.  This asks for a semicolon that no stored body shows (see
  `Replay`).
* If neither happens, no redefinition makes a difference (`simulates_kept`).

What a redefinition does to a run that copies the body of `name` is left open: the copy is stored,
and it depends on what follows whether it is ever run.
-/

namespace ColonForth

open Text Interpreter

/-! ## What becomes of a name during a run -/

namespace Worklist

/-- The next word is `name`, and it is evaluated. -/
def Evaluates (name : Text) (c : Worklist) : Prop :=
  c.queue.head? = some name ∧ c.interpreter.mode = .evaluating

/-- The next word is `name`, and its body is taken over into a definition. -/
def Captures (name : Text) (c : Worklist) : Prop :=
  c.queue.head? = some name ∧ ∃ other body, c.interpreter.mode = .capturing other body

/-- The next word stores the definition of `name`. -/
def Stores (name : Text) (c : Worklist) : Prop :=
  c.queue.head? = some semicolon ∧ ∃ body, c.interpreter.mode = .capturing name body

/-- The next word uses `name` or redefines it. -/
def Touches (name : Text) (c : Worklist) : Prop :=
  c.Evaluates name ∨ c.Captures name ∨ c.Stores name

/-- The machine comes to a place with the property `P`, and does not touch `name` before. -/
inductive Finds (name : Text) (P : Worklist → Prop) : Worklist → Prop
  /-- It is there. -/
  | here {c : Worklist} (h : P c) : Finds name P c
  /-- It makes a move. -/
  | later {c c' : Worklist} (hnext : c.next = some (.ok c')) (htouches : ¬ c.Touches name)
      (h : Finds name P c') : Finds name P c

/-- The machine comes to evaluate `name` before it touches it otherwise. -/
def Meets (name : Text) (c : Worklist) : Prop := Finds name (Evaluates name) c

/-- The machine takes over the body of `name` into a definition before it touches it otherwise, and
some definition is stored later on. -/
def Copies (name : Text) (c : Worklist) : Prop :=
  Finds name (fun c => Captures name c ∧ ∃ k c' other, MovesIn k c c' ∧ c'.Stores other) c

variable {c c' : Worklist} {P : Worklist → Prop} {i j j' : Interpreter} {name word : Text}
  {queue : List Text}

lemma not_finds_of_next (h : ¬ Finds name P c) (hnext : c.next = some (.ok c'))
    (htouches : ¬ c.Touches name) : ¬ Finds name P c' :=
  fun h' => h (.later hnext htouches h')

/-- A move either brings in a body or lets a word act. -/
lemma exists_of_next (h : c.next = some (.ok c')) :
    ∃ i word queue, c = ⟨i, word :: queue⟩ ∧
      ((∃ body, i.expansion? word = some body ∧ c' = ⟨i, tokenize body ++ queue⟩) ∨
        i.expansion? word = none ∧ ∃ j, i.act word = .ok j ∧ c' = ⟨j, queue⟩) := by
  obtain ⟨i, ts⟩ := c
  cases ts with
  | nil => exact absurd h (by simp [next])
  | cons word queue =>
    refine ⟨i, word, queue, rfl, ?_⟩
    cases hexp : i.expansion? word with
    | some body =>
      rw [next_expand hexp] at h
      exact Or.inl ⟨body, rfl, (Except.ok.inj (Option.some.inj h)).symm⟩
    | none =>
      cases hact : i.act word with
      | error e =>
        rw [next_error hexp hact] at h
        exact absurd h (by simp)
      | ok j =>
        rw [next_act hexp hact] at h
        exact Or.inr ⟨rfl, j, rfl, (Except.ok.inj (Option.some.inj h)).symm⟩

/-- What no word breaks, no move breaks. -/
lemma of_next {Q : List Text → Interpreter → Prop} (hQ : Preserved Q)
    (h : c.next = some (.ok c')) (hc : Q c.queue c.interpreter) : Q c'.queue c'.interpreter := by
  obtain ⟨i, word, queue, rfl, ⟨body, hexp, rfl⟩ | ⟨hexp, j, hact, rfl⟩⟩ := exists_of_next h
  · exact hQ.expand hc hexp
  · exact hQ.act hc hexp (acts_of_act hact)

lemma MovesIn.preserves {Q : List Text → Interpreter → Prop} (hQ : Preserved Q) {k : Nat}
    (h : MovesIn k c c') (hc : Q c.queue c.interpreter) : Q c'.queue c'.interpreter := by
  induction h with
  | refl c => exact hc
  | head hnext _ ih => exact ih (of_next hQ hnext hc)

lemma Finds.exists_of_preserved {Q : List Text → Interpreter → Prop} (hQ : Preserved Q)
    (h : Finds name P c) (hc : Q c.queue c.interpreter) :
    ∃ c', P c' ∧ Q c'.queue c'.interpreter := by
  induction h with
  | here h => exact ⟨_, h, hc⟩
  | later hnext _ _ ih => exact ih (of_next hQ hnext hc)

/-- Where no stored body has a semicolon among its words, nothing is stored, and so no body is
taken over for good. -/
lemma not_copies_of_semicolon_not_mem
    (hD : ∀ other body, c.interpreter.definitions.lookup other = some body →
      semicolon ∉ tokenize body) (hqueue : semicolon ∉ c.queue) : ¬ Copies name c := by
  intro h
  have hQ : Preserved fun queue k =>
      k.definitions = c.interpreter.definitions ∧ ∀ t ∈ queue, ¬ t = semicolon :=
    preserved_table rfl fun other body hlook t ht heq => hD other body hlook (heq ▸ ht)
  obtain ⟨c₁, ⟨-, k, c₂, other, hmoves, hhead, -⟩, hc₁⟩ :=
    h.exists_of_preserved hQ ⟨rfl, fun t ht heq => hqueue (heq ▸ ht)⟩
  exact (hmoves.preserves hQ hc₁).2 semicolon (List.mem_of_mem_head? hhead) rfl

/-- A name that no stored body has among its words is not met, if nothing is stored. -/
lemma not_meets_of_not_mem
    (hD : ∀ other body, c.interpreter.definitions.lookup other = some body →
      semicolon ∉ tokenize body ∧ name ∉ tokenize body)
    (hsemicolon : semicolon ∉ c.queue) (hname : name ∉ c.queue) : ¬ Meets name c := by
  intro h
  have hQ : Preserved fun queue k =>
      k.definitions = c.interpreter.definitions ∧ ∀ t ∈ queue, ¬ (t = semicolon ∨ t = name) := by
    refine preserved_table (Or.inl rfl) fun other body hlook t ht => ?_
    rintro (rfl | rfl)
    · exact (hD other body hlook).1 ht
    · exact (hD other body hlook).2 ht
  have hstart : ∀ t ∈ c.queue, ¬ (t = semicolon ∨ t = name) := by
    rintro t ht (rfl | rfl)
    · exact hsemicolon ht
    · exact hname ht
  obtain ⟨c', ⟨hhead, -⟩, hc'⟩ := h.exists_of_preserved hQ ⟨rfl, hstart⟩
  exact hc'.2 name (List.mem_of_mem_head? hhead) (Or.inr rfl)

/-! ## Interpreters that differ at a name -/

/-- A word that does not touch the name keeps the agreement elsewhere. -/
lemma act_of_agreeOn (h : AgreeOn (fun t => t ≠ name) j j')
    (hevaluates : ¬ Evaluates name ⟨j, word :: queue⟩)
    (hcaptures : ¬ Captures name ⟨j, word :: queue⟩) :
    Agree (AgreeOn fun t => t ≠ name) (j.act word) (j'.act word) := by
  refine h.act fun hmode heq => ?_
  cases hj : j.mode with
  | evaluating => exact hevaluates ⟨congrArg some heq, hj⟩
  | awaitingName => exact hmode hj
  | capturing other body => exact hcaptures ⟨congrArg some heq, other, body, hj⟩

lemma expansion?_of_agreeOn (h : AgreeOn (fun t => t ≠ name) j j')
    (hevaluates : ¬ Evaluates name ⟨j, word :: queue⟩) :
    j.expansion? word = j'.expansion? word :=
  h.expansion? fun hmode heq => hevaluates ⟨congrArg some heq, hmode⟩

/-- Two interpreters in which the rest of a run goes alike, though the tables may differ at
`name`. -/
inductive Kept (name : Text) (queue : List Text) (j j' : Interpreter) : Prop
  /-- The tables do not differ. -/
  | same (h : AgreeOn (fun _ => True) j j') : Kept name queue j j'
  /-- The rest of the run does not touch the name. -/
  | apart (h : AgreeOn (fun t => t ≠ name) j j') (hmeets : ¬ Meets name ⟨j, queue⟩)
      (hcopies : ¬ Copies name ⟨j, queue⟩) : Kept name queue j j'
  /-- A definition is captured that is not stored. -/
  | captured {other body other' body' : Text} (hstack : j.stack = j'.stack)
      (hmode : j.mode = .capturing other body) (hmode' : j'.mode = .capturing other' body')
      (hstores : ∀ k c, MovesIn k ⟨j, queue⟩ c → ¬ c.Stores other) : Kept name queue j j'

lemma Kept.stack_eq (h : Kept name queue j j') : j.stack = j'.stack := by
  cases h with
  | same h => exact h.stack
  | apart h => exact h.stack
  | captured hstack => exact hstack

/-- The body of the name is taken over into a definition that is not stored. -/
lemma kept_of_captures (hname : IsName name) (h : AgreeOn (fun t => t ≠ name) j j')
    (hcaptures : Captures name ⟨j, word :: queue⟩) (hcopies : ¬ Copies name ⟨j, word :: queue⟩) :
    Agree (Kept name queue) (j.act word) (j'.act word) := by
  obtain ⟨hword, other, body, hmode : j.mode = _⟩ := hcaptures
  obtain rfl : word = name := Option.some.inj hword
  have hmode' : j'.mode = .capturing other body := h.mode ▸ hmode
  have hexp : j.expansion? word = none := expansion?_of_mode_ne (by simp [hmode]) word
  have hact := act_of_capturing hname.ne_nil hmode
  rw [if_neg hname.ne_semicolon] at hact
  rw [hact, act_of_capturing hname.ne_nil hmode', if_neg hname.ne_semicolon]
  refine .ok (.captured h.stack rfl rfl fun k c hmoves hstores => ?_)
  exact hcopies (.here ⟨⟨rfl, other, body, hmode⟩, k + 1, c, other,
    .head (next_act hexp hact) hmoves, hstores⟩)

/-- A word without a body keeps interpreters that differ at the name. -/
lemma Kept.act (hname : IsName name) (h : Kept name (word :: queue) j j')
    (hexp : j.expansion? word = none) :
    j'.expansion? word = none ∧ Agree (Kept name queue) (j.act word) (j'.act word) := by
  cases h with
  | same h =>
    refine ⟨by rw [← h.expansion? fun _ => trivial, hexp], ?_⟩
    exact (h.act fun _ => trivial).imp fun _ _ _ _ hk => .same hk
  | apart h hmeets hcopies =>
    have hevaluates : ¬ Evaluates name ⟨j, word :: queue⟩ := fun he => hmeets (.here he)
    refine ⟨by rw [← expansion?_of_agreeOn h hevaluates, hexp], ?_⟩
    -- the word may still take over the body of the name, or store a new one
    by_cases hcaptures : Captures name ⟨j, word :: queue⟩
    · exact kept_of_captures hname h hcaptures hcopies
    by_cases hstores : Stores name ⟨j, word :: queue⟩
    · -- both tables get the same body for the name, and no longer differ
      obtain ⟨hword, body, hmode : j.mode = _⟩ := hstores
      obtain rfl : word = semicolon := Option.some.inj hword
      rw [act_of_capturing (by decide) hmode, act_of_capturing (by decide) (h.mode ▸ hmode),
        if_pos rfl, if_pos rfl]
      exact .ok (.same ((h.define name body).mono fun t _ => Classical.em (t = name)))
    · have htouches : ¬ Touches name ⟨j, word :: queue⟩ := by
        rintro (he | hc | hs)
        · exact hevaluates he
        · exact hcaptures hc
        · exact hstores hs
      refine (act_of_agreeOn h hevaluates hcaptures).imp fun k k' hk _ hagree => ?_
      exact .apart hagree (not_finds_of_next hmeets (next_act hexp hk) htouches)
        (not_finds_of_next hcopies (next_act hexp hk) htouches)
  | @captured other body other' body' hstack hmode hmode' hstores =>
    refine ⟨expansion?_of_mode_ne (by simp [hmode']) word, ?_⟩
    by_cases hnil : word = []
    · subst hnil
      refine .ok (.captured hstack hmode hmode' fun k c hmoves => ?_)
      exact hstores (k + 1) c (.head (next_act hexp rfl) hmoves)
    · have hsemicolon : word ≠ semicolon := fun heq =>
        hstores 0 _ (.refl _) ⟨congrArg some heq, body, hmode⟩
      have hact := act_of_capturing hnil hmode
      rw [if_neg hsemicolon] at hact
      rw [hact, act_of_capturing hnil hmode', if_neg hsemicolon]
      refine .ok (.captured hstack rfl rfl fun k c hmoves => ?_)
      exact hstores (k + 1) c (.head (next_act hexp hact) hmoves)

/-- **The rest of a run goes alike** in interpreters that differ at a name which it does not
touch. -/
theorem simulates_kept (hname : IsName name) : Simulates (Kept name) := by
  refine ⟨fun h hexp => h.act hname hexp, ?_⟩
  intro word body queue j j' h hexp
  obtain ⟨-, hmode, -⟩ := expansion?_eq_some_iff.1 hexp
  cases h with
  | same h => exact ⟨by rw [← h.expansion? fun _ => trivial, hexp], .same h⟩
  | apart h hmeets hcopies =>
    have hevaluates : ¬ Evaluates name ⟨j, word :: queue⟩ := fun he => hmeets (.here he)
    have htouches : ¬ Touches name ⟨j, word :: queue⟩ := by
      rintro (he | ⟨-, other, text, hmode'⟩ | ⟨-, text, hmode'⟩)
      · exact hevaluates he
      · exact absurd (hmode.symm.trans hmode') (by simp)
      · exact absurd (hmode.symm.trans hmode') (by simp)
    refine ⟨by rw [← expansion?_of_agreeOn h hevaluates, hexp], .apart h ?_ ?_⟩
    · exact not_finds_of_next hmeets (next_expand hexp) htouches
    · exact not_finds_of_next hcopies (next_expand hexp) htouches
  | captured _ hmode' => exact absurd (hmode.symm.trans hmode') (by simp)

/-! ## A body that shows when it is run -/

/-- A literal of `k` digits. -/
def ones (k : Nat) : Text := List.replicate k '1'

variable {k : Nat}

lemma unblank_ones (k : Nat) : Unblank (ones k) := by
  intro c hc
  rw [List.eq_of_mem_replicate hc]
  decide +kernel

lemma lower_ones (k : Nat) : lower (ones k) = ones k := by
  refine lower_eq_self_iff.2 fun c hc => ?_
  rw [List.eq_of_mem_replicate hc]
  decide +kernel

lemma isToken_ones (k : Nat) : IsToken (ones k) :=
  ⟨(unblank_ones k).space_not_mem, lower_ones k⟩

/-- A literal with more digits than are read is refused, and the refusal tells how many. -/
lemma read_ones (hk : digitLimit < k) :
    Literal.read (ones k) = .error (.literalTooLong k) := by
  obtain ⟨m, rfl⟩ := Nat.exists_eq_add_of_le' (Nat.lt_of_le_of_lt (Nat.zero_le _) hk)
  have hdigits : Literal.digitsOf (ones (m + 1)) = ones (m + 1) := by
    show (List.replicate (m + 1) '1').takeWhile Literal.isDigit = List.replicate (m + 1) '1'
    rw [List.takeWhile_replicate, if_pos (by decide)]
  rw [Literal.read, hdigits, ones, List.length_replicate, if_pos hk]

lemma ones_ne {t : Text} (hk : digitLimit < k) (ht : Literal.read t = .ok none) :
    ones k ≠ t := by
  rintro rfl
  exact absurd ((read_ones hk).symm.trans ht) (by simp)

/-- A name with such a body fails when it is evaluated. -/
lemma ends_of_evaluates (hname : IsName name) (hk : digitLimit < k) (hc : c.Evaluates name)
    (h : AgreeOn (fun t => t ≠ name) c.interpreter j)
    (hlook : j.definitions.lookup name = some (ones k)) :
    Ends ⟨j, c.queue⟩ (.error (.limit (.literalTooLong k))) := by
  obtain ⟨queue, hqueue⟩ := List.head?_eq_some_iff.1 hc.1
  have hmode : j.mode = .evaluating := h.mode ▸ hc.2
  have hread := read_ones hk
  have hne : ones k ≠ [] := ones_ne hk (by decide)
  have hcolon : ones k ≠ colon := ones_ne hk (by decide)
  have hexp : j.expansion? name = some (ones k) :=
    expansion?_eq_some_iff.2 ⟨hname.ne_nil, hmode, hname.ne_colon, hname.read_eq, hlook⟩
  have hexp' : j.expansion? (ones k) = none := by
    rw [Interpreter.expansion?, if_neg]
    rintro ⟨-, -, -, hnone⟩
    exact absurd (hread.symm.trans hnone) (by simp)
  have hact : j.act (ones k) = .error (.limit (.literalTooLong k)) := by
    rw [act_of_evaluating hne hmode, perform, meaning, if_neg hcolon, hread]
    rfl
  have hbody : tokenize (ones k) = [ones k] := tokenize_token (lower_ones k) (unblank_ones k)
  have hmove : next ⟨j, c.queue⟩ = some (.ok ⟨j, ones k :: queue⟩) := by
    rw [hqueue, next_expand hexp, hbody]
    rfl
  exact Ends.of_movesIn (.head hmove (.refl _)) ⟨1, run_of_error (next_error hexp' hact) 0⟩

/-- A move that does not touch the name is made in both, and leaves the name's body alone. -/
lemma exists_next_of_agreeOn (h : AgreeOn (fun t => t ≠ name) c.interpreter j')
    (hnext : c.next = some (.ok c')) (htouches : ¬ c.Touches name) :
    ∃ k', next ⟨j', c.queue⟩ = some (.ok ⟨k', c'.queue⟩) ∧
      AgreeOn (fun t => t ≠ name) c'.interpreter k' ∧
      k'.definitions.lookup name = j'.definitions.lookup name := by
  obtain ⟨hevaluates, hrest⟩ := not_or.1 htouches
  obtain ⟨hcaptures, hstores⟩ := not_or.1 hrest
  obtain ⟨j, word, queue, rfl, ⟨body, hexp, rfl⟩ | ⟨hexp, k, hact, rfl⟩⟩ := exists_of_next hnext
  · have hexp' : j'.expansion? word = some body := by
      rw [← expansion?_of_agreeOn h hevaluates, hexp]
    exact ⟨j', next_expand hexp', h, rfl⟩
  · have hexp' : j'.expansion? word = none := by
      rw [← expansion?_of_agreeOn h hevaluates, hexp]
    have hagree := act_of_agreeOn h hevaluates hcaptures
    generalize hact' : j'.act word = r at hagree
    rw [hact] at hagree
    cases hagree with
    | @ok _ k' hk =>
      refine ⟨k', next_act hexp' hact', hk, (acts_of_act hact').lookup_eq ?_⟩
      intro hword body hmode
      exact hstores ⟨congrArg some hword, body, h.mode.trans hmode⟩

/-- **A run that meets a name shows the name's body**: where it is such a literal, the run
fails. -/
theorem ends_of_meets (hname : IsName name) (hk : digitLimit < k) (hmeets : Meets name c)
    (h : AgreeOn (fun t => t ≠ name) c.interpreter j)
    (hlook : j.definitions.lookup name = some (ones k)) :
    Ends ⟨j, c.queue⟩ (.error (.limit (.literalTooLong k))) := by
  induction hmeets generalizing j with
  | here hc => exact ends_of_evaluates hname hk hc h hlook
  | later hnext htouches _ ih =>
    obtain ⟨j', hnext', hagree, hlook'⟩ := exists_next_of_agreeOn h hnext htouches
    exact Ends.of_movesIn (.head hnext' (.refl _)) (ih hagree (hlook'.trans hlook))

end Worklist

/-! ## Running a word after a redefinition -/

namespace Interpreter

open Worklist

/-- The interpreter after `name` has been defined by the given words. -/
def afterDefinition (i : Interpreter) (name : Text) (words : List Text) : Interpreter :=
  i.define name (i.captureAll [] words)

/-- Running a program ends with the same stack or the same failure in both. -/
def RunsAlike (limit : Nat) (program : Text) (i i' : Interpreter) : Prop :=
  Agree (fun j j' => j.stack = j'.stack) (eval limit i program).outcome
    (eval limit i' program).outcome

variable {i : Interpreter} {word name : Text} {ts : List Text}

lemma agreeOn_define (hmode : i.mode = .evaluating) (name body : Text) :
    AgreeOn (fun t => t ≠ name) i (i.define name body) :=
  ⟨rfl, hmode, fun _ ht => (Dictionary.lookup_insert_of_ne _ _ ht).symm⟩

/-- A word whose run does not touch the name runs as before. -/
lemma runsAlike_define (hmode : i.mode = .evaluating) (hword : tokenize word = [word])
    (hname : IsName name) (hmeets : ¬ Meets name ⟨i, [word]⟩) (hcopies : ¬ Copies name ⟨i, [word]⟩)
    (body : Text) (limit : Nat) : RunsAlike limit word i (i.define name body) := by
  have hstart : Kept name (tokenize word) i (i.define name body) := by
    rw [hword]
    exact .apart (agreeOn_define hmode name body) hmeets hcopies
  exact ((simulates_kept hname).eval limit hstart).imp fun _ _ _ _ h => h.stack_eq

/-- Some number of digits is not what a given run is refused for. -/
lemma exists_not_ends (c : Worklist) :
    ∃ k, digitLimit < k ∧ ¬ Ends c (.error (.limit (.literalTooLong k))) := by
  -- a run has one outcome, so of two numbers one will do
  by_cases h : Ends c (.error (.limit (.literalTooLong (digitLimit + 1))))
  · refine ⟨digitLimit + 2, by omega, fun h' => ?_⟩
    have hsame := h.unique h'
    simp at hsame
  · exact ⟨digitLimit + 1, by omega, h⟩

/-- A literal that is refused is captured as it is: it has no body. -/
lemma afterDefinition_ones (hi : WellFormed i) {k : Nat} (hk : digitLimit < k) (name : Text) :
    i.afterDefinition name [ones k] = i.define name (ones k) := by
  have hlook : i.definitions.lookup (ones k) = none := by
    rw [Option.eq_none_iff_forall_not_mem]
    intro body hbody
    exact ones_ne hk (hi.stored hbody).1.read_eq rfl
  have hne : ones k ≠ [] := ones_ne hk (by decide)
  rw [afterDefinition, captureAll, if_neg hne, extendBody_nil, expansionOf, hlook]
  rfl

/-- A word whose run meets the name runs differently after some redefinition of the name, with
any number of levels that is large enough. -/
lemma exists_not_runsAlike (hi : WellFormed i) (hmode : i.mode = .evaluating)
    (hword : tokenize word = [word]) (hname : IsName name) (hmeets : Meets name ⟨i, [word]⟩) :
    ∃ us : List Text, (∀ t ∈ us, IsToken t ∧ t ≠ semicolon) ∧
      ∃ enough, ∀ limit ≥ enough, ¬ RunsAlike limit word i (i.afterDefinition name us) := by
  obtain ⟨k, hk, hnot⟩ := exists_not_ends ⟨i, [word]⟩
  have hagree := agreeOn_define hmode name (ones k)
  obtain ⟨enough, hrun⟩ : Ends ⟨i.define name (ones k), [word]⟩ _ :=
    ends_of_meets hname hk hmeets hagree (Dictionary.lookup_insert_self _ _ _)
  refine ⟨[ones k], ?_, enough, fun limit hle halike => ?_⟩
  · rintro t ht
    obtain rfl := List.mem_singleton.1 ht
    exact ⟨isToken_ones k, ones_ne hk (by decide)⟩
  · rw [← hword] at hrun hnot
    rw [afterDefinition_ones hi hk, RunsAlike, eval_of_run hrun hle] at halike
    -- the run before the redefinition would have to be refused for as many digits
    generalize hbefore : (eval limit i word).outcome = r at halike
    cases halike with
    | error e =>
      have hends : Ends ⟨i, tokenize word⟩ (eval limit i word).outcome :=
        ends_of_eval (by simp [hbefore])
      rw [hbefore] at hends
      exact hnot hends

/-- **When redefining a name changes a word.**  Both definitions go well.  If the run of the word
comes to evaluate the name, some redefinition of the name gives the word another end.  If it does
not, and does not store a copy of the name's body either, the word ends with the same stack or the
same failure whatever the name is redefined as.  No copy is stored as long as no stored body has a
semicolon among its words; and if none has the name among its words either, the name is not met.
Nothing is said of a run that does store a copy without having evaluated the name before. -/
theorem runsAlike_after_redefinition (hi : Reachable i) (hmode : i.mode = .evaluating)
    (hword : IsName word) (hblank : Unblank word) (hts : ∀ t ∈ ts, IsToken t ∧ t ≠ semicolon)
    (hname : (i.definitions.lookup name).isSome) :
    (∀ limit, (eval limit i (definition word ts)).outcome = .ok (i.afterDefinition word ts)) ∧
    (∀ us : List Text, (∀ t ∈ us, IsToken t ∧ t ≠ semicolon) → ∀ limit,
      (eval limit (i.afterDefinition word ts) (definition name us)).outcome =
        .ok ((i.afterDefinition word ts).afterDefinition name us)) ∧
    (Meets name ⟨i.afterDefinition word ts, [word]⟩ →
      ∃ us : List Text, (∀ t ∈ us, IsToken t ∧ t ≠ semicolon) ∧
        ∃ enough, ∀ limit ≥ enough, ¬ RunsAlike limit word (i.afterDefinition word ts)
          ((i.afterDefinition word ts).afterDefinition name us)) ∧
    (¬ Meets name ⟨i.afterDefinition word ts, [word]⟩ →
      ¬ Copies name ⟨i.afterDefinition word ts, [word]⟩ →
      ∀ us : List Text, (∀ t ∈ us, IsToken t ∧ t ≠ semicolon) → ∀ limit,
        RunsAlike limit word (i.afterDefinition word ts)
          ((i.afterDefinition word ts).afterDefinition name us)) ∧
    ((∀ other body, (i.afterDefinition word ts).definitions.lookup other = some body →
      semicolon ∉ tokenize body) →
      ¬ Copies name ⟨i.afterDefinition word ts, [word]⟩ ∧
      (name ≠ word → (∀ other body,
        (i.afterDefinition word ts).definitions.lookup other = some body → name ∉ tokenize body) →
        ¬ Meets name ⟨i.afterDefinition word ts, [word]⟩)) := by
  obtain ⟨former, hformer⟩ := Option.isSome_iff_exists.1 hname
  obtain ⟨hname, -⟩ := hi.wellFormed.stored hformer
  have hwf : WellFormed (i.afterDefinition word ts) := (hi.define hmode hword ts hts).wellFormed
  have htokens : tokenize word = [word] := tokenize_token hword.token.lower_eq hblank
  refine ⟨eval_definition hmode hword hts, fun us hus => eval_definition rfl hname hus,
    fun hmeets => ?_, fun hmeets hcopies us _ limit => ?_,
    fun hstored => ⟨?_, fun hne hunused => ?_⟩⟩
  · exact exists_not_runsAlike hwf rfl htokens hname hmeets
  · exact runsAlike_define rfl htokens hname hmeets hcopies _ limit
  · refine not_copies_of_semicolon_not_mem hstored ?_
    simpa using hword.ne_semicolon.symm
  · refine not_meets_of_not_mem
      (fun other body h => ⟨hstored other body h, hunused other body h⟩) ?_ ?_
    · simpa using hword.ne_semicolon.symm
    · simpa using hne

/-- The interpreter after `: a b ;` and `: b 1 ;`: the body of `a` names a word that was defined
later. -/
def lateName : Interpreter := (new.define ['a'] ['b']).define ['b'] ['1']

lemma reachable_lateName : Reachable lateName := by
  have hfirst : Reachable (new.define ['a'] ['b']) :=
    Reachable.define .new rfl (by decide +kernel) [['b']] (by decide +kernel)
  exact Reachable.define hfirst rfl (by decide +kernel) [['1']] (by decide +kernel)

lemma lookup_lateName {other body : Text}
    (h : (lateName.afterDefinition ['w'] [['a']]).definitions.lookup other = some body) :
    body = ['b'] ∨ body = ['1'] := by
  rcases lookup_of_lookup_define h with ⟨-, hbody⟩ | h
  · exact Or.inl hbody
  rcases lookup_of_lookup_define h with ⟨-, hbody⟩ | h
  · exact Or.inr hbody
  rcases lookup_of_lookup_define h with ⟨-, hbody⟩ | h
  · exact Or.inl hbody
  · exact absurd h (by simp [new])

/-- After `: a b ;` and `: b 1 ;` the definition `: w a ;` takes over the body `b`.  Redefining `a`
makes no difference to `w`, and redefining `b` does. -/
theorem runsAlike_after_redefinition_late :
    Reachable lateName ∧
      (∀ us : List Text, (∀ t ∈ us, IsToken t ∧ t ≠ semicolon) → ∀ limit,
        RunsAlike limit ['w'] (lateName.afterDefinition ['w'] [['a']])
          ((lateName.afterDefinition ['w'] [['a']]).afterDefinition ['a'] us)) ∧
      ∃ us : List Text, (∀ t ∈ us, IsToken t ∧ t ≠ semicolon) ∧
        ∃ enough, ∀ limit ≥ enough, ¬ RunsAlike limit ['w']
          (lateName.afterDefinition ['w'] [['a']])
          ((lateName.afterDefinition ['w'] [['a']]).afterDefinition ['b'] us) := by
  have hword : IsName ['w'] ∧ Unblank ['w'] := by decide +kernel
  have hts : ∀ t ∈ ([['a']] : List Text), IsToken t ∧ t ≠ semicolon := by decide +kernel
  obtain ⟨-, -, -, hkept, hstored⟩ := @runsAlike_after_redefinition lateName ['w'] ['a'] [['a']]
    reachable_lateName rfl hword.1 hword.2 hts rfl
  obtain ⟨-, -, hchanged, -, -⟩ := @runsAlike_after_redefinition lateName ['w'] ['b'] [['a']]
    reachable_lateName rfl hword.1 hword.2 hts rfl
  have hsemicolon : ∀ other body,
      (lateName.afterDefinition ['w'] [['a']]).definitions.lookup other = some body →
        semicolon ∉ tokenize body := by
    intro other body hlook
    rcases lookup_lateName hlook with rfl | rfl
    · decide +kernel
    · decide +kernel
  have ha : ∀ other body,
      (lateName.afterDefinition ['w'] [['a']]).definitions.lookup other = some body →
        ['a'] ∉ tokenize body := by
    intro other body hlook
    rcases lookup_lateName hlook with rfl | rfl
    · decide +kernel
    · decide +kernel
  have hexp : (lateName.afterDefinition ['w'] [['a']]).expansion? ['w'] = some ['b'] := by
    decide +kernel
  refine ⟨reachable_lateName, ?_, hchanged ?_⟩
  · obtain ⟨hcopies, hmeets⟩ := hstored hsemicolon
    exact hkept (hmeets (by decide) ha) hcopies
  · refine .later (next_expand hexp) ?_ (.here ?_)
    · rintro (⟨hhead, -⟩ | ⟨-, other, body, hmode⟩ | ⟨-, body, hmode⟩)
      · exact absurd hhead (by decide)
      · exact absurd hmode (by simp [afterDefinition, Interpreter.define])
      · exact absurd hmode (by simp [afterDefinition, Interpreter.define])
    · exact ⟨by decide +kernel, rfl⟩

/-- There `w` pushes `1`, and after `: b 2 ;` it pushes `2`, though `b` was defined before `w`. -/
theorem redefinition_changes_late_word :
    Reachable lateName ∧ lateName.mode = .evaluating ∧
      (lateName.definitions.lookup ['b']).isSome ∧
      ∃ i₁ i₂, (eval 0 lateName (definition ['w'] [['a']])).outcome = .ok i₁ ∧
        (eval 0 i₁ (definition ['b'] [['2']])).outcome = .ok i₂ ∧
        (eval 2 i₁ ['w']).outcome = .ok (i₁.push 1) ∧
        (eval 2 i₂ ['w']).outcome = .ok (i₂.push 2) := by
  refine ⟨reachable_lateName, rfl, rfl, lateName.afterDefinition ['w'] [['a']],
    (lateName.afterDefinition ['w'] [['a']]).afterDefinition ['b'] [['2']], ?_, ?_, ?_, ?_⟩
  · decide +kernel
  · decide +kernel
  · decide +kernel
  · decide +kernel

end Interpreter

end ColonForth
