import ColonForth.Proofs.LowerParts
import ColonForth.Proofs.Tokens
import ColonForth.Proofs.Stepping

/-!
# Programs one after the other

Two programs with a space between them do what the second does after the first, in every mode: a
definition may be opened in one program and ended in another.  The words of the joined program are
those of the two programs, up to empty ones, as long as trimming finds nothing but plain spaces at
the joint (`Joins`).  Any other blank there would be trimmed from the single program, and would be
part of a word of the joined one.

* `dropEmpty_tokenize_joined`: the words of two programs that are joined.
* `eval_joined`: evaluating them, and any number of programs.
-/

namespace ColonForth

open Text

/-- Trimming finds nothing but plain spaces at the end of `p` and at the beginning of `q`. -/
structure Joins (p q : Text) : Prop where
  /-- The end of the first text. -/
  back : trimRight p = p.rdropWhile (fun c => c == ' ')
  /-- The beginning of the second text. -/
  front : trimLeft q = q.dropWhile (fun c => c == ' ')

instance (p q : Text) : Decidable (Joins p q) :=
  decidable_of_iff (trimRight p = p.rdropWhile (fun c => c == ' ') ∧
      trimLeft q = q.dropWhile (fun c => c == ' '))
    ⟨fun h => ⟨h.1, h.2⟩, fun h => ⟨h.back, h.front⟩⟩

namespace Text

/-! ## The two sides of a joint -/

/-- A text with only spaces for trimming at its end is one without blanks there, and spaces. -/
lemma exists_back {p : Text} (h : trimRight p = p.rdropWhile (fun c => c == ' ')) :
    ∃ a r, p = a ++ r ∧ (∀ c ∈ r, c = ' ') ∧ ∀ c ∈ a.getLast?, isBlank c = false := by
  refine ⟨trimRight p, p.rtakeWhile (fun c => c == ' '), ?_, fun c hc => ?_,
    fun c hc => eq_false_of_mem_getLast?_rdropWhile hc⟩
  · rw [h, List.rdropWhile_append_rtakeWhile]
  · simpa using List.mem_rtakeWhile_imp hc

/-- A text with only spaces for trimming at its beginning is spaces, and one without blanks
there. -/
lemma exists_front {q : Text} (h : trimLeft q = q.dropWhile (fun c => c == ' ')) :
    ∃ l b, q = l ++ b ∧ (∀ c ∈ l, c = ' ') ∧ ∀ c ∈ b.head?, isBlank c = false := by
  refine ⟨q.takeWhile (fun c => c == ' '), trimLeft q, ?_, fun c hc => ?_,
    fun c hc => eq_false_of_mem_head?_dropWhile hc⟩
  · rw [h, List.takeWhile_append_dropWhile]
  · simpa using List.mem_takeWhile_imp hc

/-- Trimming a text that does not end in a blank takes something off its beginning only. -/
lemma exists_trim_of_last {a : Text} (hne : a ≠ []) (hlast : ∀ c ∈ a.getLast?, isBlank c = false) :
    trim a ≠ [] ∧ ∃ l, (∀ c ∈ l, isBlank c = true) ∧ a = l ++ trim a := by
  obtain ⟨l, r, hl, hr, ha, -⟩ := trimBy_split isBlank a
  rw [← trim_eq_trimBy] at ha
  have hr_nil : r = [] := by
    by_contra hr_ne
    obtain ⟨c, hc⟩ := Option.isSome_iff_exists.1 (List.getLast?_isSome.2 hr_ne)
    have hend : a.getLast? = some c := by rw [ha, List.getLast?_append_of_ne_nil _ hr_ne, hc]
    have hblank := hr c (List.mem_of_mem_getLast? hc)
    rw [hlast c hend] at hblank
    exact absurd hblank (by decide)
  subst hr_nil
  rw [List.append_nil] at ha
  refine ⟨fun htrim => ?_, l, hl, ha⟩
  -- the text would consist of blanks, its last character among them
  obtain ⟨c, hc⟩ := Option.isSome_iff_exists.1 (List.getLast?_isSome.2 hne)
  have hmem : c ∈ l := by
    have hall := List.mem_of_mem_getLast? hc
    rwa [ha, htrim, List.append_nil] at hall
  have hblank := hl c hmem
  rw [hlast c hc] at hblank
  exact absurd hblank (by decide)

/-- Trimming a text that does not begin with a blank takes something off its end only. -/
lemma exists_trim_of_head {b : Text} (hne : b ≠ []) (hhead : ∀ c ∈ b.head?, isBlank c = false) :
    trim b ≠ [] ∧ ∃ r, (∀ c ∈ r, isBlank c = true) ∧ b = trim b ++ r := by
  obtain ⟨l, r, hl, hr, hb, -⟩ := trimBy_split isBlank b
  rw [← trim_eq_trimBy] at hb
  have hl_nil : l = [] := by
    cases l with
    | nil => rfl
    | cons c rest =>
      have hbegin : b.head? = some c := by rw [hb]; rfl
      have hblank := hl c List.mem_cons_self
      rw [hhead c hbegin] at hblank
      exact absurd hblank (by decide)
  subst hl_nil
  rw [List.nil_append] at hb
  refine ⟨fun htrim => ?_, r, hr, hb⟩
  -- the text would consist of blanks, its first character among them
  obtain ⟨c, rest, hc⟩ := List.exists_cons_of_ne_nil hne
  have hmem : c ∈ r := by
    have hall : c ∈ b := by rw [hc]; exact List.mem_cons_self
    rwa [hb, htrim, List.nil_append] at hall
  have hblank := hr c hmem
  rw [hhead c (by rw [hc]; rfl)] at hblank
  exact absurd hblank (by decide)

end Text

/-! ## The words of joined programs -/

lemma tokenize_congr {s t : Text} (h : trim s = trim t) : tokenize s = tokenize t := by
  rw [tokenize, tokenize, trim_lower, trim_lower, h]

lemma isBlank_of_eq_space {t : Text} (h : ∀ c ∈ t, c = ' ') : ∀ c ∈ t, isBlank c = true := by
  intro c hc
  rw [h c hc]
  exact isBlank_space

/-- Spaces are a program without words. -/
lemma dropEmpty_tokenize_spaces {r : Text} (hr : ∀ c ∈ r, c = ' ') :
    dropEmpty (tokenize r) = [] := by
  have htrim : trim r = trim [] := by
    simpa using trim_append_blanks (isBlank_of_eq_space hr) (t := []) (r := []) (by simp)
  rw [tokenize_congr htrim]
  decide +kernel

/-- Texts that meet without blanks, put together with spaces, have the words of both. -/
lemma dropEmpty_tokenize_between {a b spaces spaces' : Text} (ha : a ≠ [])
    (hlast : ∀ c ∈ a.getLast?, isBlank c = false) (hb : b ≠ [])
    (hhead : ∀ c ∈ b.head?, isBlank c = false) (hs : ∀ c ∈ spaces, c = ' ')
    (hs' : ∀ c ∈ spaces', c = ' ') :
    dropEmpty (tokenize (a ++ (spaces ++ ' ' :: spaces') ++ b)) =
      dropEmpty (tokenize a) ++ dropEmpty (tokenize b) := by
  obtain ⟨ha_ne, l, hl, ha_eq⟩ := exists_trim_of_last ha hlast
  obtain ⟨hb_ne, r, hr, hb_eq⟩ := exists_trim_of_head hb hhead
  obtain ⟨-, -, -, -, -, hbare_a⟩ := trimBy_split isBlank a
  obtain ⟨-, -, -, -, -, hbare_b⟩ := trimBy_split isBlank b
  rw [← trim_eq_trimBy] at hbare_a hbare_b
  -- trimming works on the outer ends only
  have hbare : Bare isBlank (trim a ++ (spaces ++ ' ' :: spaces') ++ trim b) := by
    refine ⟨fun c hc => hbare_a.head c ?_, fun c hc => hbare_b.last c ?_⟩
    · rwa [List.append_assoc, List.head?_append_of_ne_nil _ ha_ne] at hc
    · rwa [List.getLast?_append_of_ne_nil _ hb_ne] at hc
  have htrim : trim (a ++ (spaces ++ ' ' :: spaces') ++ b) =
      trim a ++ (spaces ++ ' ' :: spaces') ++ trim b := by
    have hparts : a ++ (spaces ++ ' ' :: spaces') ++ b =
        l ++ (trim a ++ (spaces ++ ' ' :: spaces') ++ trim b) ++ r := by
      conv_lhs => rw [ha_eq, hb_eq]
      simp
    rw [hparts, trim_eq_trimBy, trimBy_of_split hl hr hbare]
  -- no sigma sees past the space in the middle
  have hlower : lower (trim a ++ (spaces ++ ' ' :: spaces') ++ trim b) =
      ([] ++ lower (trim a) ++ spaces) ++ ' ' :: (spaces' ++ lower (trim b) ++ []) := by
    have hparts : trim a ++ (spaces ++ ' ' :: spaces') ++ trim b =
        (trim a ++ spaces) ++ ' ' :: (spaces' ++ trim b) := by simp
    rw [hparts, lower_append_space, lower_append_of_back (isBlank_of_eq_space hs),
      lower_append_of_front (isBlank_of_eq_space hs')]
    simp
  have hnone : ∀ c ∈ ([] : Text), c = ' ' := by simp
  rw [tokenize, tokenize, tokenize, trim_lower, trim_lower, trim_lower, htrim, hlower,
    pieces_append_space, dropEmpty_append, dropEmpty_pieces_of_split hnone hs,
    dropEmpty_pieces_of_split hs' hnone]

/-- **The words of two programs that are joined are those of both**, up to empty ones. -/
theorem dropEmpty_tokenize_joined {p q : Text} (h : Joins p q) :
    dropEmpty (tokenize (p ++ ' ' :: q)) = dropEmpty (tokenize p) ++ dropEmpty (tokenize q) := by
  obtain ⟨a, r, rfl, hr, hlast⟩ := exists_back h.back
  obtain ⟨l, b, rfl, hl, hhead⟩ := exists_front h.front
  have hmiddle : ∀ c ∈ r ++ ' ' :: l, c = ' ' := by
    simpa [or_imp, forall_and] using And.intro hr hl
  have hblank := isBlank_of_eq_space hmiddle
  have hnone : ∀ c ∈ ([] : Text), isBlank c = true := by simp
  have hparts : (a ++ r) ++ ' ' :: (l ++ b) = a ++ (r ++ ' ' :: l) ++ b := by simp
  have hp : tokenize (a ++ r) = tokenize a :=
    tokenize_congr (by simpa using trim_append_blanks hnone (isBlank_of_eq_space hr) (t := a))
  have hq : tokenize (l ++ b) = tokenize b :=
    tokenize_congr (by simpa using trim_append_blanks (isBlank_of_eq_space hl) hnone (t := b))
  rw [hparts, hp, hq]
  by_cases ha : a = []
  · -- the first program has no words, and the second has spaces in front of it
    subst ha
    have hjoined : tokenize ([] ++ (r ++ ' ' :: l) ++ b) = tokenize b :=
      tokenize_congr (by simpa using trim_append_blanks hblank hnone (t := b))
    rw [hjoined, dropEmpty_tokenize_spaces (r := []) (by simp), List.nil_append]
  by_cases hb : b = []
  · -- the second program has no words, and the first has spaces behind it
    subst hb
    have hjoined : tokenize (a ++ (r ++ ' ' :: l) ++ []) = tokenize a :=
      tokenize_congr (by simpa using trim_append_blanks hnone hblank (t := a))
    rw [hjoined, dropEmpty_tokenize_spaces (r := []) (by simp), List.append_nil]
  exact dropEmpty_tokenize_between ha hlast hb hhead hr hl

/-! ## Evaluating joined programs -/

/-- A text that begins with spaces, and then without a blank, is as `Joins` asks of the second
text. -/
lemma front_of_split {l b : Text} (hl : ∀ c ∈ l, c = ' ')
    (hhead : ∀ c ∈ b.head?, isBlank c = false) :
    trimLeft (l ++ b) = (l ++ b).dropWhile (fun c => c == ' ') := by
  have hspace : ∀ c ∈ b.head?, (c == ' ') = false := by
    intro c hc
    have hne : c ≠ ' ' := by
      rintro rfl
      exact absurd ((hhead ' ' hc).symm.trans isBlank_space) (by decide)
    simpa using hne
  rw [trimLeft, List.dropWhile_append_of_pos (isBlank_of_eq_space hl), dropWhile_of_head hhead,
    List.dropWhile_append_of_pos (by simpa using hl), dropWhile_of_head hspace]

lemma front_joined {a b : Text} (ha : trimLeft a = a.dropWhile (fun c => c == ' '))
    (hb : trimLeft b = b.dropWhile (fun c => c == ' ')) :
    trimLeft (a ++ ' ' :: b) = (a ++ ' ' :: b).dropWhile (fun c => c == ' ') := by
  obtain ⟨l, m, rfl, hl, hm⟩ := exists_front ha
  by_cases hnil : m = []
  · -- the first text is spaces, and the beginning of the second comes up behind them
    subst hnil
    obtain ⟨l', m', rfl, hl', hm'⟩ := exists_front hb
    have hparts : (l ++ []) ++ ' ' :: (l' ++ m') = (l ++ ' ' :: l') ++ m' := by simp
    have hspaces : ∀ c ∈ l ++ ' ' :: l', c = ' ' := by
      simpa [or_imp, forall_and] using And.intro hl hl'
    rw [hparts]
    exact front_of_split hspaces hm'
  · rw [List.append_assoc]
    refine front_of_split hl fun c hc => hm c ?_
    rwa [List.head?_append_of_ne_nil _ hnil] at hc

/-- Programs that can be joined one by one can be joined to the first. -/
lemma front_spaced {q : Text} {rest : List Text} (hchain : (q :: rest).IsChain Joins)
    (hq : trimLeft q = q.dropWhile (fun c => c == ' ')) :
    trimLeft (spaced (q :: rest)) = (spaced (q :: rest)).dropWhile (fun c => c == ' ') := by
  induction rest generalizing q with
  | nil => exact hq
  | cons r more ih =>
    obtain ⟨hjoins, hmore⟩ := List.isChain_cons_cons.1 hchain
    rw [spaced_cons_cons]
    exact front_joined hq (ih hmore hjoins.front)

namespace Interpreter

/-- Programs one after the other, until one fails. -/
def evalInTurn (limit : Nat) : List Text → Interpreter → Run
  | [], i => .done i
  | program :: rest, i => (eval limit i program).andThen (evalInTurn limit rest)

/-- Two programs that are joined do what the second does after the first. -/
lemma outcome_eval_append {p q : Text} (h : Joins p q) (limit : Nat) (i : Interpreter) :
    (eval limit i (p ++ ' ' :: q)).outcome =
      ((eval limit i p).andThen fun j => eval limit j q).outcome := by
  have hwords : ∀ (t : Text) (j : Interpreter), (eval limit j t).outcome =
      (steps (inner limit) (dropEmpty (tokenize t)) j).outcome := by
    intro t j
    rw [outcome_eval, steps_dropEmpty]
  rw [hwords, dropEmpty_tokenize_joined h, steps_append]
  exact Traced.outcome_andThen_congr (hwords p i).symm fun j => (hwords q j).symm

/-- Programs that can be joined one by one do when joined what they do in turn. -/
lemma outcome_eval_chain {programs : List Text} (hchain : programs.IsChain Joins) (limit : Nat)
    (i : Interpreter) :
    (eval limit i (spaced programs)).outcome = (evalInTurn limit programs i).outcome := by
  induction programs generalizing i with
  | nil =>
    have hnone : tokenize [] = [[]] := by decide +kernel
    rw [spaced, join, outcome_eval, hnone]
    rfl
  | cons p rest ih =>
    cases rest with
    | nil =>
      rw [evalInTurn]
      cases hp : (eval limit i p).outcome with
      | error e =>
        rw [Traced.outcome_andThen_of_error hp]
        exact hp
      | ok j =>
        rw [Traced.outcome_andThen_of_ok hp]
        exact hp
    | cons q more =>
      obtain ⟨hjoins, hmore⟩ := List.isChain_cons_cons.1 hchain
      have hall : Joins p (spaced (q :: more)) := ⟨hjoins.back, front_spaced hmore hjoins.front⟩
      rw [spaced_cons_cons, outcome_eval_append hall, evalInTurn]
      exact Traced.outcome_andThen_congr rfl fun j => ih hmore j

/-- **Programs concatenate.**  Two programs that are joined by a space have the outcome of the
second after the first, in any mode: the same interpreter, or the same failure.  So a program may
be cut at any number of such spaces into programs that are evaluated in turn. -/
theorem eval_joined (limit : Nat) (i : Interpreter) :
    (∀ p q, Joins p q → (eval limit i (p ++ ' ' :: q)).outcome =
      ((eval limit i p).andThen fun j => eval limit j q).outcome) ∧
    ∀ programs : List Text, programs.IsChain Joins →
      (eval limit i (spaced programs)).outcome = (evalInTurn limit programs i).outcome := by
  constructor
  · intro p q hjoins
    exact outcome_eval_append hjoins limit i
  · intro programs hchain
    exact outcome_eval_chain hchain limit i

/-- A definition of `ΟΔΟΣ` and a use of it, cut before and within the body. -/
def sigmaInParts : List Text :=
  [[':', ' ', 'Ο', 'Δ', 'Ο', 'Σ', ' '], [' ', '1'], [], [';', ' ', 'ο', 'δ', 'ο', 'ς']]

/-- The sigma at the end of the first program becomes the final one, as it does in front of the
space when the programs are joined. -/
theorem eval_joined_sigma :
    sigmaInParts.IsChain Joins ∧
      (evalInTurn 1 sigmaInParts new).outcome =
        .ok ((new.define ['ο', 'δ', 'ο', 'ς'] ['1']).push 1) ∧
      (eval 1 new (spaced sigmaInParts)).outcome =
        .ok ((new.define ['ο', 'δ', 'ο', 'ς'] ['1']).push 1) := by
  have hchain : sigmaInParts.IsChain Joins := by
    rw [sigmaInParts]
    decide +kernel
  have hturn : (evalInTurn 1 sigmaInParts new).outcome =
      .ok ((new.define ['ο', 'δ', 'ο', 'ς'] ['1']).push 1) := by decide +kernel
  exact ⟨hchain, hturn, ((eval_joined 1 new).2 _ hchain).trans hturn⟩

end Interpreter

end ColonForth
