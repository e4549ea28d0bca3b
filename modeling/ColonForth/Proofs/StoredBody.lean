import ColonForth.Proofs.Capture

/-!
# The stored body

What exactly is stored by the program `: name word … word ;`.  The body is collected word by word,
and a body that is still empty gets no space in front of what is added to it.  So an expansion that
is empty leaves a trace behind a text that is not empty, one space too many, and none in front of
it: the stored body is the expansions of the words with single spaces between them, from the first
one on that is not empty (`captureAll_nil_eq_spaced`).

Nothing is evaluated on the way.  The table may be any table, the words may be literals of any
length or the colon, and a definition always goes well (`eval_stores_expansions`).
-/

namespace ColonForth

open Text

/-- A space between two texts is as good inside the first text of some as between them. -/
lemma Text.spaced_cons_append (t u : Text) (more : List Text) :
    spaced ((t ++ ' ' :: u) :: more) = spaced (t :: u :: more) := by
  rw [spaced_cons_cons t u more]
  cases more with
  | nil => rfl
  | cons v more =>
    rw [spaced_cons_cons, spaced_cons_cons, List.append_assoc, List.cons_append]

namespace Interpreter

variable {i : Interpreter} {name body : Text} {words : List Text}

/-! ## The body as a text -/

/-- Behind a text that is not empty every expansion is added, and a space before it. -/
lemma captureAll_of_ne (hbody : body ≠ []) :
    i.captureAll body words = spaced (body :: (dropEmpty words).map i.expansionOf) := by
  induction words generalizing body with
  | nil => rfl
  | cons word rest ih =>
    rw [captureAll]
    by_cases hnil : word = []
    · rw [if_pos hnil, ih hbody, hnil, dropEmpty_cons_nil]
    · have hne : body ++ ' ' :: i.expansionOf word ≠ [] := by simp
      rw [if_neg hnil, extendBody_of_ne hbody, ih hne, dropEmpty_cons_of_ne hnil, List.map_cons,
        spaced_cons_append]

/-- **A body is the expansions of its words with single spaces between them**, those at the front
that are empty left out. -/
theorem captureAll_nil_eq_spaced (i : Interpreter) (words : List Text) :
    i.captureAll [] words =
      spaced (((dropEmpty words).map i.expansionOf).dropWhile List.isEmpty) := by
  induction words with
  | nil => rfl
  | cons word rest ih =>
    rw [captureAll]
    by_cases hnil : word = []
    · rw [if_pos hnil, ih, hnil, dropEmpty_cons_nil]
    rw [if_neg hnil, extendBody_nil, dropEmpty_cons_of_ne hnil, List.map_cons]
    -- the body begins with the first expansion that is not empty
    by_cases hempty : i.expansionOf word = []
    · rw [hempty, ih, List.dropWhile_cons_of_pos rfl]
    · rw [captureAll_of_ne hempty, List.dropWhile_cons_of_neg (by simpa using hempty)]

/-! ## The program of a definition -/

/-- The words of a definition may be put together before the rest of it.  If there are none, this
leaves an empty word between two spaces. -/
lemma spaced_eq_definition (name : Text) (words : List Text) :
    spaced [colon, name, spaced words, semicolon] =
      definition name (if words = [] then [[]] else words) := by
  split
  · next hnil =>
    subst hnil
    rfl
  · next hne =>
    obtain ⟨word, rest, rfl⟩ := List.exists_cons_of_ne_nil hne
    have hlast : spaced (word :: (rest ++ [semicolon])) =
        spaced (word :: rest) ++ ' ' :: semicolon := spaced_append_singleton hne semicolon
    simp only [definition, List.cons_append, spaced_cons_cons, hlast]
    rfl

lemma outcome_eval_spaced_definition (hmode : i.mode = .evaluating) (hname : IsName name)
    (hwords : ∀ t ∈ words, IsToken t ∧ t ≠ semicolon) (limit : Nat) :
    (eval limit i (spaced [colon, name, spaced words, semicolon])).outcome =
      .ok (i.define name (i.captureAll [] words)) := by
  rw [spaced_eq_definition]
  split
  · next hnil =>
    subst hnil
    have hempty : ∀ t ∈ [([] : Text)], IsToken t ∧ t ≠ semicolon := by decide +kernel
    exact eval_definition hmode hname hempty limit
  · exact eval_definition hmode hname hwords limit

/-- **What a definition stores.**  With any stack and any table, a definition of a name by words
other than the semicolon goes well.  It leaves the stack and the other entries as they were and
evaluation going on, and it stores the expansions of the words that are not empty, with single
spaces between them, those at the front that are empty left out.  So the non-empty pieces of what
is stored are those of the expansions, in order. -/
theorem eval_stores_expansions (hmode : i.mode = .evaluating) (hname : IsName name)
    (hwords : ∀ t ∈ words, IsToken t ∧ t ≠ semicolon) (limit : Nat) :
    ∃ j body, (eval limit i (spaced [colon, name, spaced words, semicolon])).outcome = .ok j ∧
      j.stack = i.stack ∧ j.mode = .evaluating ∧
      (∀ other, other ≠ name → j.definitions.lookup other = i.definitions.lookup other) ∧
      j.definitions.lookup name = some body ∧
      body = spaced (((dropEmpty words).map fun t =>
        (i.definitions.lookup t).getD t).dropWhile List.isEmpty) ∧
      dropEmpty (pieces body) = (dropEmpty words).flatMap fun t =>
        dropEmpty (pieces ((i.definitions.lookup t).getD t)) := by
  refine ⟨_, _, outcome_eval_spaced_definition hmode hname hwords limit, rfl, rfl, ?_,
    Dictionary.lookup_insert_self _ _ _, captureAll_nil_eq_spaced i words, ?_⟩
  · intro other hother
    exact Dictionary.lookup_insert_of_ne _ _ hother
  · have hpieces := dropEmpty_pieces_captureAll i [] words
    rwa [pieces_nil, dropEmpty_cons_nil, dropEmpty_nil, List.nil_append] at hpieces

/-- One value, and a table in which `e` has an empty body and the body of `d` opens a definition
of `n`. -/
def emptyAndOpening : Interpreter :=
  ⟨Stack.ofList [4], .evaluating,
    (Dictionary.empty.insert ['e'] []).insert ['d'] [':', ' ', 'n']⟩

/-- In `: n  e d e : n ;` the first `e` leaves nothing behind and the second one a space too many,
and neither the body of `d` nor the colon opens a definition. -/
theorem eval_stores_expansions_emptyAndOpening :
    ∃ j, (eval 0 emptyAndOpening (spaced [colon, ['n'],
        spaced [[], ['e'], ['d'], ['e'], colon, ['n']], semicolon])).outcome = .ok j ∧
      j.stack = Stack.ofList [4] ∧ j.mode = .evaluating ∧
      j.definitions.lookup ['e'] = some [] ∧
      j.definitions.lookup ['n'] = some [':', ' ', 'n', ' ', ' ', ':', ' ', 'n'] := by
  obtain ⟨j, body, heval, hstack, hmode, hothers, hbody, htext, -⟩ :=
    @eval_stores_expansions emptyAndOpening ['n'] [[], ['e'], ['d'], ['e'], colon, ['n']] rfl
      (by decide +kernel) (by decide +kernel) 0
  refine ⟨j, heval, hstack, hmode, ?_, ?_⟩
  · rw [hothers ['e'] (by decide)]
    decide
  · rw [hbody, htext]
    decide

end Interpreter

end ColonForth
