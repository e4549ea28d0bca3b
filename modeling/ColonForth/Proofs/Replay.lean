import ColonForth.Proofs.Capture

/-!
# Running a body against capturing it

Capturing a definition puts words together to a body; running the word puts the body into lower
case, trims it and cuts it again.  The second pass changes nothing but the two ends: words may hold
blanks other than the space, and such a blank is lost where it comes to stand at an end of the
body.  So the words that are run are the words that were captured exactly when the body has no
such blank at its ends.

This has a consequence that is not visible in any program: a body that ends in a semicolon with a
tabulator behind it has no semicolon among its words until it is run.  As long as the table holds
no such body, a program without a semicolon leaves the table as it is.
-/

namespace ColonForth

open Text

/-- A body that is trimmed of spaces only has no semicolon among the words that are run. -/
lemma IsBody.semicolon_not_mem_tokenize {body : Text} (h : IsBody body)
    (htrim : trim body = trimSpaces body) : semicolon ∉ tokenize body := by
  intro hmem
  have hrun : semicolon ∈ dropEmpty (tokenize body) := mem_dropEmpty.2 ⟨hmem, by decide⟩
  rw [(dropEmpty_tokenize_iff h.lower_eq).2 htrim, mem_dropEmpty] at hrun
  exact h.semicolon_not_mem hrun.1

namespace Interpreter

variable {i j : Interpreter}

/-- If the bodies of a table hold none of the words `X`, one of which is the semicolon, no word
that is not in `X` changes the table or brings in a word in `X`. -/
lemma preserved_table {D : Dictionary} {X : Text → Prop} (hX : X semicolon)
    (hD : ∀ name body, D.lookup name = some body → ∀ t ∈ tokenize body, ¬ X t) :
    Preserved fun queue k => k.definitions = D ∧ ∀ t ∈ queue, ¬ X t := by
  refine ⟨?_, ?_⟩
  · rintro word queue k l ⟨hk, hqueue⟩ - hacts
    rw [List.forall_mem_cons] at hqueue
    refine ⟨?_, hqueue.2⟩
    cases hacts with
    -- only a semicolon changes the table
    | store hmode => exact absurd hX hqueue.1
    | skip => exact hk
    | name => exact hk
    | extend => exact hk
    | opening => exact hk
    | push => exact hk
    | primitive => exact hk
  · rintro word body queue k ⟨hk, hqueue⟩ hexp
    obtain ⟨-, -, -, -, hlook⟩ := expansion?_eq_some_iff.1 hexp
    rw [hk] at hlook
    rw [List.forall_mem_cons] at hqueue
    refine ⟨hk, fun t ht => ?_⟩
    rcases List.mem_append.1 ht with ht | ht
    · exact hD word body hlook t ht
    · exact hqueue.2 t ht

/-- **The words that are run are the words that were captured exactly when trimming finds only
spaces at the ends of the body.**  Then no semicolon is among them, and if no stored body has one
among its words, a program without a semicolon leaves the table as it is. -/
theorem stored_words_replayed_iff (hi : Reachable i) :
    (∀ name body, i.definitions.lookup name = some body →
      tokenize body = pieces (trim body) ∧ semicolon ∉ pieces body ∧
      (dropEmpty (tokenize body) = dropEmpty (pieces body) ↔ trim body = trimSpaces body) ∧
      (trim body = trimSpaces body → semicolon ∉ tokenize body)) ∧
    ((∀ name body, i.definitions.lookup name = some body → semicolon ∉ tokenize body) →
      ∀ program, semicolon ∉ tokenize program → ∀ limit j,
        (eval limit i program).outcome = .ok j → j.definitions = i.definitions) := by
  refine ⟨fun name body hlook => ?_, fun hstored program hprogram limit j h => ?_⟩
  · obtain ⟨-, hbody⟩ := hi.wellFormed.stored hlook
    exact ⟨tokenize_of_lower hbody.lower_eq, hbody.semicolon_not_mem,
      dropEmpty_tokenize_iff hbody.lower_eq, hbody.semicolon_not_mem_tokenize⟩
  · have hpreserved : Preserved fun queue k =>
        k.definitions = i.definitions ∧ ∀ t ∈ queue, ¬ t = semicolon :=
      preserved_table rfl fun name body hlook t ht hsemicolon =>
        hstored name body hlook (hsemicolon ▸ ht)
    exact (hpreserved.eval ⟨rfl, fun t ht hsemicolon => hprogram (hsemicolon ▸ ht)⟩ h).1

/-- After `: e ; : w 1 e 2 ;` the body of `w` has two spaces in it, one of them for the empty body
of `e`, and running it runs the words that were captured. -/
theorem stored_words_replayed_two_spaces :
    Reachable ((new.define ['e'] []).define ['w'] ['1', ' ', ' ', '2']) ∧
      trim ['1', ' ', ' ', '2'] = trimSpaces ['1', ' ', ' ', '2'] ∧
      dropEmpty (tokenize ['1', ' ', ' ', '2']) = dropEmpty (pieces ['1', ' ', ' ', '2']) := by
  have hempty : Reachable (new.define ['e'] []) :=
    Reachable.define .new rfl (by decide +kernel) [] (by simp)
  have hreach : Reachable ((new.define ['e'] []).define ['w'] ['1', ' ', ' ', '2']) :=
    Reachable.define hempty rfl (by decide +kernel) [['1'], ['e'], ['2']] (by decide +kernel)
  have htrim : trim ['1', ' ', ' ', '2'] = trimSpaces ['1', ' ', ' ', '2'] := by decide +kernel
  obtain ⟨-, -, hiff, -⟩ := (stored_words_replayed_iff hreach).1 ['w'] ['1', ' ', ' ', '2'] rfl
  exact ⟨hreach, htrim, hiff.2 htrim⟩

/-- After `: w : x 1 ;⇥ ;`, with a tabulator behind the first semicolon, the body of `w` is run as
other words than those it was captured from, a semicolon among them: the program `w`, which has
none, defines `x`. -/
theorem stored_words_not_replayed_tab :
    ∃ i body, Reachable i ∧ i.mode = .evaluating ∧ i.definitions.lookup ['w'] = some body ∧
      dropEmpty (tokenize body) ≠ dropEmpty (pieces body) ∧ semicolon ∈ tokenize body ∧
      semicolon ∉ tokenize ['w'] ∧
      ∃ j, (eval 1 i ['w']).outcome = .ok j ∧ j.definitions ≠ i.definitions := by
  refine ⟨new.define ['w'] [':', ' ', 'x', ' ', '1', ' ', ';', '\t'],
    [':', ' ', 'x', ' ', '1', ' ', ';', '\t'], ?_, rfl, rfl, ?_, ?_, ?_,
    (new.define ['w'] [':', ' ', 'x', ' ', '1', ' ', ';', '\t']).define ['x'] ['1'], ?_, ?_⟩
  · exact Reachable.define .new rfl (by decide +kernel) [[':'], ['x'], ['1'], [';', '\t']]
      (by decide +kernel)
  · decide +kernel
  · decide +kernel
  · decide +kernel
  · decide +kernel
  · decide +kernel

end Interpreter

end ColonForth
