import ColonForth.Proofs.LowerCase
import ColonForth.Proofs.Stepping
import ColonForth.Proofs.Tokens

/-!
# Programs in canonical form

The words of a program with one space between neighbours are a program again: the text without the
blanks at its ends, in lower case (`spaced_tokenize`).  It is cut into the same words, and so is the
program that is merely put into lower case.  Evaluation looks at the words only, so the three of
them are evaluated alike.

The blanks inside a program are not touched: a tab or a no-break space between two letters belongs
to a word, and so does every space of a run of spaces, as the end of an empty word.
-/

namespace ColonForth

open Text

/-- The words of a program put together again. -/
lemma spaced_tokenize (program : Text) : spaced (tokenize program) = trim (lower program) :=
  spaced_pieces _

/-- The canonical form of a program is in lower case. -/
lemma lower_trim_lower (program : Text) : lower (trim (lower program)) = trim (lower program) :=
  lower_eq_self_iff.2 fun _ hc => settled_of_mem_lower (mem_of_mem_trimBy hc)

lemma tokenize_lower (program : Text) : tokenize (lower program) = tokenize program := by
  rw [tokenize, tokenize, lower_lower]

lemma tokenize_spaced_tokenize (program : Text) :
    tokenize (spaced (tokenize program)) = tokenize program := by
  rw [spaced_tokenize, tokenize_of_bare (lower_trim_lower program) (bare_trim _), tokenize]

/-- The first word begins where the trimmed program does. -/
lemma isBlank_of_mem_head? {program t : Text} {c : Char} (ht : t ∈ (tokenize program).head?)
    (hc : c ∈ t.head?) : isBlank c = false := by
  obtain ⟨more, hmore⟩ := List.head?_eq_some_iff.1 ht
  have hne : t ≠ [] := by
    rintro rfl
    exact absurd hc (by simp)
  refine (bare_trim (lower program)).head c ?_
  rwa [← spaced_tokenize, hmore, head?_spaced hne]

/-- The last word ends where the trimmed program does. -/
lemma isBlank_of_mem_getLast? {program t : Text} {c : Char} (ht : t ∈ (tokenize program).getLast?)
    (hc : c ∈ t.getLast?) : isBlank c = false := by
  obtain ⟨front, hfront⟩ := List.getLast?_eq_some_iff.1 ht
  have hne : t ≠ [] := by
    rintro rfl
    exact absurd hc (by simp)
  refine (bare_trim (lower program)).last c ?_
  rwa [← spaced_tokenize, hfront, getLast?_spaced hne]

namespace Interpreter

/-- Programs of the same words have the same outcome. -/
lemma outcome_eval_congr {program program' : Text} (h : tokenize program' = tokenize program)
    (limit : Nat) (i : Interpreter) :
    (eval limit i program').outcome = (eval limit i program).outcome := by
  rw [outcome_eval, outcome_eval, h]

/-- **Cutting a program into words is canonical and does not see upper case.**  A program, its
lower-case form and its words with spaces between them are cut into the same words, and are
evaluated to the same outcome by every interpreter.  The words are in lower case and hold no space,
and the first does not begin with a blank, nor does the last end with one. -/
theorem tokenize_canonical (program : Text) :
    tokenize (lower program) = tokenize program ∧
      tokenize (spaced (tokenize program)) = tokenize program ∧
      (∀ t ∈ tokenize program, ' ' ∉ t ∧ lower t = t) ∧
      (∀ t ∈ (tokenize program).head?, ∀ c ∈ t.head?, isBlank c = false) ∧
      (∀ t ∈ (tokenize program).getLast?, ∀ c ∈ t.getLast?, isBlank c = false) ∧
      ∀ (limit : Nat) (i : Interpreter),
        (eval limit i (lower program)).outcome = (eval limit i program).outcome ∧
          (eval limit i (spaced (tokenize program))).outcome = (eval limit i program).outcome := by
  refine ⟨tokenize_lower program, tokenize_spaced_tokenize program, fun t ht => ?_,
    fun t ht c hc => isBlank_of_mem_head? ht hc, fun t ht c hc => isBlank_of_mem_getLast? ht hc,
    fun limit i => ⟨?_, ?_⟩⟩
  · have htoken := isToken_of_mem_tokenize ht
    exact ⟨htoken.noSpace, htoken.lower_eq⟩
  · exact outcome_eval_congr (tokenize_lower program) limit i
  · exact outcome_eval_congr (tokenize_spaced_tokenize program) limit i

/-- Tabs and a run of spaces around the words of a Greek program, the first of them in capitals with
a sigma at its end. -/
example : tokenize "\t ΣΑΣ  İ\t4 \u00a0".toList = ["σας".toList, [], "i\u0307\t4".toList] := by
  decide +kernel

end Interpreter

end ColonForth
