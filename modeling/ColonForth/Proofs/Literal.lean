import ColonForth.Number.Literal
import Mathlib.Data.List.TakeWhile
import Mathlib.Tactic.Common

/-!
# The grammar of literals

A literal is an optional sign, then one or more digits, and nothing else.  `IsLiteral` says so
without looking at how a text is read; it puts no bound on the number of digits.

* `read_sign_append`: what reading makes of a sign and digits.
* `read_ne_none`: a literal is never taken for a word.  It is read, or refused for its length.
* `beginsWithDigits_of_read`: a text is refused for its length only if it begins with too many
  digits, whatever follows them.
-/

namespace ColonForth

/-- An optional sign and one or more digits, and nothing else. -/
def IsLiteral (t : Text) : Prop :=
  ∃ sign digits : Text, (sign = [] ∨ sign = ['+'] ∨ sign = ['-']) ∧ digits ≠ [] ∧
    (∀ c ∈ digits, Literal.isDigit c = true) ∧ t = sign ++ digits

namespace Literal

/-- What holds of the ten digits holds of every digit. -/
lemma of_isDigit {P : Char → Prop} (h : ∀ k < 10, P (Char.ofNat (48 + k))) {c : Char}
    (hc : isDigit c = true) : P c := by
  have hrange : 48 ≤ c.toNat ∧ c.toNat ≤ 57 := by
    rw [isDigit, Bool.and_eq_true, decide_eq_true_iff, decide_eq_true_iff] at hc
    exact hc
  obtain ⟨k, hk⟩ := Nat.exists_eq_add_of_le hrange.1
  have hdigit := h k (by omega)
  rwa [← hk, Char.ofNat_toNat] at hdigit

/-- A text that begins with a digit has no sign. -/
lemma splitSign_of_isDigit {c : Char} (hc : isDigit c = true) (rest : Text) :
    splitSign (c :: rest) = (false, c :: rest) := by
  have hminus : c ≠ '-' := by
    rintro rfl
    exact absurd hc (by decide)
  have hplus : c ≠ '+' := by
    rintro rfl
    exact absurd hc (by decide)
  unfold splitSign
  split
  · next h => exact absurd (List.cons.inj h).1 hminus
  · next h => exact absurd (List.cons.inj h).1 hplus
  · rfl

lemma splitSign_append {sign digits : Text} (hsign : sign = [] ∨ sign = ['+'] ∨ sign = ['-'])
    (hne : digits ≠ []) (hdigits : ∀ c ∈ digits, isDigit c = true) :
    splitSign (sign ++ digits) = (decide (sign = ['-']), digits) := by
  rcases hsign with rfl | rfl | rfl
  · obtain ⟨c, rest, rfl⟩ := List.exists_cons_of_ne_nil hne
    have hc : isDigit c = true := hdigits c List.mem_cons_self
    exact splitSign_of_isDigit hc rest
  · rfl
  · rfl

/-- A sign and digits are read as the number they stand for, unless there are too many digits. -/
lemma read_sign_append {sign digits : Text} (hsign : sign = [] ∨ sign = ['+'] ∨ sign = ['-'])
    (hne : digits ≠ []) (hdigits : ∀ c ∈ digits, isDigit c = true) :
    read (sign ++ digits) =
      if digitLimit < digits.length then .error (.literalTooLong digits.length)
      else .ok (some (if sign = ['-'] then -(valueOf digits : Int) else valueOf digits)) := by
  have hsplit := splitSign_append hsign hne hdigits
  have htake : digits.takeWhile isDigit = digits := List.takeWhile_eq_self_iff.2 hdigits
  have hdrop : digits.dropWhile isDigit = [] := List.dropWhile_eq_nil_iff.2 hdigits
  have hdigitsOf : digitsOf (sign ++ digits) = digits := by
    rw [digitsOf, hsplit, htake]
  rw [read, hdigitsOf, hsplit, hdrop]
  simp [hne]

lemma exists_sign (t : Text) :
    ∃ sign : Text, (sign = [] ∨ sign = ['+'] ∨ sign = ['-']) ∧ t = sign ++ (splitSign t).2 := by
  unfold splitSign
  split
  · exact ⟨['-'], by simp, rfl⟩
  · exact ⟨['+'], by simp, rfl⟩
  · exact ⟨[], by simp, rfl⟩

/-- What follows the optional sign decides whether a text is a literal. -/
lemma isLiteral_iff {t : Text} :
    IsLiteral t ↔ (splitSign t).2 ≠ [] ∧ ∀ c ∈ (splitSign t).2, isDigit c = true := by
  constructor
  · rintro ⟨sign, digits, hsign, hne, hdigits, rfl⟩
    rw [splitSign_append hsign hne hdigits]
    exact ⟨hne, hdigits⟩
  · rintro ⟨hne, hdigits⟩
    obtain ⟨sign, hsign, ht⟩ := exists_sign t
    exact ⟨sign, (splitSign t).2, hsign, hne, hdigits, ht⟩

instance (t : Text) : Decidable (IsLiteral t) :=
  -- the digits are to be checked one by one, and not all characters there are
  have : Decidable (∀ c ∈ (splitSign t).2, isDigit c = true) := List.decidableBAll _ _
  decidable_of_iff _ isLiteral_iff.symm

/-- **A literal is never taken for a word.** -/
theorem read_ne_none {t : Text} (h : IsLiteral t) : read t ≠ .ok none := by
  obtain ⟨sign, digits, hsign, hne, hdigits, rfl⟩ := h
  rw [read_sign_append hsign hne hdigits]
  split <;> simp

/-! ## Texts that begin with digits -/

/-- An optional sign, `n` digits, and whatever follows. -/
def BeginsWithDigits (n : Nat) (t : Text) : Prop :=
  ∃ sign digits rest : Text, (sign = [] ∨ sign = ['+'] ∨ sign = ['-']) ∧
    (∀ c ∈ digits, isDigit c = true) ∧ digits.length = n ∧ t = sign ++ digits ++ rest

lemma beginsWithDigits_digitsOf (t : Text) : BeginsWithDigits (digitsOf t).length t := by
  obtain ⟨sign, hsign, ht⟩ := exists_sign t
  refine ⟨sign, digitsOf t, (splitSign t).2.dropWhile isDigit, hsign, ?_, rfl, ?_⟩
  · exact fun c hc => List.mem_takeWhile_imp hc
  · rw [List.append_assoc, digitsOf, List.takeWhile_append_dropWhile]
    exact ht

/-- A text is refused only if more digits than are allowed follow its optional sign. -/
lemma beginsWithDigits_of_read {t : Text} {e : LimitError} (h : read t = .error e) :
    ∃ n, digitLimit < n ∧ BeginsWithDigits n t ∧ e = .literalTooLong n := by
  unfold read at h
  simp only at h
  split at h
  · next hlong =>
    exact ⟨(digitsOf t).length, hlong, beginsWithDigits_digitsOf t, (Except.error.inj h).symm⟩
  · split at h
    · exact absurd h (by simp)
    · exact absurd h (by simp)

end Literal

end ColonForth
