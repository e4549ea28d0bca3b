import ColonForth.Proofs.Literal
import Mathlib.Order.Bounds.Defs
import Mathlib.Tactic.Ring

/-!
# What a text is read as

Reading takes an optional sign and all the digits that follow it off the front of a text, turns
them into a number, and looks at what is left over last of all.  So there are three ways to fail,
and the order in which they are met decides:

* too many digits are refused before anything behind them is seen;
* no digit at all, or a rest that is not empty, makes the text a word;
* otherwise the text is a literal, and it is read as the integer that it denotes.

`Denotes` says which integer that is by the places of the digits, each counting ten to the number
of digits behind it.  `read_accepts_grammar` is the whole of it, for every text.
-/

namespace ColonForth.Literal

/-- The number that digits stand for by their places: each digit counts ten to the number of
digits behind it. -/
def positionalValue : Text → Nat
  | [] => 0
  | c :: rest => digitValue c * 10 ^ rest.length + positionalValue rest

/-- The text is a literal and nothing else, and `n` is the integer that it stands for. -/
def Denotes (t : Text) (n : Int) : Prop :=
  ∃ sign digits : Text, (sign = [] ∨ sign = ['+'] ∨ sign = ['-']) ∧ digits ≠ [] ∧
    (∀ c ∈ digits, isDigit c = true) ∧ t = sign ++ digits ∧
    n = if sign = ['-'] then -(positionalValue digits : Int) else positionalValue digits

variable {t : Text} {n : Int}

/-! ## The value of digits -/

/-- Digits that follow others move these up by as many places as there are. -/
lemma foldl_digitValue (digits : Text) (front : Nat) :
    digits.foldl (fun n c => 10 * n + digitValue c) front =
      front * 10 ^ digits.length + positionalValue digits := by
  induction digits generalizing front with
  | nil => simp [positionalValue]
  | cons c rest ih =>
    rw [List.foldl_cons, ih, List.length_cons, positionalValue]
    ring

lemma valueOf_eq_positionalValue (digits : Text) : valueOf digits = positionalValue digits := by
  rw [valueOf, foldl_digitValue, Nat.zero_mul, Nat.zero_add]

lemma Denotes.isLiteral (h : Denotes t n) : IsLiteral t := by
  obtain ⟨sign, digits, hsign, hne, hdigits, ht, -⟩ := h
  exact ⟨sign, digits, hsign, hne, hdigits, ht⟩

lemma exists_denotes (h : IsLiteral t) : ∃ n, Denotes t n := by
  obtain ⟨sign, digits, hsign, hne, hdigits, ht⟩ := h
  exact ⟨_, sign, digits, hsign, hne, hdigits, ht, rfl⟩

/-! ## The digits at the front of a text -/

/-- Digits behind an optional sign are among those that are taken off. -/
lemma length_le_of_beginsWithDigits {k : Nat} (h : BeginsWithDigits k t) :
    k ≤ (digitsOf t).length := by
  obtain ⟨sign, digits, rest, hsign, hdigits, rfl, rfl⟩ := h
  by_cases hnil : digits = []
  · subst hnil
    exact Nat.zero_le _
  have hsplit : (splitSign (sign ++ digits ++ rest)).2 = digits ++ rest := by
    rcases hsign with rfl | rfl | rfl
    · obtain ⟨c, more, rfl⟩ := List.exists_cons_of_ne_nil hnil
      have hc : isDigit c = true := hdigits c List.mem_cons_self
      exact congrArg Prod.snd (splitSign_of_isDigit hc (more ++ rest))
    · rfl
    · rfl
  rw [digitsOf, hsplit, List.takeWhile_append_of_pos hdigits, List.length_append]
  exact Nat.le_add_right _ _

/-- **The digits that are taken off are the longest run of digits behind an optional sign.** -/
theorem isGreatest_length_digitsOf (t : Text) :
    IsGreatest {k | BeginsWithDigits k t} (digitsOf t).length :=
  ⟨beginsWithDigits_digitsOf t, fun _ h => length_le_of_beginsWithDigits h⟩

/-! ## The three ways in which reading ends -/

/-- Too many digits are refused, whatever follows them. -/
lemma read_of_lt (h : digitLimit < (digitsOf t).length) :
    read t = .error (.literalTooLong (digitsOf t).length) := by
  simp only [read, if_pos h]

/-- A literal of not too many digits is read as the integer that it denotes. -/
lemma read_of_denotes (h : Denotes t n) (hlength : (digitsOf t).length ≤ digitLimit) :
    read t = .ok (some n) := by
  obtain ⟨sign, digits, hsign, hne, hdigits, rfl, rfl⟩ := h
  have hbegins : BeginsWithDigits digits.length (sign ++ digits) :=
    ⟨sign, digits, [], hsign, hdigits, rfl, (List.append_nil _).symm⟩
  have hshort : ¬ digitLimit < digits.length :=
    Nat.not_lt.2 ((length_le_of_beginsWithDigits hbegins).trans hlength)
  rw [read_sign_append hsign hne hdigits, if_neg hshort, valueOf_eq_positionalValue]

/-- Any other text is taken for a word, unless it begins with too many digits. -/
lemma read_of_not_isLiteral (h : ¬ IsLiteral t) (hlength : (digitsOf t).length ≤ digitLimit) :
    read t = .ok none := by
  have hrest : (digitsOf t).isEmpty || !((splitSign t).2.dropWhile isDigit).isEmpty := by
    by_contra hcomplete
    rw [Bool.not_eq_true, Bool.or_eq_false_iff, List.isEmpty_eq_false_iff, Bool.not_eq_false',
      List.isEmpty_iff, List.dropWhile_eq_nil_iff] at hcomplete
    obtain ⟨hdigits, hall⟩ := hcomplete
    -- all that follows the optional sign would be digits then
    refine h (isLiteral_iff.2 ⟨fun hnil => hdigits ?_, hall⟩)
    rw [digitsOf, hnil, List.takeWhile_nil]
  simp only [read, if_neg (Nat.not_lt.2 hlength), if_pos hrest]

/-- **Reading accepts its grammar and nothing else.**  Let `d` be the length of the longest run of
digits behind an optional sign.  If `d` is more than 4300, the text is refused, whatever follows
the digits.  Otherwise it is read as an integer exactly if the whole of it is a literal, and then
as the integer that it denotes; every other text is taken for a word. -/
theorem read_accepts_grammar (t : Text) :
    ∃ d, IsGreatest {k | BeginsWithDigits k t} d ∧
      (4300 < d → read t = .error (.literalTooLong d)) ∧
      (d ≤ 4300 → (∀ n, read t = .ok (some n) ↔ Denotes t n) ∧
        (read t = .ok none ↔ ¬ IsLiteral t)) := by
  refine ⟨(digitsOf t).length, isGreatest_length_digitsOf t, read_of_lt, fun hlength => ?_⟩
  by_cases hliteral : IsLiteral t
  · obtain ⟨m, hm⟩ := exists_denotes hliteral
    have hread := read_of_denotes hm hlength
    refine ⟨fun n => ⟨fun h => ?_, fun hn => read_of_denotes hn hlength⟩, ?_⟩
    · rw [hread, Except.ok.injEq, Option.some.injEq] at h
      exact h ▸ hm
    · simp [hread, hliteral]
  · have hread := read_of_not_isLiteral hliteral hlength
    refine ⟨fun n => ⟨fun h => ?_, fun hn => absurd hn.isLiteral hliteral⟩, ?_⟩
    · rw [hread] at h
      exact absurd h (by simp)
    · simp [hread, hliteral]

/-- Zeros at the front and a negative zero are read; a sign alone, a line break behind the digits,
a digit of another script and an underscore make a word. -/
example : read ['-', '0', '0', '7'] = .ok (some (-7)) ∧ read ['-', '0'] = .ok (some 0) ∧
    read ['+'] = .ok none ∧ read ['1', '\n'] = .ok none ∧ read ['٣'] = .ok none ∧
    read ['1', '_', '0'] = .ok none := by decide

end ColonForth.Literal
