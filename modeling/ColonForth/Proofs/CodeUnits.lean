import ColonForth.Text.Wide
import Mathlib.Data.List.Chain

/-!
# Code units

A character is one UTF-16 code unit or a pair of them.  A string in memory may hold the two halves
of a pair one after the other, and then its code units are those of the string in which the pair is
one character: a pair that is *split* cannot be told from its character by code units.

* `WideText.joined`: the string with every split pair joined to its character.
* `WideText.IsUnsplit`: no pair is split, so that there is nothing to join
  (`WideText.joined_eq_self_iff`).  Texts are such strings (`WideText.isUnsplit_wide`).
* `WideText.ofUnits_flatMap_units`: the code units of a string make up the string with its pairs
  joined.
-/

namespace ColonForth

namespace CodePoint

/-- The code units of a character or of half of a pair. -/
def units : CodePoint → List Nat
  | .char c =>
    if c.toNat < 0x10000 then [c.toNat]
    else [0xD800 + (c.toNat - 0x10000) / 0x400, 0xDC00 + (c.toNat - 0x10000) % 0x400]
  | .half h => [h.unit]

/-- What one code unit by itself stands for. -/
def ofUnit (u : Nat) : CodePoint :=
  if h : 0xD800 ≤ u ∧ u < 0xE000 then .half ⟨u, h.1, h.2⟩ else .char (Char.ofNat u)

/-- Whether two code units are the halves of a pair, in order. -/
def isPair (high low : Nat) : Bool :=
  0xD800 ≤ high && high < 0xDC00 && 0xDC00 ≤ low && low < 0xE000

/-- The character that a pair stands for. -/
def ofPair (high low : Nat) : Char :=
  Char.ofNat (0x10000 + 0x400 * (high - 0xD800) + (low - 0xDC00))

/-- The character that two neighbours in a string make up, if they are the halves of a pair. -/
def pair? : CodePoint → CodePoint → Option Char
  | .half high, .half low =>
    if isPair high.unit low.unit then some (ofPair high.unit low.unit) else none
  | _, _ => none

lemma isPair_eq_false_of_isValidChar {high low : Nat} (h : high.isValidChar) :
    isPair high low = false := by
  unfold Nat.isValidChar at h
  simp only [isPair, Bool.and_eq_false_iff, decide_eq_false_iff_not]
  omega

lemma toNat_ofPair {high low : Nat} (h : isPair high low = true) :
    (ofPair high low).toNat = 0x10000 + 0x400 * (high - 0xD800) + (low - 0xDC00) := by
  simp only [isPair, Bool.and_eq_true, decide_eq_true_eq] at h
  have hvalid : Nat.isValidChar (0x10000 + 0x400 * (high - 0xD800) + (low - 0xDC00)) := by
    unfold Nat.isValidChar
    omega
  rw [ofPair, Char.ofNat, dif_pos hvalid]
  rfl

/-- Only two halves make up a character. -/
lemma pair?_eq_some {p q : CodePoint} {c : Char} (h : pair? p q = some c) :
    ∃ high low : Half, p = .half high ∧ q = .half low ∧ isPair high.unit low.unit = true ∧
      c = ofPair high.unit low.unit := by
  unfold pair? at h
  split at h
  · next high low =>
    split at h
    · next hhalves => exact ⟨high, low, rfl, rfl, hhalves, (Option.some.inj h).symm⟩
    · exact absurd h (by simp)
  · exact absurd h (by simp)

/-- The code unit of a half stands for that half. -/
lemma ofUnit_unit (h : Half) : ofUnit h.unit = .half h := by
  rw [ofUnit, dif_pos ⟨h.first_le, h.lt_end⟩]

/-- The code unit of a character that has one stands for that character. -/
lemma ofUnit_toNat (c : Char) : ofUnit c.toNat = .char c := by
  have hvalid : c.toNat.isValidChar := c.valid
  have hno : ¬ (0xD800 ≤ c.toNat ∧ c.toNat < 0xE000) := by
    unfold Nat.isValidChar at hvalid
    omega
  rw [ofUnit, dif_neg hno, Char.ofNat_toNat]

/-- The two code units of a character beyond the others are a pair that stands for it. -/
lemma units_pair {c : Char} (h : ¬ c.toNat < 0x10000) :
    ∃ high low, units (.char c) = [high, low] ∧ isPair high low = true ∧ ofPair high low = c := by
  have hvalid : c.toNat.isValidChar := c.valid
  unfold Nat.isValidChar at hvalid
  have hcode : 0x10000 + 0x400 * (0xD800 + (c.toNat - 0x10000) / 0x400 - 0xD800) +
      (0xDC00 + (c.toNat - 0x10000) % 0x400 - 0xDC00) = c.toNat := by omega
  refine ⟨_, _, if_neg h, ?_, ?_⟩
  · simp only [isPair, Bool.and_eq_true, decide_eq_true_eq]
    omega
  · rw [ofPair, hcode, Char.ofNat_toNat]

/-- The first code unit of what does not complete a pair is no second half of it. -/
lemma isPair_eq_false_of_pair? {h : Half} {p : CodePoint} (hpair : pair? (.half h) p = none)
    {u : Nat} (hu : u ∈ p.units.head?) : isPair h.unit u = false := by
  cases p with
  | half low =>
    obtain rfl := Option.some.inj hu
    simpa [pair?] using hpair
  | char c =>
    have hvalid : c.toNat.isValidChar := c.valid
    unfold Nat.isValidChar at hvalid
    rw [units] at hu
    simp only [isPair, Bool.and_eq_false_iff, decide_eq_false_iff_not]
    split at hu
    · obtain rfl := Option.some.inj hu
      omega
    · obtain rfl := Option.some.inj hu
      omega

end CodePoint

namespace WideText

open CodePoint

/-- The string with the given code units: pairs stand for characters, and a half that is not part of
a pair stands by itself. -/
def ofUnits : List Nat → WideText
  | [] => []
  | [u] => [ofUnit u]
  | u :: low :: rest =>
    if isPair u low then .char (ofPair u low) :: ofUnits rest else ofUnit u :: ofUnits (low :: rest)

/-- The string with every pair that is split joined to its character. -/
def joined : WideText → WideText
  | [] => []
  | [p] => [p]
  | p :: q :: rest =>
    match pair? p q with
    | some c => .char c :: joined rest
    | none => p :: joined (q :: rest)

/-- No pair is split: no two neighbours are the halves of a pair. -/
def IsUnsplit (t : WideText) : Prop := t.IsChain fun p q => pair? p q = none

instance (t : WideText) : Decidable t.IsUnsplit := inferInstanceAs (Decidable (List.IsChain _ t))

/-- **There is nothing to join exactly if no pair is split.** -/
theorem joined_eq_self_iff (t : WideText) : t.joined = t ↔ t.IsUnsplit := by
  fun_induction joined t with
  | case1 => exact ⟨fun _ => .nil, fun _ => rfl⟩
  | case2 p => exact ⟨fun _ => .singleton p, fun _ => rfl⟩
  | case3 p q rest c hpair ih =>
    -- halves are no characters, so a pair that is joined is lost
    constructor
    · intro h
      obtain ⟨high, low, rfl, -⟩ := pair?_eq_some hpair
      exact absurd (List.cons.inj h).1 (by simp)
    · intro h
      exact absurd ((List.isChain_cons_cons.1 h).1.symm.trans hpair) (by simp)
  | case4 p q rest hpair ih =>
    rw [IsUnsplit, List.isChain_cons_cons, List.cons.injEq, ih]
    exact ⟨fun h => ⟨hpair, h.2⟩, fun h => ⟨rfl, h.2⟩⟩

/-- A text has no halves, so none of its pairs is split. -/
lemma isUnsplit_wide (t : Text) : t.wide.IsUnsplit := by
  refine (List.isChain_map CodePoint.char).2 ?_
  exact List.Pairwise.isChain (List.pairwise_of_forall fun _ _ => rfl)

@[simp] lemma joined_wide (t : Text) : t.wide.joined = t.wide :=
  (joined_eq_self_iff _).2 (isUnsplit_wide t)

/-! ## Code units and strings -/

lemma ofUnits_char_append (c : Char) (us : List Nat) :
    ofUnits ((CodePoint.char c).units ++ us) = .char c :: ofUnits us := by
  by_cases hsmall : c.toNat < 0x10000
  · rw [units, if_pos hsmall, List.singleton_append]
    cases us with
    | nil => exact congrArg (· :: []) (ofUnit_toNat c)
    | cons low rest =>
      have hvalid : c.toNat.isValidChar := c.valid
      rw [ofUnits, isPair_eq_false_of_isValidChar hvalid, if_neg Bool.false_ne_true, ofUnit_toNat]
  · obtain ⟨high, low, hunits, hpair, rfl⟩ := units_pair hsmall
    rw [hunits, List.cons_append, List.singleton_append, ofUnits, if_pos hpair]

lemma ofUnits_half_cons {h : Half} {us : List Nat}
    (hus : ∀ u ∈ us.head?, isPair h.unit u = false) :
    ofUnits (h.unit :: us) = .half h :: ofUnits us := by
  cases us with
  | nil => exact congrArg (· :: []) (ofUnit_unit h)
  | cons low rest =>
    rw [ofUnits, hus low rfl, if_neg Bool.false_ne_true, ofUnit_unit]

lemma units_ne_nil (p : CodePoint) : p.units ≠ [] := by
  cases p with
  | half h => exact List.cons_ne_nil _ _
  | char c =>
    rw [units]
    split
    · exact List.cons_ne_nil _ _
    · exact List.cons_ne_nil _ _

/-- **The code units of a string make up the string with its pairs joined.** -/
theorem ofUnits_flatMap_units (t : WideText) : ofUnits (t.flatMap units) = t.joined := by
  fun_induction joined t with
  | case1 => rfl
  | case2 p =>
    rw [List.flatMap_cons, List.flatMap_nil]
    cases p with
    | char c => exact ofUnits_char_append c []
    | half h => exact @ofUnits_half_cons h [] (by simp)
  | case3 p q rest c hpair ih =>
    obtain ⟨high, low, rfl, rfl, hhalves, hc⟩ := pair?_eq_some hpair
    rw [List.flatMap_cons, List.flatMap_cons, units, units, List.singleton_append,
      List.singleton_append, ofUnits, if_pos hhalves, ih, hc]
  | case4 p q rest hpair ih =>
    rw [List.flatMap_cons]
    cases p with
    | char c => rw [ofUnits_char_append, ih]
    | half h =>
      rw [units, List.singleton_append, ofUnits_half_cons, ih]
      rw [List.flatMap_cons, List.head?_append_of_ne_nil _ (units_ne_nil q)]
      exact fun u hu => isPair_eq_false_of_pair? hpair hu

end WideText

end ColonForth
