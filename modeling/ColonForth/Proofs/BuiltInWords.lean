import ColonForth.Proofs.ChainSequence
import ColonForth.Proofs.FlatSession
import ColonForth.Proofs.GuardedMachine

/-!
# What the built-in words do

Each built-in word is described by the stack it leaves for the stack it finds, both top first.  All
of it follows from what a word leaves for the values that it takes (`Primitive.run_append`), except
for the quotient, which is described by its remainder.

* `IsCutQuotient`: a quotient that is cut toward zero, by its remainder.
* `isCutQuotient_iff`: for a divisor that is not zero there is exactly one.
* `signedQuotient`: the quotient of the magnitudes with the sign put right, which is that one.
* `Primitive.run_eq_stackUnderflow_iff`: when a word fails for want of values.
* `Primitive.meets_stack_effects`: the effects of all eight words, on stacks and on linked stacks.
-/

namespace ColonForth

/-! ## Quotients -/

/-- The quotient of `second` by `first`, cut toward zero: what remains is less than the divisor in
magnitude, and it is zero or has the sign of the dividend. -/
def IsCutQuotient (second first quotient : Int) : Prop :=
  ∃ remainder : Int, second = quotient * first + remainder ∧
    remainder.natAbs < first.natAbs ∧ (remainder = 0 ∨ remainder.sign = second.sign)

/-- The quotient of the magnitudes, negated if the signs differ. -/
def signedQuotient (second first : Int) : Int :=
  let quotient : Nat := second.natAbs / first.natAbs
  if second < 0 ↔ first < 0 then quotient else -quotient

variable {second first quotient : Int}

/-- **There is exactly one quotient that is cut toward zero**, if the divisor is not zero. -/
theorem isCutQuotient_iff (h : first ≠ 0) :
    IsCutQuotient second first quotient ↔ quotient = second.tdiv first := by
  constructor
  · rintro ⟨r, hsecond, hlt, hsign⟩
    have hsum : r + first * quotient = second := by rw [hsecond, Int.mul_comm, Int.add_comm]
    rcases Int.le_total 0 second with hnonneg | hnonpos
    · have hr : 0 ≤ r := by
        rcases hsign with rfl | hsign
        · exact Int.le_refl 0
        · rwa [← Int.sign_nonneg_iff, hsign, Int.sign_nonneg_iff]
      exact ((Int.tdiv_tmod_unique hnonneg h).2 ⟨hsum, hr, by omega⟩).1.symm
    · have hr : r ≤ 0 := by
        rcases hsign with rfl | hsign
        · exact Int.le_refl 0
        · rwa [← Int.sign_nonpos_iff, hsign, Int.sign_nonpos_iff]
      exact ((Int.tdiv_tmod_unique' hnonpos h).2 ⟨hsum, by omega, hr⟩).1.symm
  · rintro rfl
    refine ⟨second.tmod first, (Int.tdiv_mul_add_tmod second first).symm, ?_, ?_⟩
    · rw [Int.natAbs_tmod]
      exact Nat.mod_lt _ (Int.natAbs_pos.2 h)
    · by_cases hdvd : first ∣ second
      · exact Or.inl (Int.tmod_eq_zero_of_dvd hdvd)
      · exact Or.inr (by rw [Int.sign_tmod, if_neg hdvd])

/-- The sign is put right for all four combinations of signs, and for a dividend that is zero. -/
lemma signedQuotient_eq_tdiv (second first : Int) :
    signedQuotient second first = second.tdiv first := by
  unfold signedQuotient
  -- where the comparison misjudges a sign, an operand is zero, and so is the quotient
  obtain ⟨m, rfl | rfl⟩ := second.eq_nat_or_neg
  · obtain ⟨n, rfl | rfl⟩ := first.eq_nat_or_neg
    · have hsigns : (m : Int) < 0 ↔ (n : Int) < 0 := by omega
      rw [if_pos hsigns, Int.natAbs_natCast, Int.natAbs_natCast, Int.ofNat_tdiv]
    · rw [Int.tdiv_neg, ← Int.ofNat_tdiv, Int.natAbs_neg, Int.natAbs_natCast, Int.natAbs_natCast]
      split
      · next hsigns =>
        obtain rfl : n = 0 := by omega
        simp
      · rfl
  · obtain ⟨n, rfl | rfl⟩ := first.eq_nat_or_neg
    · rw [Int.neg_tdiv, ← Int.ofNat_tdiv, Int.natAbs_neg, Int.natAbs_natCast, Int.natAbs_natCast]
      split
      · next hsigns =>
        obtain rfl : m = 0 := by omega
        simp
      · rfl
    · rw [Int.neg_tdiv_neg, ← Int.ofNat_tdiv, Int.natAbs_neg, Int.natAbs_neg, Int.natAbs_natCast,
        Int.natAbs_natCast]
      split
      · rfl
      · next hsigns =>
        have hzero : m = 0 ∨ n = 0 := by omega
        rcases hzero with rfl | rfl
        · simp
        · simp

/-! ## Words -/

namespace Operator

/-- An arithmetic word is found under its name, and its operands are asked for first either way. -/
lemma runNamed_name (o : Operator) (s : Stack Int) : runNamed o.name s = (o.run s).map some := by
  unfold runNamed
  split
  · next h =>
    have hrun : o.run s = .error .stackUnderflow := Primitive.run_of_lt (p := .arithmetic o) h
    rw [hrun]
    rfl
  · have hname : ofName? o.name = some o := by cases o <;> rfl
    rw [hname]

end Operator

namespace Primitive

variable {p : Primitive} {s : Stack Int}

/-- **A built-in word fails for want of values exactly if there are fewer than it takes**: a divisor
is looked at only when both operands are there. -/
theorem run_eq_stackUnderflow_iff :
    p.run s = .error .stackUnderflow ↔ s.toList.length < p.takes := by
  rw [← s.depth_eq_length_toList]
  refine ⟨fun hrun => ?_, run_of_lt⟩
  by_contra hdepth
  obtain ⟨values, rest, hvalues, rfl⟩ := Stack.exists_split (Nat.not_lt.1 hdepth)
  rw [run_append hvalues] at hrun
  rcases effect_cases hvalues with ⟨top, htop, -⟩ | hzero
  · rw [htop] at hrun
    exact absurd hrun (by simp [Except.map])
  · rw [hzero] at hrun
    exact absurd hrun (by simp [Except.map])

lemma run_divide_zero (second : Int) (rest : List Int) :
    run (.arithmetic .divide) (.ofList (0 :: second :: rest)) = .error .divisionByZero :=
  @run_append (.arithmetic .divide) [0, second] rfl rest

lemma run_divide_of_ne (h : first ≠ 0) (second : Int) (rest : List Int) :
    run (.arithmetic .divide) (.ofList (first :: second :: rest)) =
      .ok (.ofList (signedQuotient second first :: rest)) := by
  have hrun := @run_append (.arithmetic .divide) [first, second] rfl rest
  rw [signedQuotient_eq_tdiv]
  rwa [effect, Operator.apply, if_neg h] at hrun

lemma run_divide_eq_divisionByZero_iff (first second : Int) (rest : List Int) :
    run (.arithmetic .divide) (.ofList (first :: second :: rest)) = .error .divisionByZero ↔
      first = 0 := by
  constructor
  · intro hrun
    by_contra hfirst
    rw [run_divide_of_ne hfirst] at hrun
    exact absurd hrun (by simp)
  · rintro rfl
    exact run_divide_zero second rest

/-- **The built-in words meet their stack effects on every stack.**  A word fails for want of values
exactly if there are fewer than it takes, whatever they are.  Otherwise it replaces the values that
it takes and leaves those below as they are; only a quotient by zero is refused, and any other is
the one quotient that is cut toward zero.  An arithmetic word is found under its name, and on the
linked stack with the same items a word that asks for their number first does the same. -/
theorem meets_stack_effects (s : Stack Int) :
    (∀ p : Primitive, p.run s = .error .stackUnderflow ↔ s.toList.length < p.takes) ∧
    (∀ a rest, s.toList = a :: rest →
      run (.shuffle .dup) s = .ok (.ofList (a :: a :: rest)) ∧
      run (.shuffle .drop) s = .ok (.ofList rest)) ∧
    (∀ first second rest, s.toList = first :: second :: rest →
      run (.shuffle .swap) s = .ok (.ofList (second :: first :: rest)) ∧
      run (.shuffle .over) s = .ok (.ofList (second :: first :: second :: rest)) ∧
      run (.arithmetic .add) s = .ok (.ofList ((second + first) :: rest)) ∧
      run (.arithmetic .subtract) s = .ok (.ofList ((second - first) :: rest)) ∧
      run (.arithmetic .multiply) s = .ok (.ofList ((second * first) :: rest)) ∧
      (run (.arithmetic .divide) s = .error .divisionByZero ↔ first = 0) ∧
      (first ≠ 0 →
        run (.arithmetic .divide) s = .ok (.ofList (signedQuotient second first :: rest)) ∧
        ∀ q, IsCutQuotient second first q ↔ q = signedQuotient second first)) ∧
    (∀ o : Operator, Operator.runNamed o.name s = (run (.arithmetic o) s).map some) ∧
    (∃ c : Chain Int, c.Shows s) ∧
    ∀ (c : Chain Int) (p : Primitive), c.Shows s →
      Follows Chain.Shows (applyPrimitive p p.name c) ((p.run s).mapError .word) := by
  refine ⟨fun p => run_eq_stackUnderflow_iff, ?_, ?_, fun o => o.runNamed_name s,
    Chain.exists_built_toStack s, ?_⟩
  · intro a rest hs
    obtain rfl : s = .ofList (a :: rest) := Stack.ext_toList hs
    exact ⟨@run_append (.shuffle .dup) [a] rfl rest, @run_append (.shuffle .drop) [a] rfl rest⟩
  · intro first second rest hs
    obtain rfl : s = .ofList (first :: second :: rest) := Stack.ext_toList hs
    have hrun (p : Primitive) (hp : p.takes = 2) := @run_append p [first, second] hp.symm rest
    refine ⟨hrun (.shuffle .swap) rfl, hrun (.shuffle .over) rfl, hrun (.arithmetic .add) rfl,
      hrun (.arithmetic .subtract) rfl, hrun (.arithmetic .multiply) rfl,
      run_divide_eq_divisionByZero_iff first second rest, ?_⟩
    intro hfirst
    refine ⟨run_divide_of_ne hfirst second rest, fun q => ?_⟩
    rw [signedQuotient_eq_tdiv]
    exact isCutQuotient_iff hfirst
  · rintro c p ⟨hbuilt, rfl⟩
    exact follows_applyPrimitive hbuilt (ofName?_eq_some_iff.2 rfl)

/-- On -2, 7 and 5 the quotient of 7 by -2 is -3, and 5 stays.  A zero that is alone is no divisor
yet; above another value it is. -/
theorem meets_stack_effects_sevenByMinusTwo :
    IsCutQuotient 7 (-2) (-3) ∧
    run (.arithmetic .divide) (.ofList [-2, 7, 5]) = .ok (.ofList [-3, 5]) ∧
    run (.shuffle .dup) (.ofList [-2, 7, 5]) = .ok (.ofList [-2, -2, 7, 5]) ∧
    Follows Chain.Shows (applyPrimitive (.arithmetic .divide) ['/'] (Chain.nil.pushAll [5, 7, -2]))
      (.ok (.ofList [-3, 5])) ∧
    run (.arithmetic .divide) (.ofList [0]) = .error .stackUnderflow ∧
    run (.arithmetic .divide) (.ofList [0, 7, 5]) = .error .divisionByZero := by
  have hquotient : IsCutQuotient 7 (-2) (-3) := ⟨1, by decide, by decide, Or.inr (by decide)⟩
  obtain ⟨-, hone, htwo, -, -, hlinked⟩ := meets_stack_effects (.ofList [-2, 7, 5])
  obtain ⟨-, -, -, -, -, -, hdivide⟩ := htwo (-2) 7 [5] rfl
  obtain ⟨hrun, hunique⟩ := hdivide (by decide)
  rw [← (hunique (-3)).1 hquotient] at hrun
  have hfollows := hlinked (Chain.nil.pushAll [5, 7, -2]) (.arithmetic .divide)
    ⟨Chain.Built.nil.pushAll _, rfl⟩
  rw [hrun] at hfollows
  obtain ⟨hshort, -⟩ := meets_stack_effects (.ofList [0])
  obtain ⟨-, -, hzero, -⟩ := meets_stack_effects (.ofList [0, 7, 5])
  obtain ⟨-, -, -, -, -, hdivisor, -⟩ := hzero 0 7 [5] rfl
  exact ⟨hquotient, hrun, (hone (-2) [7, 5] rfl).1, hfollows, (hshort _).2 (by decide),
    hdivisor.2 rfl⟩

end Primitive

end ColonForth
