import ColonForth.Word.Primitive
import Mathlib.Data.List.Basic
import Mathlib.Tactic.Common

/-!
# Stack effects

Every built-in word takes a fixed number of values from the top of the stack and leaves a fixed
number of values in their place.  What it leaves depends on the values it takes and on nothing
else, and what lies below them stays where it is (`Primitive.run_append`).  It fails if there are
too few values (`Primitive.run_of_lt`), or if a divisor is zero (`Primitive.effect_cases`), and for
no other reason (`Primitive.run_error`).
-/

namespace ColonForth

namespace Stack

variable {α : Type}

/-- A stack that is deep enough has the given number of items on top of others. -/
lemma exists_split {s : Stack α} {n : Nat} (h : n ≤ s.depth) :
    ∃ values rest, values.length = n ∧ s = ofList (values ++ rest) := by
  refine ⟨s.toList.take n, s.toList.drop n, ?_, ext_toList ?_⟩
  · rw [List.length_take, ← s.depth_eq_length_toList, Nat.min_eq_left h]
  · rw [toList_ofList, List.take_append_drop]

lemma pop?_append (values rest : List α) :
    (ofList (values ++ rest)).pop? values.length = some (values, ofList rest) := by
  have hdepth : (values.length : Int) ≤ (ofList (values ++ rest)).depth := by
    rw [depth_eq_length_toList, toList_ofList, List.length_append]
    omega
  rw [pop?, if_pos hdepth]
  refine congrArg some (Prod.ext ?_ (ext_toList ?_))
  · show (values ++ rest).take values.length = values
    rw [List.take_left]
  · show (values ++ rest).drop values.length = rest
    rw [List.drop_left]

lemma pop?_of_lt {s : Stack α} {n : Nat} (h : s.depth < n) : s.pop? n = none := by
  rw [pop?, if_neg (by omega)]

lemma get?_natCast (s : Stack α) (n : Nat) : s.get? n = s.toList[n]? := by
  have hn : ¬ (n : Int) < 0 := by omega
  simp only [get?, if_neg hn, Int.toNat_natCast]
  rfl

lemma get?_of_le {s : Stack α} {n : Nat} (h : s.depth ≤ n) : s.get? n = none := by
  rw [get?_natCast, List.getElem?_eq_none (s.depth_eq_length_toList ▸ h)]

end Stack

namespace Primitive

/-- The number of values that a built-in word takes. -/
def takes : Primitive → Nat
  | .arithmetic _ => 2
  | .shuffle .dup => 1
  | .shuffle .drop => 1
  | .shuffle .swap => 2
  | .shuffle .over => 2

/-- The number of values that a built-in word leaves. -/
def leaves : Primitive → Nat
  | .arithmetic _ => 1
  | .shuffle .dup => 2
  | .shuffle .drop => 0
  | .shuffle .swap => 2
  | .shuffle .over => 3

/-- What a built-in word leaves for the values that it takes, both top first. -/
def effect : Primitive → List Int → Except WordError (List Int)
  | .arithmetic o, [first, second] => (o.apply second first).map fun n => [n]
  | .shuffle .dup, [x] => .ok [x, x]
  | .shuffle .drop, [_] => .ok []
  | .shuffle .swap, [y, x] => .ok [x, y]
  | .shuffle .over, [y, x] => .ok [x, y, x]
  | _, _ => .error .stackUnderflow

variable {p : Primitive} {s : Stack Int} {values : List Int}

/-- Values as many as the word takes are enough, and it leaves as many as it says, unless a divisor
is zero. -/
lemma effect_cases (h : values.length = p.takes) :
    (∃ top, p.effect values = .ok top ∧ top.length = p.leaves) ∨
      p.effect values = .error .divisionByZero := by
  cases p with
  | arithmetic o =>
    obtain ⟨first, second, rfl⟩ := List.length_eq_two.1 h
    cases o with
    | divide =>
      by_cases hfirst : first = 0
      · exact Or.inr (by simp [effect, Operator.apply, hfirst, Except.map])
      · refine Or.inl ⟨[second.tdiv first], ?_, rfl⟩
        simp [effect, Operator.apply, hfirst, Except.map]
    | add => exact Or.inl ⟨_, rfl, rfl⟩
    | subtract => exact Or.inl ⟨_, rfl, rfl⟩
    | multiply => exact Or.inl ⟨_, rfl, rfl⟩
  | shuffle w =>
    cases w with
    | dup =>
      obtain ⟨x, rfl⟩ := List.length_eq_one_iff.1 h
      exact Or.inl ⟨_, rfl, rfl⟩
    | drop =>
      obtain ⟨x, rfl⟩ := List.length_eq_one_iff.1 h
      exact Or.inl ⟨_, rfl, rfl⟩
    | swap =>
      obtain ⟨y, x, rfl⟩ := List.length_eq_two.1 h
      exact Or.inl ⟨_, rfl, rfl⟩
    | «over» =>
      obtain ⟨y, x, rfl⟩ := List.length_eq_two.1 h
      exact Or.inl ⟨_, rfl, rfl⟩

/-- A built-in word fails if there are fewer values than it takes. -/
theorem run_of_lt (h : s.depth < p.takes) : p.run s = .error .stackUnderflow := by
  cases p with
  | arithmetic o => rw [run, Operator.run, show s.pop? 2 = none from Stack.pop?_of_lt h]
  | shuffle w =>
    cases w with
    | dup =>
      have hget : s.get? 0 = none := Stack.get?_of_le (Nat.le_of_lt_succ h)
      rw [run, Shuffle.run, hget]
    | drop => rw [run, Shuffle.run, show s.pop? 1 = none from Stack.pop?_of_lt h]
    | swap => rw [run, Shuffle.run, show s.pop? 2 = none from Stack.pop?_of_lt h]
    | «over» =>
      have hget : s.get? 1 = none := Stack.get?_of_le (Nat.le_of_lt_succ h)
      rw [run, Shuffle.run, hget]

/-- **A built-in word acts on the values that it takes**, and puts what it leaves on top of the
others. -/
theorem run_append (h : values.length = p.takes) (rest : List Int) :
    p.run (Stack.ofList (values ++ rest)) =
      (p.effect values).map fun top => Stack.ofList (top ++ rest) := by
  have hpop := h ▸ Stack.pop?_append values rest
  have hget := Stack.get?_natCast (Stack.ofList (values ++ rest))
  cases p with
  | arithmetic o =>
    obtain ⟨first, second, rfl⟩ := List.length_eq_two.1 h
    rw [run, Operator.run, show Stack.pop? _ 2 = _ from hpop]
    cases happly : o.apply second first with
    | error e => simp [effect, happly, Except.map]
    | ok n =>
      simp only [effect, happly, Except.map]
      exact congrArg Except.ok (Stack.ext_toList rfl)
  | shuffle w =>
    cases w with
    | dup =>
      obtain ⟨x, rfl⟩ := List.length_eq_one_iff.1 h
      rw [run, Shuffle.run, show Stack.get? _ 0 = some x from hget 0]
      exact congrArg Except.ok (Stack.ext_toList rfl)
    | drop =>
      obtain ⟨x, rfl⟩ := List.length_eq_one_iff.1 h
      rw [run, Shuffle.run, show Stack.pop? _ 1 = _ from hpop]
      rfl
    | swap =>
      obtain ⟨y, x, rfl⟩ := List.length_eq_two.1 h
      rw [run, Shuffle.run, show Stack.pop? _ 2 = _ from hpop]
      exact congrArg Except.ok (Stack.ext_toList rfl)
    | «over» =>
      obtain ⟨y, x, rfl⟩ := List.length_eq_two.1 h
      rw [run, Shuffle.run, show Stack.get? _ 1 = some x from hget 1]
      exact congrArg Except.ok (Stack.ext_toList rfl)

/-- A built-in word fails for want of values, or for a divisor that is zero. -/
lemma run_error {e : WordError} (h : p.run s = .error e) :
    e = .stackUnderflow ∨ e = .divisionByZero := by
  by_cases hdepth : s.depth < p.takes
  · rw [run_of_lt hdepth] at h
    exact Or.inl (Except.error.inj h).symm
  · obtain ⟨values, rest, hvalues, rfl⟩ := Stack.exists_split (Nat.not_lt.1 hdepth)
    rw [run_append hvalues] at h
    rcases effect_cases hvalues with ⟨top, htop, -⟩ | hzero
    · rw [htop] at h
      exact absurd h (by simp [Except.map])
    · rw [hzero] at h
      exact Or.inr (Except.error.inj h).symm

end Primitive

end ColonForth
