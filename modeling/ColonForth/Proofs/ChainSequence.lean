import ColonForth.Proofs.Chain

/-!
# Linked stacks as sequences

What can be asked of a linked stack is answered by the sequence of its items alone: how it was made
leaves no trace in it.  The operations trust the lengths that are noted in the cells and walk along
the cells all the same, so this needs the two to agree, which they do after any pushing and popping
(`Chain.Built.isSound`).

* `itemAt?`: the item of a sequence at a place, from either end.
* `Chain.sameItems`: the comparison of linked stacks, noted lengths first.
* `Chain.IsSound.ext`: a linked stack is determined by its items.
* `Chain.IsSound.get_eq`, `Chain.Built.pop_of_le_length`, `Chain.IsSound.sameItems_eq`: indexing,
  popping and comparing, as operations on sequences.
* `Chain.Implements`: a linked stack and a `Stack` answer alike.
* `Chain.Built.refines_sequence`: all of it together.
-/

namespace ColonForth

variable {α : Type}

/-! ## Places in a sequence -/

/-- The item of a sequence at a place, counted from the front from zero on, or from the back from
minus one down. -/
def itemAt? (items : List α) : Int → Option α
  | .ofNat n => items[n]?
  | .negSucc n => items.reverse[n]?

/-- There is an item at the places from minus the length on to below the length. -/
lemma itemAt?_eq_none_iff {items : List α} {i : Int} :
    itemAt? items i = none ↔ ¬ (-(items.length : Int) ≤ i ∧ i < items.length) := by
  cases i with
  | ofNat n =>
    simp only [itemAt?, List.getElem?_eq_none_iff, Int.ofNat_eq_natCast]
    omega
  | negSucc n =>
    simp only [itemAt?, List.getElem?_eq_none_iff, List.length_reverse, Int.negSucc_eq]
    omega

/-- A place that is counted from the back becomes one that is counted from the front if the length
is added to it. -/
lemma itemAt?_eq (items : List α) (i : Int) :
    itemAt? items i =
      let place := if i < 0 then i + items.length else i
      if place < 0 then none else items[place.toNat]? := by
  cases i with
  | ofNat n =>
    have hn : ¬ (n : Int) < 0 := by omega
    simp only [itemAt?, Int.ofNat_eq_natCast, if_neg hn, Int.toNat_natCast]
  | negSucc n =>
    have hneg : Int.negSucc n < 0 := Int.negSucc_lt_zero n
    simp only [itemAt?, if_pos hneg]
    by_cases hn : n < items.length
    · have hplace : Int.negSucc n + items.length = ((items.length - 1 - n : Nat) : Int) := by
        rw [Int.negSucc_eq]
        omega
      have hnonneg : ¬ ((items.length - 1 - n : Nat) : Int) < 0 := by omega
      rw [List.getElem?_reverse hn, hplace, if_neg hnonneg, Int.toNat_natCast]
    · have hplace : Int.negSucc n + items.length < 0 := by
        rw [Int.negSucc_eq]
        omega
      rw [if_pos hplace, List.getElem?_eq_none_iff, List.length_reverse]
      exact Nat.not_lt.1 hn

/-- Sequences of the same length are equal if they are equal item by item. -/
lemma all_zip_beq [BEq α] {items items' : List α} (h : items.length = items'.length) :
    (items.zip items').all (fun (a, b) => a == b) = (items == items') := by
  induction items generalizing items' with
  | nil =>
    obtain rfl := List.length_eq_zero_iff.1 h.symm
    rfl
  | cons a rest ih =>
    cases items' with
    | nil => exact absurd h (by simp)
    | cons b rest' =>
      rw [List.zip_cons_cons, List.all_cons, List.cons_beq_cons, ih (Nat.succ.inj h)]

/-- A sequence is equal to itself if each of its items is. -/
lemma beq_self_of_items [BEq α] {items : List α} (h : ∀ item ∈ items, (item == item) = true) :
    (items == items) = true := by
  induction items with
  | nil => rfl
  | cons a rest ih =>
    rw [List.forall_mem_cons] at h
    rw [List.cons_beq_cons, h.1, ih h.2, Bool.and_self]

/-- Sequences can be compared by their lengths first, and then item by item. -/
lemma beq_eq_ite_zip [BEq α] (items items' : List α) :
    (items == items') = if items.length = items'.length then
      (items.zip items').all (fun (a, b) => a == b) else false := by
  split
  · next h => exact (all_zip_beq h).symm
  · next h => exact Bool.eq_false_iff.2 fun hbeq => h (List.length_eq_of_beq hbeq)

namespace Stack

lemma get?_eq_itemAt? (s : Stack α) (i : Int) : s.get? i = itemAt? s.toList i := by
  rw [itemAt?_eq, ← s.depth_eq_length_toList]
  rfl

lemma pop?_toNat (s : Stack α) (n : Int) : s.pop? n.toNat = s.pop? n := by
  have hiff : (n.toNat : Int) ≤ s.depth ↔ n ≤ s.depth := by omega
  simp only [pop?, hiff, Int.toNat_natCast]

lemma sameItems_eq [BEq α] (s t : Stack α) : s.sameItems t = (s.toList == t.toList) := by
  rw [beq_eq_ite_zip, ← s.depth_eq_length_toList, ← t.depth_eq_length_toList]
  rfl

end Stack

namespace Chain

variable {c d : Chain α}

/-- Whether two chains hold equal items in the same order.  The noted lengths are compared first. -/
def sameItems [BEq α] (c d : Chain α) : Bool :=
  if c.len = d.len then (c.toList.zip d.toList).all (fun (a, b) => a == b) else false

/-! ## Operations on sequences -/

@[simp] lemma toList_pushAll (c : Chain α) (items : List α) :
    (c.pushAll items).toList = items.reverse ++ c.toList := by
  rw [← toList_toStack, toStack_pushAll, Stack.toList_pushAll, toList_toStack]

/-- **A linked stack is determined by its items**, if its noted lengths are right. -/
theorem IsSound.ext (hc : c.IsSound) (hd : d.IsSound) (h : c.toList = d.toList) : c = d := by
  induction c generalizing d with
  | nil =>
    cases d with
    | nil => rfl
    | cell item below length => exact absurd h (by simp [toList])
  | cell item below length ih =>
    cases d with
    | nil => exact absurd h (by simp [toList])
    | cell item' below' length' =>
      obtain ⟨rfl, hbelow⟩ := List.cons.inj h
      obtain rfl := ih hc.2 hd.2 hbelow
      rw [hc.1, hd.1]

/-- A walk past the last cell ends there. -/
lemma walk_of_length_le {n : Nat} (h : c.toList.length ≤ n) : c.walk n = .error .noSuchPlace := by
  induction c generalizing n with
  | nil => cases n <;> rfl
  | cell item below length ih =>
    cases n with
    | zero => exact absurd h (by simp [toList])
    | succ n => exact ih (Nat.le_of_succ_le_succ h)

/-- **Indexing is that of the sequence**, from either end. -/
theorem IsSound.get_eq (h : c.IsSound) (i : Int) :
    c.get i = (itemAt? c.toList i).elim (.error .noSuchPlace) .ok := by
  rw [itemAt?_eq, ← h.len_eq, get]
  simp only
  generalize (if i < 0 then i + (c.len : Int) else i) = place
  by_cases hplace : place < 0
  · rw [if_pos hplace, if_pos hplace, Option.elim_none]
  · rw [if_neg hplace, if_neg hplace]
    cases hitem : c.toList[place.toNat]? with
    | none => exact walk_of_length_le (List.getElem?_eq_none_iff.1 hitem)
    | some item => exact walk_of_getElem? hitem

lemma pop_toNat (c : Chain α) (n : Int) : c.pop n.toNat = c.pop n := by
  have hiff : (c.len : Int) < n.toNat ↔ (c.len : Int) < n := by omega
  simp only [pop, hiff, Int.toNat_natCast]

lemma pop_of_lt {n : Int} (h : (c.len : Int) < n) : c.pop n = .error .tooFewItems := if_pos h

/-- **Popping splits the sequence**, and the stack of the chain with it. -/
theorem Built.pop_of_le_length {n : Int} (h : Built c) (hn : n ≤ c.toList.length) :
    ∃ rest, Built rest ∧ c.pop n = .ok (c.toList.take n.toNat, rest) ∧
      rest.toList = c.toList.drop n.toNat ∧
      c.toStack.pop? n = some (c.toList.take n.toNat, rest.toStack) := by
  have hlen : n.toNat ≤ c.len := by
    rw [h.isSound.len_eq]
    omega
  obtain ⟨items, rest, hpop, hrest, -, hstack⟩ := h.pop_of_le hlen
  have hdetach : c.detach n.toNat = .ok (items, rest) := by
    rwa [pop_natCast, if_neg (Nat.not_lt.2 hlen)] at hpop
  obtain ⟨rfl, hdrop, -⟩ := detach_eq_ok hdetach
  rw [pop_toNat] at hpop
  rw [Stack.pop?_toNat] at hstack
  exact ⟨rest, hrest, hpop, hdrop, hstack⟩

/-- What was pushed is popped, and what was there before is left. -/
lemma Built.pop_pushAll (h : Built c) (items : List α) :
    (c.pushAll items).pop items.length = .ok (items.reverse, c) := by
  have hlength : (items.length : Int) ≤ (c.pushAll items).toList.length := by
    simp only [toList_pushAll, List.length_append, List.length_reverse]
    omega
  obtain ⟨rest, hrest, hpop, hdrop, -⟩ := (h.pushAll items).pop_of_le_length hlength
  rw [Int.toNat_natCast, toList_pushAll, ← List.length_reverse, List.drop_left] at hdrop
  rw [Int.toNat_natCast, toList_pushAll, ← List.length_reverse, List.take_left,
    List.length_reverse, hrest.isSound.ext h.isSound hdrop] at hpop
  exact hpop

/-- A linked stack is rebuilt from its items. -/
lemma Built.pushAll_reverse_toList (h : Built c) : Chain.nil.pushAll c.toList.reverse = c := by
  refine (Built.nil.pushAll _).isSound.ext h.isSound ?_
  rw [toList_pushAll, List.reverse_reverse, toList, List.append_nil]

/-- **Comparing is that of the sequences.** -/
theorem IsSound.sameItems_eq [BEq α] (hc : c.IsSound) (hd : d.IsSound) :
    c.sameItems d = (c.toList == d.toList) := by
  rw [beq_eq_ite_zip, ← hc.len_eq, ← hd.len_eq, sameItems]

/-! ## Linked stacks and stacks -/

/-- A linked stack implements a stack: the operations of both have the same answers. -/
structure Implements [BEq α] (c : Chain α) (s : Stack α) : Prop where
  /-- The noted length is the depth. -/
  len_eq : c.len = s.depth
  /-- The items are the same. -/
  toList_eq : c.toList = s.toList
  /-- After pushing, the items are the same. -/
  pushAll_eq : ∀ items, (c.pushAll items).toStack = s.pushAll items
  /-- Popping fails for both, or gives the same items and leaves the same. -/
  pop_eq : ∀ n, (c.pop n).toOption.map (fun (items, rest) => (items, rest.toStack)) = s.pop? n
  /-- Indexing fails for both, or gives the same item. -/
  get_eq : ∀ i, (c.get i).toOption = s.get? i
  /-- Comparing with a third has the same answer. -/
  sameItems_eq : ∀ d, Built d → c.sameItems d = s.sameItems d.toStack

lemma Built.implements [BEq α] (h : Built c) : c.Implements c.toStack where
  len_eq := h.len_eq_depth
  toList_eq := rfl
  pushAll_eq := toStack_pushAll c
  pop_eq n := by
    by_cases hn : n ≤ c.toList.length
    · obtain ⟨rest, -, hpop, -, hstack⟩ := h.pop_of_le_length hn
      rw [hpop, hstack]
      rfl
    · have hlen : (c.len : Int) < n := by
        rw [h.isSound.len_eq]
        omega
      have hstack : c.toStack.pop? n = none := if_neg (by rw [← h.len_eq_depth]; omega)
      rw [pop_of_lt hlen, hstack]
      rfl
  get_eq i := by
    rw [h.isSound.get_eq, Stack.get?_eq_itemAt?, toList_toStack]
    cases itemAt? c.toList i <;> rfl
  sameItems_eq d hd := by
    rw [h.isSound.sameItems_eq hd.isSound, Stack.sameItems_eq, toList_toStack, toList_toStack]

/-- Every stack is implemented. -/
lemma exists_built_toStack (s : Stack α) : ∃ c : Chain α, Built c ∧ c.toStack = s := by
  refine ⟨nil.pushAll s.toList.reverse, Built.nil.pushAll _, Stack.ext_toList ?_⟩
  rw [toList_toStack, toList_pushAll, List.reverse_reverse, toList, List.append_nil]

/-- **A linked stack is as good as the sequence of its items.**  However it was made by pushing and
popping: its noted length is right; pushing puts items in front, the last one first; popping fails
exactly if there are too few items, splits the sequence otherwise, and never comes to the end of a
chain that is noted to go on; indexing is that of the sequence, from either end; popping undoes
pushing; pushing its items one by one rebuilds it; linked stacks compare as their sequences do.  And
the stack with the same items gives the same answers.

Nothing is asked of the comparison of items, except where a linked stack is compared with itself
rebuilt: they compare as equal if each of its items compares as equal to itself. -/
theorem Built.refines_sequence [BEq α] (h : Built c) :
    c.len = c.toList.length ∧
    (∀ items, (c.pushAll items).toList = items.reverse ++ c.toList) ∧
    (∀ n : Int,
      (c.pop n = .error .tooFewItems ↔ (c.toList.length : Int) < n) ∧
      (n ≤ c.toList.length → ∃ rest, c.pop n = .ok (c.toList.take n.toNat, rest) ∧
        rest.toList = c.toList.drop n.toNat) ∧
      c.pop n ≠ .error .brokenChain) ∧
    (∀ i : Int,
      (c.get i = .error .noSuchPlace ↔
        ¬ (-(c.toList.length : Int) ≤ i ∧ i < c.toList.length)) ∧
      ∀ item, c.get i = .ok item ↔ itemAt? c.toList i = some item) ∧
    (∀ items, (c.pushAll items).pop items.length = .ok (items.reverse, c)) ∧
    Chain.nil.pushAll c.toList.reverse = c ∧
    ((∀ item ∈ c.toList, (item == item) = true) →
      (Chain.nil.pushAll c.toList.reverse).sameItems c = true) ∧
    (∀ d, Built d → (c.sameItems d = true ↔ (c.toList == d.toList) = true)) ∧
    c.Implements c.toStack := by
  have hlen := h.isSound.len_eq
  refine ⟨hlen, toList_pushAll c, ?_, ?_, h.pop_pushAll, h.pushAll_reverse_toList, ?_, ?_,
    h.implements⟩
  · intro n
    by_cases hn : n ≤ c.toList.length
    · obtain ⟨rest, -, hpop, hrest, -⟩ := h.pop_of_le_length hn
      rw [hpop]
      exact ⟨⟨by simp, by omega⟩, fun _ => ⟨rest, rfl, hrest⟩, by simp⟩
    · have hlt : (c.toList.length : Int) < n := by omega
      rw [pop_of_lt (hlen ▸ hlt)]
      exact ⟨⟨fun _ => hlt, fun _ => rfl⟩, fun hle => absurd hle hn, by simp⟩
  · intro i
    rw [h.isSound.get_eq, ← itemAt?_eq_none_iff]
    cases itemAt? c.toList i with
    | none => simp
    | some item => simp
  · intro hitems
    rw [h.pushAll_reverse_toList, h.isSound.sameItems_eq h.isSound]
    exact beq_self_of_items hitems
  · intro d hd
    rw [h.isSound.sameItems_eq hd.isSound]

/-- The linked stack that is left when 3 is popped from 3, 2 and 1. -/
def twoItems : Chain Int := .cell 2 (.cell 1 .nil 1) 2

/-- Of two items, two can be popped and three cannot; the places -2 and 1 are there, and -3 and 2
are not. -/
theorem refines_sequence_twoItems :
    Built twoItems ∧
    (∃ rest, twoItems.pop 2 = .ok ([2, 1], rest) ∧ rest.toList = []) ∧
    (∃ rest, twoItems.pop (-1) = .ok ([], rest) ∧ rest.toList = [2, 1]) ∧
    twoItems.pop 3 = .error .tooFewItems ∧
    twoItems.get (-2) = .ok 2 ∧ twoItems.get 1 = .ok 1 ∧
    twoItems.get (-3) = .error .noSuchPlace ∧ twoItems.get 2 = .error .noSuchPlace ∧
    (nil.pushAll twoItems.toList.reverse).sameItems twoItems = true ∧
    twoItems.sameItems (nil.pushAll [1, 2]) = true ∧
    ¬ twoItems.sameItems (nil.pushAll [1]) = true := by
  have hleft : (nil.pushAll [1, 2, 3]).pop 1 = .ok ([3], twoItems) := by decide
  have hbuilt : Built twoItems := (Built.nil.pushAll _).pop hleft
  obtain ⟨-, -, hpop, hget, -, -, hself, hsame, -⟩ := hbuilt.refines_sequence
  exact ⟨hbuilt, (hpop 2).2.1 (by decide), (hpop (-1)).2.1 (by decide), (hpop 3).1.2 (by decide),
    ((hget (-2)).2 2).2 rfl, ((hget 1).2 1).2 rfl, (hget (-3)).1.2 (by decide),
    (hget 2).1.2 (by decide), hself (by decide), (hsame _ (Built.nil.pushAll _)).2 rfl,
    fun h => absurd ((hsame _ (Built.nil.pushAll _)).1 h) (by decide)⟩

end Chain

end ColonForth
