import ColonForth.Proofs.StackEffects

/-!
# Linked stacks

The depth of a `Stack` is right by its type, and taking more items than there are gives nothing.
Beneath that lies a chain of cells, in which nothing is right by itself: each cell holds an item,
the chain below it, and a length that was noted when the cell was made.  Operations trust the noted
length, and where it is wrong, or where they are used without asking for it first, they break off
with a `Misuse`.

* `Built`: the chains that are made from the empty one by pushing and popping.
* `Built.isSound`: the lengths noted in such a chain are right.
* `Built.pop_of_le`, `Built.get_of_lt`: so its operations do what those of its stack do
  (`Chain.toStack`), and never break off where the noted length allows them.
-/

namespace ColonForth

/-- A use of an operation that its users have to rule out. -/
inductive Misuse where
  /-- More items are popped than are noted. -/
  | tooFewItems
  /-- A chain ends before its noted length is reached. -/
  | brokenChain
  /-- There is no item at the place that is asked for. -/
  | noSuchPlace
  /-- There are more items, or fewer, than names for them. -/
  | wrongCount
  /-- A word is looked up in a table that does not have it. -/
  | noSuchWord
deriving DecidableEq, Repr

/-- A chain of cells, top first. -/
inductive Chain (α : Type) where
  /-- The chain without cells. -/
  | nil
  /-- A cell on top of a chain, with the length that is noted for both together. -/
  | cell (item : α) (below : Chain α) (length : Nat)
deriving DecidableEq, Repr

namespace Chain

variable {α : Type}

/-- The noted length. -/
def len : Chain α → Nat
  | nil => 0
  | cell _ _ length => length

/-- The items, top first. -/
def toList : Chain α → List α
  | nil => []
  | cell item below _ => item :: below.toList

/-- The chain with one more item on top. -/
def push (c : Chain α) (item : α) : Chain α := cell item c (c.len + 1)

/-- The chain with several more items, put on one by one, so that the last is on top. -/
def pushAll (c : Chain α) (items : List α) : Chain α := items.foldl push c

/-- The topmost `n` items, top first, and the chain below them, cell by cell. -/
def detach : Nat → Chain α → Except Misuse (List α × Chain α)
  | 0, c => .ok ([], c)
  | _ + 1, nil => .error .brokenChain
  | n + 1, cell item below _ =>
    (detach n below).map fun (items, rest) => (item :: items, rest)

/-- The topmost `n` items, top first, and the chain below them.  The noted length is asked for
first.  A negative number counts as zero. -/
def pop (c : Chain α) (n : Int) : Except Misuse (List α × Chain α) :=
  if c.len < n then .error .tooFewItems else c.detach n.toNat

/-- The item below `n` others, cell by cell. -/
def walk : Nat → Chain α → Except Misuse α
  | _, nil => .error .noSuchPlace
  | 0, cell item _ _ => .ok item
  | n + 1, cell _ below _ => walk n below

/-- The item at a place, counted from the top from zero on, or from the bottom from minus one
down. -/
def get (c : Chain α) (i : Int) : Except Misuse α :=
  let place := if i < 0 then i + c.len else i
  if place < 0 then .error .noSuchPlace else c.walk place.toNat

/-- The stack with the same items. -/
def toStack (c : Chain α) : Stack α := Stack.ofList c.toList

/-- The chains that are made by pushing and popping. -/
inductive Built : Chain α → Prop
  /-- The chain without cells is there from the beginning. -/
  | nil : Built nil
  /-- An item is pushed. -/
  | push {c : Chain α} (h : Built c) (item : α) : Built (c.push item)
  /-- Items are popped. -/
  | pop {c rest : Chain α} {n : Int} {items : List α} (h : Built c)
      (hpop : c.pop n = .ok (items, rest)) : Built rest

/-- Every length that is noted in the chain is right. -/
def IsSound : Chain α → Prop
  | nil => True
  | cell _ below length => length = below.len + 1 ∧ below.IsSound

variable {c rest : Chain α} {item : α} {items : List α} {n : Nat}

/-! ## Noted lengths -/

lemma IsSound.len_eq (h : c.IsSound) : c.len = c.toList.length := by
  induction c with
  | nil => rfl
  | cell item below length ih =>
    rw [len, h.1, ih h.2, toList, List.length_cons]

lemma IsSound.push (h : c.IsSound) (item : α) : (c.push item).IsSound := ⟨rfl, h⟩

/-- What is detached are the topmost items, and what is left is part of the chain. -/
lemma detach_eq_ok (h : c.detach n = .ok (items, rest)) :
    items = c.toList.take n ∧ rest.toList = c.toList.drop n ∧ (c.IsSound → rest.IsSound) := by
  induction c generalizing n items with
  | nil =>
    cases n with
    | zero =>
      cases h
      exact ⟨rfl, rfl, id⟩
    | succ n => exact absurd h (by simp [detach])
  | cell item below length ih =>
    cases n with
    | zero =>
      cases h
      exact ⟨rfl, rfl, id⟩
    | succ n =>
      rw [detach] at h
      cases hbelow : below.detach n with
      | error e =>
        rw [hbelow] at h
        exact absurd h (by simp [Except.map])
      | ok result =>
        rw [hbelow] at h
        cases h
        obtain ⟨hitems, hrest, hsound⟩ := ih hbelow
        rw [hitems, hrest]
        exact ⟨rfl, rfl, fun h => hsound h.2⟩

/-- Cells are detached as far as there are any. -/
lemma exists_detach_of_le (h : n ≤ c.toList.length) : ∃ result, c.detach n = .ok result := by
  induction c generalizing n with
  | nil =>
    obtain rfl := Nat.le_zero.1 h
    exact ⟨_, rfl⟩
  | cell item below length ih =>
    cases n with
    | zero => exact ⟨_, rfl⟩
    | succ n =>
      obtain ⟨result, hresult⟩ := ih (Nat.le_of_succ_le_succ h)
      rw [detach, hresult]
      exact ⟨_, rfl⟩

lemma walk_of_getElem? (h : c.toList[n]? = some item) : c.walk n = .ok item := by
  induction c generalizing n with
  | nil => exact absurd h (by simp [toList])
  | cell top below length ih =>
    cases n with
    | zero => exact congrArg Except.ok (Option.some.inj h)
    | succ n => exact ih h

lemma pop_natCast (c : Chain α) (n : Nat) :
    c.pop n = if c.len < n then .error .tooFewItems else c.detach n := by
  simp [pop]

lemma get_natCast (c : Chain α) (n : Nat) : c.get n = c.walk n := by
  have hn : ¬ (n : Int) < 0 := by omega
  simp [get, hn]

/-- **The lengths noted in a chain that is made by pushing and popping are right.** -/
theorem Built.isSound (h : Built c) : c.IsSound := by
  induction h with
  | nil => trivial
  | push _ item ih => exact ih.push item
  | pop _ hpop ih =>
    unfold Chain.pop at hpop
    split at hpop
    · exact absurd hpop (by simp)
    · exact (detach_eq_ok hpop).2.2 ih

/-! ## Chains as stacks -/

@[simp] lemma toList_toStack (c : Chain α) : c.toStack.toList = c.toList := rfl

@[simp] lemma toStack_push (c : Chain α) (item : α) :
    (c.push item).toStack = c.toStack.push item :=
  Stack.ext_toList rfl

@[simp] lemma toStack_pushAll (c : Chain α) (items : List α) :
    (c.pushAll items).toStack = c.toStack.pushAll items := by
  induction items generalizing c with
  | nil => rfl
  | cons item rest ih =>
    rw [pushAll, List.foldl_cons, ← pushAll, ih, toStack_push, Stack.pushAll, Stack.pushAll,
      List.foldl_cons]

lemma Built.pushAll (h : Built c) (items : List α) : Built (c.pushAll items) := by
  induction items generalizing c with
  | nil => exact h
  | cons item rest ih => exact ih (h.push item)

lemma Built.len_eq_depth (h : Built c) : c.len = c.toStack.depth := h.isSound.len_eq

/-- **As many items are popped as are noted**, and they are those of the stack. -/
theorem Built.pop_of_le (h : Built c) (hn : n ≤ c.len) :
    ∃ items rest, c.pop n = .ok (items, rest) ∧ Built rest ∧ items.length = n ∧
      c.toStack.pop? n = some (items, rest.toStack) := by
  have hlength : n ≤ c.toList.length := h.isSound.len_eq ▸ hn
  obtain ⟨⟨items, rest⟩, hdetach⟩ := exists_detach_of_le hlength
  have hpop : c.pop n = .ok (items, rest) := by
    rw [pop_natCast, if_neg (Nat.not_lt.2 hn), hdetach]
  obtain ⟨rfl, hrest, -⟩ := detach_eq_ok hdetach
  have htake : (c.toList.take n).length = n := by
    rw [List.length_take, Nat.min_eq_left hlength]
  refine ⟨_, rest, hpop, h.pop hpop, htake, ?_⟩
  have hstack := Stack.pop?_append (c.toList.take n) (c.toList.drop n)
  rwa [List.take_append_drop, htake, ← hrest] at hstack

/-- **The item at a place above the noted length is there**, and it is that of the stack. -/
theorem Built.get_of_lt (h : Built c) (hn : n < c.len) :
    ∃ item, c.get n = .ok item ∧ c.toStack.get? n = some item := by
  have hlength : n < c.toList.length := h.isSound.len_eq ▸ hn
  refine ⟨c.toList[n], ?_, ?_⟩
  · rw [get_natCast, walk_of_getElem? (List.getElem?_eq_getElem hlength)]
  · rw [Stack.get?_natCast, toList_toStack, List.getElem?_eq_getElem hlength]

end Chain

end ColonForth
