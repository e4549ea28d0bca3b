import ColonForth.Number.Decimal

/-!
# Stacks

An immutable stack whose depth is kept beside its items, so that asking for it costs nothing.
The view of a stack is the list of its items, top first; every operation below is described by
what it does to that list.
-/

namespace ColonForth

/-- A stack of values of one type. -/
structure Stack (α : Type) where
  /-- The items, top first. -/
  items : List α
  /-- The number of items. -/
  depth : Nat
  /-- The depth is the number of items. -/
  depth_eq : depth = items.length
deriving DecidableEq, Repr

namespace Stack

variable {α : Type}

/-- The stack without items. -/
def empty : Stack α := ⟨[], 0, rfl⟩

instance : Inhabited (Stack α) := ⟨empty⟩

/-- The items, top first. -/
def toList (s : Stack α) : List α := s.items

/-- The stack with the given items, top first. -/
def ofList (items : List α) : Stack α := ⟨items, items.length, rfl⟩

/-- The stack with one more item on top. -/
def push (s : Stack α) (a : α) : Stack α :=
  ⟨a :: s.items, s.depth + 1, by simp [s.depth_eq]⟩

/-- The stack with several more items, put on one by one, so that the last is on top. -/
def pushAll (s : Stack α) (items : List α) : Stack α := items.foldl push s

/-- The topmost `n` items, top first, and the stack below them; nothing when there are fewer.
A negative number counts as zero. -/
def pop? (s : Stack α) (n : Int) : Option (List α × Stack α) :=
  if n ≤ s.depth then
    some (s.items.take n.toNat,
      ⟨s.items.drop n.toNat, s.depth - n.toNat, by simp [s.depth_eq]⟩)
  else none

/-- The item at a place, counted from the top from zero on, or from the bottom from minus one
down. -/
def get? (s : Stack α) (i : Int) : Option α :=
  let place := if i < 0 then i + s.depth else i
  if place < 0 then none else s.items[place.toNat]?

/-- Whether two stacks hold equal items in the same order. -/
def sameItems [BEq α] (s t : Stack α) : Bool :=
  if s.depth = t.depth then (s.items.zip t.items).all (fun (a, b) => a == b) else false

/-- Whether the stack has an item. -/
def isNonempty (s : Stack α) : Bool := 0 < s.depth

@[simp] theorem toList_empty : (empty : Stack α).toList = [] := rfl

@[simp] theorem toList_ofList (items : List α) : (ofList items).toList = items := rfl

@[simp] theorem toList_push (s : Stack α) (a : α) : (s.push a).toList = a :: s.toList := rfl

theorem depth_eq_length_toList (s : Stack α) : s.depth = s.toList.length := s.depth_eq

@[simp] theorem toList_pushAll (s : Stack α) (items : List α) :
    (s.pushAll items).toList = items.reverse ++ s.toList := by
  induction items generalizing s with
  | nil => rfl
  | cons a rest ih => simpa [pushAll] using ih (s.push a)

/-- Two stacks with the same items are the same stack. -/
theorem ext_toList {s t : Stack α} (h : s.toList = t.toList) : s = t := by
  obtain ⟨items, depth, hs⟩ := s
  obtain ⟨items', depth', ht⟩ := t
  simp only [toList] at h
  subst h
  subst hs
  subst ht
  rfl

/-! ## Stacks of integers as text -/

/-- The items in decimal, top first, between brackets. -/
def listing (s : Stack Int) : Except LimitError Text :=
  (Decimal.writeAll s.items).map fun texts =>
    '[' :: (Text.join [',', ' '] texts ++ [']'])

/-- An expression that builds the stack from the empty one, items bottom first. -/
def construction (s : Stack Int) : Except LimitError Text :=
  (listing (ofList s.items.reverse)).map fun text =>
    "empty_list.push(*".toList ++ text ++ [')']

/-- The items in decimal, bottom first, with one space between neighbours. -/
def format (s : Stack Int) : Except LimitError Text :=
  (Decimal.writeAll s.items.reverse).map Text.spaced

end Stack

end ColonForth
