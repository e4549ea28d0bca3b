import ColonForth.Text.Basic

/-!
# Dictionaries

The table of definitions: it holds at most one body for each name, and the body entered last is
the one that counts.  A table keeps the order in which its names were entered, so two tables may
have the same body for every name and not be equal; evaluation only ever looks names up.
-/

namespace ColonForth

/-- A finite table from names to bodies. -/
structure Dictionary where
  /-- The names with their bodies. -/
  entries : List (Text × Text)
  /-- No name has two bodies. -/
  nodup : (entries.map Prod.fst).Nodup
deriving DecidableEq

namespace Dictionary

/-- The table without entries. -/
def empty : Dictionary := ⟨[], List.nodup_nil⟩

instance : Inhabited Dictionary := ⟨empty⟩

/-- The body entered under a name. -/
def lookup (d : Dictionary) (name : Text) : Option Text :=
  (d.entries.find? (fun entry => entry.1 == name)).map Prod.snd

/-- The table in which a name has the given body and every other name what it had. -/
def insert (d : Dictionary) (name body : Text) : Dictionary :=
  ⟨(name, body) :: d.entries.filter (fun entry => entry.1 != name), by
    refine List.nodup_cons.mpr ⟨?_, ?_⟩
    · simp
    · exact d.nodup.sublist (List.Sublist.map _ List.filter_sublist)⟩

/-- The table of a list of entries, a later one taking the place of an earlier one. -/
def ofList (entries : List (Text × Text)) : Dictionary :=
  entries.foldl (fun d entry => d.insert entry.1 entry.2) empty

/-- The number of names that have a body. -/
def size (d : Dictionary) : Nat := d.entries.length

/-- The entries in the order of their names. -/
def sorted (d : Dictionary) : List (Text × Text) :=
  d.entries.mergeSort (fun a b => Text.atMost a.1 b.1)

@[simp] theorem lookup_empty (name : Text) : empty.lookup name = none := rfl

@[simp] theorem lookup_insert_self (d : Dictionary) (name body : Text) :
    (d.insert name body).lookup name = some body := by
  simp [lookup, insert]

theorem lookup_insert_of_ne (d : Dictionary) {name other : Text} (body : Text)
    (h : other ≠ name) : (d.insert name body).lookup other = d.lookup other := by
  have hne : (name == other) = false := by simpa using fun e => h e.symm
  simp only [lookup, insert, List.find?_cons, hne, List.find?_filter]
  congr 2
  funext entry
  by_cases he : entry.1 = other
  · subst he
    simp [h]
  · simp [he]

end Dictionary

end ColonForth
