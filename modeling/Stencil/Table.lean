/-! # Tables — finite maps that keep the order of their keys

    A table holds each key once.  Putting a value under a held key replaces it
    in its place; a new key comes last.  Reading a table after a `put` gives the
    new value under its key and the old ones elsewhere. -/

namespace Stencil

/-- A finite map in the order in which its keys came. -/
structure Table (α β : Type) where
  entries : List (α × β)

namespace Table

variable {α β : Type} [BEq α]

/-- The table without entries. -/
def empty : Table α β := ⟨[]⟩

instance : Inhabited (Table α β) := ⟨⟨[]⟩⟩

/-- The value under a key. -/
def get? (table : Table α β) (key : α) : Option β :=
  table.entries.lookup key

/-- Entries with a value put under a key. -/
def putIn (key : α) (value : β) : List (α × β) → List (α × β)
  | [] => [(key, value)]
  | (k, v) :: entries =>
    if key == k then (k, value) :: entries else (k, v) :: putIn key value entries

/-- The table with a value put under a key. -/
def put (table : Table α β) (key : α) (value : β) : Table α β :=
  ⟨putIn key value table.entries⟩

/-- The number of entries. -/
def size (table : Table α β) : Nat :=
  table.entries.length

/-- The value under the key just put, and the others unchanged. -/
theorem get?_put [LawfulBEq α] (table : Table α β) (key other : α) (value : β) :
    (table.put key value).get? other =
      if other == key then some value else table.get? other := by
  obtain ⟨entries⟩ := table
  simp only [put, get?]
  induction entries with
  | nil => by_cases h : other == key <;> simp [putIn, List.lookup_cons, h]
  | cons entry entries ih =>
    obtain ⟨k, v⟩ := entry
    by_cases hk : key = k
    · subst hk
      by_cases ho : other == key <;> simp [putIn, List.lookup_cons, ho]
    · have hkb : (key == k) = false := by simpa using hk
      by_cases ho : other = k
      · subst ho
        have hne : (other == key) = false := by
          simpa using fun h : other = key => hk h.symm
        simp [putIn, hkb, hne]
      · have hne : (other == k) = false := by simpa using ho
        simp [putIn, List.lookup_cons, hkb, hne, ih]

end Table

end Stencil
