/-!
# Tables

A table is an association list in which every key counts once.  `get?` is its view; `insert` and
`erase` are pinned down by what they do to it.
-/

namespace CrashDump

/-- What is filed under each key. -/
structure Table (K V : Type) where
  entries : List (K × V)
deriving Repr, DecidableEq

namespace Table

variable {K V : Type} [DecidableEq K]

/-- A table with nothing in it. -/
def empty : Table K V := ⟨[]⟩

/-- What is filed under a key. -/
def get? (table : Table K V) (key : K) : Option V :=
  (table.entries.find? (·.1 = key)).map (·.2)

/-- The keys, those filed last first. -/
def keys (table : Table K V) : List K := table.entries.map (·.1)

/-- Removes what is filed under a key. -/
def erase (table : Table K V) (key : K) : Table K V :=
  ⟨table.entries.filter (·.1 ≠ key)⟩

/-- Files a value under a key, in place of what was there. -/
def insert (table : Table K V) (key : K) (value : V) : Table K V :=
  ⟨(key, value) :: (table.erase key).entries⟩

/-- Keeps what is filed under the keys that pass a test. -/
def filterKeys (table : Table K V) (keep : K → Bool) : Table K V :=
  ⟨table.entries.filter fun entry => keep entry.1⟩

/-! ## What the operations do to the view -/

@[simp] theorem get?_empty (key : K) : (empty : Table K V).get? key = none := rfl

@[simp] theorem get?_insert_self (table : Table K V) (key : K) (value : V) :
    (table.insert key value).get? key = some value := by
  simp [insert, get?]

theorem get?_erase_self (table : Table K V) (key : K) : (table.erase key).get? key = none := by
  simp [erase, get?]

theorem find?_filter_ne {key other : K} (h : other ≠ key) (entries : List (K × V)) :
    (entries.filter (·.1 ≠ key)).find? (·.1 = other) = entries.find? (·.1 = other) := by
  induction entries with
  | nil => rfl
  | cons entry rest ih =>
    by_cases hkey : entry.1 = key
    · have hother : entry.1 ≠ other := hkey ▸ Ne.symm h
      rw [List.filter_cons_of_neg (by simpa using hkey),
        List.find?_cons_of_neg (by simpa using hother), ih]
    · rw [List.filter_cons_of_pos (by simpa using hkey), List.find?_cons, List.find?_cons, ih]

theorem get?_erase_of_ne (table : Table K V) {key other : K} (h : other ≠ key) :
    (table.erase key).get? other = table.get? other := by
  simp only [erase, get?, find?_filter_ne h]

theorem get?_insert_of_ne (table : Table K V) {key other : K} (value : V) (h : other ≠ key) :
    (table.insert key value).get? other = table.get? other := by
  rw [← get?_erase_of_ne table h]
  simp [insert, get?, Ne.symm h]

/-- Looking up after a removal. -/
@[simp] theorem get?_erase (table : Table K V) (key other : K) :
    (table.erase key).get? other = if other = key then none else table.get? other := by
  split
  · subst_vars
    exact get?_erase_self table _
  · exact get?_erase_of_ne table ‹_›

/-- Looking up after a filing. -/
theorem get?_insert (table : Table K V) (key other : K) (value : V) :
    (table.insert key value).get? other = if other = key then some value else table.get? other := by
  split
  · subst_vars
    exact get?_insert_self table _ value
  · exact get?_insert_of_ne table value ‹_›

/-! ## One operation after another -/

theorem erase_insert_self (table : Table K V) (key : K) (value : V) :
    (table.insert key value).erase key = table.erase key := by
  simp [insert, erase, List.filter_filter]

/-- What was filed first under a key does not matter once it is filed anew. -/
theorem insert_insert_self (table : Table K V) (key : K) (first second : V) :
    (table.insert key first).insert key second = table.insert key second := by
  rw [insert, erase_insert_self, insert]

theorem insert_erase_self (table : Table K V) (key : K) (value : V) :
    (table.erase key).insert key value = table.insert key value := by
  simp [insert, erase, List.filter_filter]

theorem mem_keys_iff {table : Table K V} {key : K} : key ∈ table.keys ↔ table.get? key ≠ none := by
  simp [keys, get?]

end Table

end CrashDump
