/-!
# Machine words

Sizes and indices live in 64-bit words.  A sum that does not fit, or an index outside its array,
stops the program with a panic instead of going on with a wrong number.
-/

namespace CrashDump

/-- Why a checked computation stopped. -/
inductive Panic where
  /-- A sum does not fit in a word. -/
  | additionOverflow
  /-- An index is not below the length of its array. -/
  | indexOutOfBounds (index length : Nat)
  /-- A range starts beyond its array. -/
  | rangeStartOutOfBounds (start length : Nat)
  /-- A range ends beyond its array. -/
  | rangeStopOutOfBounds (stop length : Nat)
deriving DecidableEq, Repr

/-- What a person is told. -/
def Panic.message : Panic → String
  | additionOverflow => "attempt to add with overflow"
  | indexOutOfBounds index length =>
    "index out of bounds: the len is " ++ toString length ++ " but the index is " ++ toString index
  | rangeStartOutOfBounds start length =>
    "range start index " ++ toString start ++ " out of range for slice of length " ++
      toString length
  | rangeStopOutOfBounds stop length =>
    "range end index " ++ toString stop ++ " out of range for slice of length " ++ toString length

namespace Word

/-- The first number that no word holds. -/
def limit : Nat := UInt64.size

/-- The sum of two words. -/
def add (a b : Nat) : Except Panic Nat :=
  if a + b < limit then .ok (a + b) else .error .additionOverflow

theorem add_eq_ok {a b : Nat} (h : a + b < limit) : add a b = .ok (a + b) := by
  simp [add, h]

theorem add_eq_error {a b : Nat} (h : limit ≤ a + b) : add a b = .error .additionOverflow := by
  simp [add, Nat.not_lt.mpr h]

end Word

end CrashDump
