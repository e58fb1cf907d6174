import CrashDump.CodeUnit

/-!
# Ids of dumps

Every dump gets a version 4 UUID as its name, written in lower-case hexadecimal digits with
hyphens.  An id source hands them out one by one; that they differ is up to the source.
-/

namespace CrashDump

/-- A UUID, as its 32 hexadecimal digits. -/
structure Uuid where
  digits : Vector (Fin 16) 32
deriving DecidableEq, Repr

namespace Uuid

/-- A UUID of version 4 and of the variant that goes with it. -/
def IsVersion4 (id : Uuid) : Prop := id.digits[12] = 4 ∧ 8 ≤ id.digits[16] ∧ id.digits[16] < 12

instance (id : Uuid) : Decidable id.IsVersion4 := inferInstanceAs (Decidable (_ ∧ _))

/-- The UUID of version 4 with the given digits at the free places. -/
def version4 (random : Vector (Fin 16) 32) : Uuid where
  digits := (random.set 12 4).set 16 (Fin.ofNat 16 (8 + random[16].val % 4))

/-- The 32 lowest hexadecimal digits of a number, the lowest one last. -/
def lowDigits (n : Nat) : Vector (Fin 16) 32 :=
  Vector.ofFn fun i => Fin.ofNat 16 (n / Nat.pow 16 (31 - i.val))

/-- A digit in ASCII, letters in lower case. -/
def digitByte (digit : Fin 16) : UInt8 :=
  if digit < 10 then (0x30 + digit.val).toUInt8 else (0x57 + digit.val).toUInt8

/-- The byte between two groups of digits. -/
def hyphen : UInt8 := 0x2D

/-- The digits in groups of 8, 4, 4, 4 and 12, with hyphens between. -/
def hyphenated (id : Uuid) : List UInt8 :=
  let bytes := id.digits.toList.map digitByte
  bytes.take 8 ++ hyphen :: ((bytes.drop 8).take 4 ++ hyphen :: ((bytes.drop 12).take 4 ++
    hyphen :: ((bytes.drop 16).take 4 ++ hyphen :: bytes.drop 20)))

@[simp] theorem length_hyphenated (id : Uuid) : id.hyphenated.length = 36 := by
  simp [hyphenated]

/-- The text of the id in units. -/
def units {U : Type} [CodeUnit U] (id : Uuid) : List U :=
  id.hyphenated.map CodeUnit.ofByte

@[simp] theorem length_units {U : Type} [CodeUnit U] (id : Uuid) :
    (id.units : List U).length = 36 := by
  simp [units]

theorem isVersion4_version4 (random : Vector (Fin 16) 32) : (version4 random).IsVersion4 := by
  have h : random[16].val % 4 < 4 := Nat.mod_lt _ (by decide)
  refine ⟨by simp [version4], ?_, ?_⟩
  · simp [version4]
    omega
  · simp [version4, Fin.lt_def]
    omega

end Uuid

/-- A supply of ids. -/
structure IdSource where
  /-- The id drawn at each turn. -/
  id : Nat → Uuid
  /-- How many ids were drawn. -/
  drawn : Nat

namespace IdSource

/-- The next id. -/
def next (source : IdSource) : Uuid := source.id source.drawn

/-- The source after one more draw. -/
def advance (source : IdSource) : IdSource := { source with drawn := source.drawn + 1 }

/-- Numbers the ids from a seed on, in the digits that version 4 leaves free. -/
def fromSeed (seed : Nat) : IdSource where
  id n := Uuid.version4 (Uuid.lowDigits (seed + n))
  drawn := 0

end IdSource

end CrashDump
