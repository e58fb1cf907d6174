/-!
# Code units of a path

A path crosses into a crash handler as a sequence of code units: bytes, or the 16-bit units of
UTF-16.  `CodeUnit` says what the rest of the library needs of a unit: the zero that terminates a
path, the widening of an ASCII byte, and the number it stands for.
-/

namespace CrashDump

/-- A unit of an encoded path. -/
class CodeUnit (U : Type) where
  /-- The width of a unit. -/
  bits : Nat
  /-- The unit that ends a path handed to the operating system. -/
  zero : U
  /-- Widens a byte to a unit of the same number. -/
  ofByte : UInt8 → U
  /-- The number a unit stands for. -/
  toNat : U → Nat
  toNat_zero : toNat zero = 0
  toNat_ofByte : ∀ b : UInt8, toNat (ofByte b) = b.toNat
  toNat_lt : ∀ u : U, toNat u < Nat.pow 2 bits
  toNat_injective : ∀ u v : U, toNat u = toNat v → u = v

instance : CodeUnit UInt8 where
  bits := 8
  zero := 0
  ofByte b := b
  toNat := UInt8.toNat
  toNat_zero := rfl
  toNat_ofByte _ := rfl
  toNat_lt u := u.toNat_lt
  toNat_injective _ _ h := UInt8.toNat_inj.mp h

instance : CodeUnit UInt16 where
  bits := 16
  zero := 0
  ofByte := UInt8.toUInt16
  toNat := UInt16.toNat
  toNat_zero := rfl
  toNat_ofByte b := UInt8.toNat_toUInt16 b
  toNat_lt u := u.toNat_lt
  toNat_injective _ _ h := UInt16.toNat_inj.mp h

namespace CodeUnit

variable {U : Type} [CodeUnit U]

/-- Widening keeps different bytes apart. -/
theorem ofByte_injective {a b : UInt8} (h : (ofByte a : U) = ofByte b) : a = b := by
  have := congrArg (toNat (U := U)) h
  rw [toNat_ofByte, toNat_ofByte] at this
  exact UInt8.toNat_inj.mp this

end CodeUnit

end CrashDump
