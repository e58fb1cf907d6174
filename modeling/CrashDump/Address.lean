/-!
# Addresses

An allocator hands out addresses.  It is free in its choice, up to two things: an address that is
in use is not handed out, and neither is the null address.
-/

namespace CrashDump

/-- Where something lies in memory.  The address 0 is null. -/
abbrev Address := Nat

namespace Address

/-- The address that an allocator hands out: the one it prefers, if it may. -/
def allocate (preferred : Address) (used : List Address) : Address :=
  if preferred ≠ 0 ∧ preferred ∉ used then preferred else used.foldr max 0 + 1

/-- An address in lower-case hexadecimal digits. -/
def text (address : Address) : String :=
  "0x" ++ String.ofList (Nat.toDigits 16 address)

theorem le_foldr_max {address : Address} {used : List Address} (h : address ∈ used) :
    address ≤ used.foldr max 0 := by
  induction used with
  | nil => cases h
  | cons other rest ih =>
    rcases List.mem_cons.mp h with rfl | h
    · exact Nat.le_max_left _ _
    · exact Nat.le_trans (ih h) (Nat.le_max_right _ _)

/-- An allocated address was not in use. -/
theorem allocate_not_mem (preferred : Address) (used : List Address) :
    allocate preferred used ∉ used := by
  unfold allocate
  split
  · exact And.right ‹_›
  · exact fun h => Nat.not_succ_le_self _ (le_foldr_max h)

/-- An allocated address is not null. -/
theorem allocate_ne_zero (preferred : Address) (used : List Address) :
    allocate preferred used ≠ 0 := by
  unfold allocate
  split
  · exact And.left ‹_›
  · exact Nat.succ_ne_zero _

/-- An allocator is free to hand out any address that is neither null nor in use. -/
theorem allocate_of_free {preferred : Address} {used : List Address} (h : preferred ≠ 0)
    (free : preferred ∉ used) : allocate preferred used = preferred := by
  simp [allocate, h, free]

end Address

end CrashDump
