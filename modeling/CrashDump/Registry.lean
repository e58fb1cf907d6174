import CrashDump.Address

/-!
# The registry of raw handles

A raw handle is an address that a client holds and may misuse.  The registry lists the raw handles
that are out, so that a handle which is given back twice, or was never given out, is noticed.
-/

namespace CrashDump

/-- A handle was given back that is not out. -/
structure Misuse where
  handle : Address
deriving DecidableEq, Repr

/-- What a person is told, given the text of the handle. -/
def Misuse.messageFor (handle : String) : String :=
  "exception handler " ++ handle ++ " was already detached, or never attached"

/-- What a person is told. -/
def Misuse.message (misuse : Misuse) : String := messageFor misuse.handle.text

/-- The raw handles that are out. -/
structure Registry where
  handles : List Address
deriving DecidableEq, Repr

namespace Registry

/-- No handle is out. -/
def empty : Registry := ⟨[]⟩

/-- Notes a handle that is given out. -/
def insert (registry : Registry) (handle : Address) : Registry := ⟨registry.handles ++ [handle]⟩

/-- Strikes out the handle at a position.  The last one takes its place. -/
def swapRemove (handles : List Address) (position : Nat) : List Address :=
  match handles.getLast? with
  | none => []
  | some last => (handles.set position last).dropLast

/-- Notes a handle that is given back. -/
def remove (registry : Registry) (handle : Address) : Except Misuse Registry :=
  match registry.handles.idxOf? handle with
  | some position => .ok ⟨swapRemove registry.handles position⟩
  | none => .error ⟨handle⟩

/-! ## What the operations do to the handles that are out -/

@[simp] theorem mem_insert {registry : Registry} {handle other : Address} :
    other ∈ (registry.insert handle).handles ↔ other ∈ registry.handles ∨ other = handle := by
  simp [insert]

/-- Giving back is misuse exactly for a handle that is not out. -/
theorem remove_eq_error_iff {registry : Registry} {handle : Address} {misuse : Misuse} :
    registry.remove handle = .error misuse ↔ handle ∉ registry.handles ∧ misuse = ⟨handle⟩ := by
  unfold remove
  cases h : registry.handles.idxOf? handle with
  | none => simp [List.idxOf?_eq_none_iff.mp h, eq_comm]
  | some position =>
    have hmem : handle ∈ registry.handles := Decidable.byContradiction fun hnot => by
      rw [List.idxOf?_eq_none_iff.mpr hnot] at h
      cases h
    simp [hmem]

/-- Putting a handle in the place of another exchanges the two. -/
theorem perm_cons_set {handles : List Address} {position : Nat} (last : Address)
    (h : position < handles.length) :
    (handles[position] :: handles.set position last).Perm (last :: handles) := by
  induction handles generalizing position with
  | nil => cases h
  | cons first rest ih =>
    cases position with
    | zero => exact List.Perm.swap _ _ _
    | succ position =>
      have hrest := ih (Nat.lt_of_succ_lt_succ h)
      exact (List.Perm.swap _ _ _).trans
        ((List.Perm.cons first hrest).trans (List.Perm.swap _ _ _))

/-- Striking out a position keeps the other handles, in some order. -/
theorem perm_swapRemove {handles : List Address} {position : Nat}
    (h : position < handles.length) :
    (handles[position] :: swapRemove handles position).Perm handles := by
  rcases List.eq_nil_or_concat handles with rfl | ⟨front, last, rfl⟩
  · simp at h
  · simp only [List.concat_eq_append, swapRemove, List.getLast?_append, List.getLast?_singleton,
      Option.some_or] at h ⊢
    simp only [List.length_append, List.length_singleton] at h
    rcases Nat.lt_or_ge position front.length with hlt | hge
    · rw [List.set_append_left _ _ hlt, List.dropLast_concat, List.getElem_append_left hlt]
      exact (perm_cons_set last hlt).trans (List.perm_append_singleton last front).symm
    · have hpos : position = front.length := by omega
      subst hpos
      simpa using (List.perm_append_singleton last front).symm

/-- Giving a handle back strikes out that handle and keeps the others, in some order. -/
theorem perm_of_remove {registry after : Registry} {handle : Address}
    (h : registry.remove handle = .ok after) :
    (handle :: after.handles).Perm registry.handles := by
  unfold remove at h
  split at h
  · rename_i position hposition
    obtain ⟨hlt, hat⟩ := List.idxOf?_eq_some_iff.mp hposition
    cases h
    have hperm := perm_swapRemove hlt
    rwa [hat.1] at hperm
  · cases h

end Registry

end CrashDump
