import CrashDump.Registry
import Mathlib.Data.Finset.Erase
import Mathlib.Data.Finset.Insert

/-!
# What a registry lists

A registry lists the handles that are out: each of them once, and nothing else.  It does so after
any calls, whatever addresses the allocator picks for the handles that are given out, as long as it
picks none that is out.  It may well pick one that was given back before.

* `Registry.Lists`: the registry lists what is out.
* `Registry.Lists.insert`, `Registry.Lists.remove` and `Registry.Lists.remove_eq_error`: what the
  two operations do to that.
* `Registry.Call.leavesAll`: what calls leave out, told from the calls themselves.
* `Registry.lists_performAll`: that is what the registry lists after them.
-/

namespace CrashDump

/-! ## What a registry lists -/

namespace Registry

variable {registry : Registry} {out : Address → Prop} {handle : Address}

/-- The registry lists every handle that is out once, and nothing else. -/
structure Lists (registry : Registry) (out : Address → Prop) : Prop where
  nodup : registry.handles.Nodup
  mem_iff : ∀ handle, handle ∈ registry.handles ↔ out handle

namespace Lists

theorem congr {others : Address → Prop} (lists : registry.Lists out)
    (same : ∀ handle, others handle ↔ out handle) : registry.Lists others :=
  ⟨lists.nodup, fun handle => (lists.mem_iff handle).trans (same handle).symm⟩

/-- What is out decides the registry, but for its order. -/
theorem perm {other : Registry} (lists : registry.Lists out) (lists' : other.Lists out) :
    registry.handles.Perm other.handles :=
  (List.perm_ext_iff_of_nodup lists.nodup lists'.nodup).mpr fun handle =>
    (lists.mem_iff handle).trans (lists'.mem_iff handle).symm

theorem empty (none : ∀ handle, ¬ out handle) : Registry.empty.Lists out :=
  ⟨List.nodup_nil, fun handle => iff_of_false List.not_mem_nil (none handle)⟩

theorem insert (lists : registry.Lists out) (fresh : ¬ out handle) :
    (registry.insert handle).Lists fun other => other = handle ∨ out other := by
  have hfresh : handle ∉ registry.handles := mt (lists.mem_iff handle).mp fresh
  constructor
  · refine List.nodup_append.mpr ⟨lists.nodup, List.nodup_singleton handle, ?_⟩
    intro other hother another hanother heq
    rw [List.mem_singleton] at hanother
    exact hfresh (hanother ▸ heq ▸ hother)
  · intro other
    rw [mem_insert, lists.mem_iff, or_comm]

theorem remove_eq_error (lists : registry.Lists out) (absent : ¬ out handle) :
    registry.remove handle = .error ⟨handle⟩ :=
  remove_eq_error_iff.mpr ⟨mt (lists.mem_iff handle).mp absent, rfl⟩

theorem remove (lists : registry.Lists out) (present : out handle) :
    ∃ after, registry.remove handle = .ok after ∧
      (handle :: after.handles).Perm registry.handles ∧
      after.Lists fun other => other ≠ handle ∧ out other := by
  cases hremove : registry.remove handle with
  | error misuse =>
    exact absurd ((lists.mem_iff handle).mpr present) (remove_eq_error_iff.mp hremove).1
  | ok after =>
    have hperm := perm_of_remove hremove
    obtain ⟨hstruck, hnodup⟩ := List.nodup_cons.mp (hperm.nodup_iff.mpr lists.nodup)
    refine ⟨after, rfl, hperm, hnodup, ?_⟩
    intro other
    rw [← lists.mem_iff, ← hperm.mem_iff, List.mem_cons]
    constructor
    · intro h
      exact ⟨fun heq => hstruck (heq ▸ h), .inr h⟩
    · rintro ⟨hne, h⟩
      exact h.resolve_left hne

end Lists

/-! ## Calls to a registry -/

/-- What a registry is asked for. -/
inductive Call where
  /-- A handle is given out, at the address that the allocator picks for it. -/
  | handOut (handle : Address)
  /-- A handle is given back. -/
  | takeBack (handle : Address)
deriving DecidableEq, Repr

/-- Performs a call.  A misuse leaves the registry as it is. -/
def perform (registry : Registry) : Call → Except Misuse Unit × Registry
  | .handOut handle => (.ok (), registry.insert handle)
  | .takeBack handle =>
    match registry.remove handle with
    | .ok after => (.ok (), after)
    | .error misuse => (.error misuse, registry)

/-- The registry after calls. -/
def performAll (registry : Registry) : List Call → Registry
  | [] => registry
  | call :: rest => (registry.perform call).2.performAll rest

/-- The handles that are out after a call, given those that were. -/
def Call.leaves (live : Finset Address) : Call → Finset Address
  | .handOut handle => Insert.insert handle live
  | .takeBack handle => live.erase handle

/-- The allocator may pick the address: a handle that is given out is none of those that are out. -/
def Call.Grants (live : Finset Address) : Call → Prop
  | .handOut handle => handle ∉ live
  | .takeBack _ => True

/-- The handles that are out after calls. -/
def Call.leavesAll (live : Finset Address) : List Call → Finset Address
  | [] => live
  | call :: rest => Call.leavesAll (call.leaves live) rest

/-- The allocator may pick the addresses in all of the calls. -/
def Call.GrantsAll (live : Finset Address) : List Call → Prop
  | [] => True
  | call :: rest => call.Grants live ∧ Call.GrantsAll (call.leaves live) rest

instance Call.decidableGrants (live : Finset Address) (call : Call) :
    Decidable (call.Grants live) :=
  match call with
  | .handOut handle => inferInstanceAs (Decidable (handle ∉ live))
  | .takeBack _ => .isTrue trivial

instance Call.decidableGrantsAll (live : Finset Address) :
    (calls : List Call) → Decidable (Call.GrantsAll live calls)
  | [] => .isTrue trivial
  | call :: rest =>
    have := Call.decidableGrantsAll (call.leaves live) rest
    inferInstanceAs (Decidable (call.Grants live ∧ Call.GrantsAll (call.leaves live) rest))

theorem lists_perform {live : Finset Address} {call : Call} (lists : registry.Lists (· ∈ live))
    (grants : call.Grants live) : (registry.perform call).2.Lists (· ∈ call.leaves live) := by
  cases call with
  | handOut handle => exact (lists.insert grants).congr fun other => Finset.mem_insert
  | takeBack handle =>
    have herase (other : Address) : other ∈ live.erase handle ↔ other ≠ handle ∧ other ∈ live :=
      Finset.mem_erase
    by_cases hout : handle ∈ live
    · obtain ⟨after, hremove, -, hafter⟩ := lists.remove hout
      simp only [perform, hremove]
      exact hafter.congr herase
    · simp only [perform, lists.remove_eq_error hout]
      refine lists.congr fun other => ?_
      rw [Call.leaves, Finset.erase_eq_of_notMem hout]

theorem lists_performAll {live : Finset Address} {calls : List Call}
    (lists : registry.Lists (· ∈ live)) (grants : Call.GrantsAll live calls) :
    (registry.performAll calls).Lists (· ∈ Call.leavesAll live calls) := by
  induction calls generalizing registry live with
  | nil => exact lists
  | cons call rest ih => exact ih (lists_perform lists grants.1) grants.2

end Registry

end CrashDump
