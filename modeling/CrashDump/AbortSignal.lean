import CrashDump.Address
import CrashDump.IoError

/-!
# The abort signal

A process has one action for `SIGABRT`, and the library has one hook for it.  Since a signal
handler carries no state, the hook finds its target in a cell of the process; another cell keeps
the action that was in place before the hook was set.

The system is asked for each change of the action and may refuse it.

* `hook` claims the cell for a target and sets the hook.  If the system refuses, the claim is undone.
* `restoreUnder` gives the cell up and puts the saved action back.  If the system refuses, the signal
  ends the process instead.  The system has no reason to refuse an action that it gave out itself, so
  runs use `restore`, to which it agrees.
-/

namespace CrashDump

/-- What `SIGABRT` does. -/
inductive AbortAction where
  /-- It ends the process. -/
  | default
  | ignore
  /-- It runs a handler of the client. -/
  | client
  /-- It runs the library's hook. -/
  | hook
deriving DecidableEq, Repr

/-- The state of `SIGABRT` in a process. -/
structure AbortSignal where
  action : AbortAction
  /-- The target that the hook writes a dump for. -/
  target : Option Address
  /-- The action that the hook took the place of. -/
  saved : Option AbortAction
deriving DecidableEq, Repr

namespace AbortSignal

/-- A process that never touched the signal. -/
def initial : AbortSignal := ⟨.default, none, none⟩

/-! ## Hooking -/

/-- Claims the hook for a target, if it has none yet. -/
def claim? (signal : AbortSignal) (target : Address) : Option AbortSignal :=
  match signal.target with
  | some _ => none
  | none => some { signal with target := some target }

/-- Takes the target from the hook. -/
def release (signal : AbortSignal) : AbortSignal := { signal with target := none }

/-- Sets the action, unless the system refuses to with a code. -/
def setAction (signal : AbortSignal) (refusal : Option Int) (action : AbortAction) :
    Except IoError AbortSignal :=
  match refusal with
  | some code => .error (.system code)
  | none => .ok { signal with action }

/-- The refusal of a hook while there is one. -/
def taken : IoError := .explained .alreadyExists "a SIGABRT handler is already installed"

/-- Sets the hook for a target and saves the action that it takes the place of. -/
def hook (signal : AbortSignal) (refusal : Option Int) (target : Address) :
    Except IoError Unit × AbortSignal :=
  match signal.claim? target with
  | none => (.error taken, signal)
  | some claimed =>
    match claimed.setAction refusal .hook with
    | .error cause => (.error cause, claimed.release)
    | .ok hooked => (.ok (), { hooked with saved := some signal.action })

/-- Takes the target from the hook and puts back the saved action, if there is one. -/
def restoreUnder (signal : AbortSignal) (refusal : Option Int) : AbortSignal :=
  let released := { signal.release with saved := none }
  match signal.saved with
  | none => released
  | some action =>
    match released.setAction refusal action with
    | .error _ => { released with action := .default }
    | .ok restored => restored

/-- Takes the target from the hook and puts back the saved action, which the system does not
refuse. -/
def restore (signal : AbortSignal) : AbortSignal := signal.restoreUnder none

/-- Takes the target from the hook and lets the signal end the process. -/
def giveUp (signal : AbortSignal) : AbortSignal :=
  ⟨.default, none, signal.saved⟩

/-- What follows a dump that the hook asked for.  The process is about to abort once more: for good
if the crash was handled, else into whatever was there before the hook. -/
def afterDump (signal : AbortSignal) (handled : Bool) : AbortSignal :=
  if handled then signal.giveUp else signal.restore

/-! ## What hooking does -/

/-- The hook is set if it has no target yet and the system agrees.  If it is not, all is left as it
was: what was claimed has been released. -/
theorem hook_eq (signal : AbortSignal) (refusal : Option Int) (target : Address) :
    signal.hook refusal target =
      match signal.target, refusal with
      | some _, _ => (.error taken, signal)
      | none, some code => (.error (.system code), signal)
      | none, none => (.ok (), ⟨.hook, some target, some signal.action⟩) := by
  obtain ⟨action, claimed, saved⟩ := signal
  cases claimed <;> cases refusal <;> rfl

theorem hook_of_free {signal : AbortSignal} (free : signal.target = none) (target : Address) :
    signal.hook none target = (.ok (), ⟨.hook, some target, some signal.action⟩) := by
  rw [hook_eq, free]

theorem free_of_hook {signal : AbortSignal} {refusal : Option Int} {target : Address}
    (h : (signal.hook refusal target).1 = .ok ()) : signal.target = none ∧ refusal = none := by
  rw [hook_eq] at h
  split at h
  · cases h
  · cases h
  · exact ⟨by assumption, rfl⟩

theorem hook_of_error {signal : AbortSignal} {refusal : Option Int} {target : Address}
    {cause : IoError} (h : (signal.hook refusal target).1 = .error cause) :
    (signal.hook refusal target).2 = signal := by
  rw [hook_eq] at h ⊢
  split at h
  · rfl
  · rfl
  · cases h

/-! ## What restoring does -/

/-- Whatever the system answers, the target and the saved action are gone.  The action is the saved
one, if there is one and the system takes it back. -/
theorem restoreUnder_eq (signal : AbortSignal) (refusal : Option Int) :
    signal.restoreUnder refusal =
      ⟨match signal.saved, refusal with
        | none, _ => signal.action
        | some _, some _ => .default
        | some action, none => action, none, none⟩ := by
  obtain ⟨action, target, saved⟩ := signal
  cases saved <;> cases refusal <;> rfl

theorem restore_eq (signal : AbortSignal) :
    signal.restore = ⟨signal.saved.getD signal.action, none, none⟩ := by
  rw [restore, restoreUnder_eq]
  cases signal.saved <;> rfl

/-! ## The saved action -/

theorem saved_restore (signal : AbortSignal) : signal.restore.saved = none := by
  rw [restore_eq]

/-- The saved action is kept or put back. -/
theorem saved_afterDump (signal : AbortSignal) (handled : Bool) :
    (signal.afterDump handled).saved = signal.saved ∨ (signal.afterDump handled).saved = none := by
  cases handled with
  | true => exact .inl rfl
  | false => exact .inr (saved_restore signal)

/-! ## The target -/

theorem target_restore (signal : AbortSignal) : signal.restore.target = none := by
  rw [restore_eq]

/-- However a dump went, the hook loses its target. -/
theorem target_afterDump (signal : AbortSignal) (handled : Bool) :
    (signal.afterDump handled).target = none := by
  cases handled with
  | true => rfl
  | false => exact target_restore signal

end AbortSignal

end CrashDump
