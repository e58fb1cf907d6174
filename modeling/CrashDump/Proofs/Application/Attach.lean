import CrashDump.Proofs.Application.Run

/-!
# Which attaches succeed

An attach asks for a directory and for a fault source.  Its directory is accepted if it is there,
leaves room for the name of a dump and, for a typed attach, can be made.  Whether such an attach
succeeds depends on what is taken already, and on nothing else.

* `Machine.Admits`: a fault source can be hooked.
* `Event.Asks`: an event asks for a handler, and its directory is accepted.
* `attached_of_reply`: what an attach did that succeeded.
* `attached_iff`: such an event attaches the handler exactly if its source can be hooked and, for a
  typed one, no other is attached.
-/

namespace CrashDump

variable {p : Platform}

/-! ## Hooking -/

namespace Machine

/-- The fault source can be hooked.  The hook for `SIGABRT` must have no target, and the crash
handler of the process must not be set up; the system must not refuse what it is asked for. -/
def Admits (machine : Machine p) (refusal : Option Refusal) : Option FaultSource → Prop
  | none => True
  | some .abortSignal =>
    refusal.bind Refusal.abortAction? = none ∧ machine.abortSignal.target = none
  | some .crashHandler =>
    refusal.bind Refusal.crashHandler? = none ∧ machine.crashHandler = none

variable {machine hooked : Machine p} {refusal : Option Refusal} {target : Address}
  {source : Option FaultSource}

theorem admits_of_hook (h : machine.hook refusal target source = (.ok (), hooked)) :
    machine.Admits refusal source := by
  rcases hook_cases h with ⟨rfl, -⟩ | ⟨rfl, hagreed, hnone, -⟩ | ⟨rfl, hagreed, hnone, -⟩
  · trivial
  · exact ⟨hagreed, hnone⟩
  · exact ⟨hagreed, hnone⟩

theorem exists_hook_eq (target : Address) (admits : machine.Admits refusal source) :
    ∃ hooked, machine.hook refusal target source = (.ok (), hooked) := by
  rcases source with _ | _ | _
  · exact ⟨machine, rfl⟩
  · obtain ⟨hagreed, hnone⟩ := admits
    exact ⟨{ machine with crashHandler := some target }, by simp only [hook, hagreed, hnone]⟩
  · obtain ⟨hagreed, hnone⟩ := admits
    refine ⟨{ machine with
      abortSignal := ⟨.hook, some target, some machine.abortSignal.action⟩ }, ?_⟩
    rw [hook, hagreed, AbortSignal.hook_of_free hnone]
    rfl

/-- It is the two cells alone that say what can be hooked. -/
theorem admits_congr {other : Machine p} (crashHandler : other.crashHandler = machine.crashHandler)
    (abortTarget : other.abortSignal.target = machine.abortSignal.target) :
    other.Admits refusal source ↔ machine.Admits refusal source := by
  rcases source with _ | _ | _
  · rfl
  · unfold Admits
    rw [crashHandler]
  · unfold Admits
    rw [abortTarget]

end Machine

namespace Application

variable {app : Application p} {roster : Roster p} {event : Event p} {attachment : Attachment p}

/-! ## Attaches -/

/-- The event asks for a handler, and its directory is accepted. -/
structure Event.Asks (event : Event p) (app : Application p) (attachment : Attachment p) :
    Prop where
  /-- There is a directory. -/
  request : event.attachment? app.machine.ids.next = some attachment
  /-- It leaves room for the name of a dump. -/
  fits : requiredUnits attachment.directory.length ≤ p.maxPathUnits
  /-- It can be made, where that is asked for. -/
  prepared : (event.prepare app.machine.files).1 = .ok ()

theorem exists_attach_eq (address : Address) {directory : List p.PathUnit}
    (context : HandlerContext) {options : InstallOptions} {refusal : Option Refusal}
    (fits : requiredUnits directory.length ≤ p.maxPathUnits)
    (admits : app.machine.Admits refusal (FaultSource.ofOptions? p options)) :
    ∃ after trace,
      app.attach address directory context options refusal = (.ok (), after, trace) := by
  have hnot : ¬ requiredUnits directory.length > p.maxPathUnits := Nat.not_lt.mpr fits
  have hadmits : Machine.Admits { app.machine with ids := app.machine.ids.advance } refusal
      (FaultSource.ofOptions? p options) := (Machine.admits_congr rfl rfl).mpr admits
  obtain ⟨hooked, hhook⟩ := Machine.exists_hook_eq address hadmits
  simp only [Application.machine] at hhook
  have hanswer : (app.attach address directory context options refusal).1 = .ok () := by
    simp only [attach, Host.attach, hnot, if_false, Machine.installer, Machine.install, hhook]
  exact ⟨_, _, Prod.ext hanswer rfl⟩

/-- An attach that finds nothing taken of what it needs succeeds. -/
theorem exists_attached_of_asks (asks : event.Asks app attachment)
    (alone : attachment.event? ≠ none → app.typedAttached = false)
    (admits : app.machine.Admits event.refusal? attachment.source) :
    ∃ address, app.replyTo event = .attached address := by
  obtain ⟨request, fits, prepared⟩ := asks
  cases event with
  | attachRaw pointer length function userData options surroundings =>
    obtain ⟨directory, hread, rfl⟩ := Option.map_eq_some_iff.mp request
    cases hdirectory : readDirectory pointer length with
    | error cause =>
      rw [hdirectory] at hread
      cases hread
    | ok other =>
      rw [hdirectory] at hread
      cases hread
      obtain ⟨after, trace, h⟩ := exists_attach_eq
        (app.host.nextAddress surroundings.preferred) (.client function userData) fits admits
      refine ⟨app.host.nextAddress surroundings.preferred, ?_⟩
      simp only [Event.refusal?] at h
      simp only [replyTo, step, attachRaw, attachOwned, hdirectory, h, Reply.ofHandle]
  | attachOwned directory function userData options surroundings =>
    cases request
    obtain ⟨after, trace, h⟩ := exists_attach_eq
      (app.host.nextAddress surroundings.preferred) (.client function userData) fits admits
    refine ⟨app.host.nextAddress surroundings.preferred, ?_⟩
    simp only [Event.refusal?] at h
    simp only [replyTo, step, attachOwned, h, Reply.ofAttach]
  | attachTyped directory choice tag surroundings =>
    cases request
    have hfree : app.typedAttached = false := alone (Option.some_ne_none tag)
    cases hmake : app.machine.files.makeDirectories directory with
    | mk answer files =>
      have hprepare : (app.machine.files.makeDirectories directory).1 = .ok () := prepared
      rw [hmake] at hprepare
      cases hprepare
      have hadmits : (setFiles { app with typedAttached := true } files).machine.Admits
          surroundings.refusal (FaultSource.ofOptions? p choice.options) :=
        (Machine.admits_congr rfl rfl).mpr admits
      obtain ⟨after, trace, h⟩ := exists_attach_eq
        (app.host.nextAddress surroundings.preferred)
        (.crashEvent (app.host.nextAddress surroundings.preferred)) fits hadmits
      refine ⟨app.host.nextAddress surroundings.preferred, ?_⟩
      have haddress : Host.nextAddress (setFiles { app with typedAttached := true } files).host
          surroundings.preferred = app.host.nextAddress surroundings.preferred := rfl
      have hmake' : FileSystem.makeDirectories
          (Application.machine { app with typedAttached := true }).files directory =
          (.ok (), files) := hmake
      simp only [replyTo, step, attachTyped, hfree, Bool.false_eq_true, if_false,
        attachCrashEvent, hmake', haddress, h, Reply.ofTypedAttach]
  | _ => cases request

/-- What an attach did that is answered by the address of its handler. -/
theorem attached_of_reply (coherent : Coherent app roster) {handler : Address}
    (reply : app.replyTo event = .attached handler) :
    ∃ (attachment : Attachment p) (files : FileSystem) (machine : Machine p),
      event.attachment? app.machine.ids.next = some attachment ∧
      event.prepare app.machine.files = (.ok (), files) ∧
      (attachment.event? ≠ none → app.typedAttached = false) ∧
      Machine.hook { app.machine with files, ids := app.machine.ids.advance } event.refusal? handler
        attachment.source = (.ok (), machine) ∧
      app.after event =
        (app.setMachine { app.machine with files, ids := app.machine.ids.advance }).enrol machine
          handler attachment := by
  cases transition coherent event with
  | attached request prepared _ _ alone hooked hreply hafter =>
    rw [reply] at hreply
    cases hreply
    exact ⟨_, _, _, request, prepared, alone, hooked, hafter⟩
  | refused _ _ _ _ refusal =>
    rw [reply] at refusal
    exact refusal.elim
  | detached _ _ _ _ hreply =>
    rw [reply] at hreply
    cases hreply
  | faulted _ _ _ _ answers =>
    rw [reply] at answers
    rcases answers.reply_cases with ⟨_, h⟩ | ⟨_, _, h⟩ <;> cases h
  | abandoned _ _ _ hreply =>
    rw [reply] at hreply
    cases hreply
  | quiet _ _ _ _ unattached => exact absurd reply (unattached handler)

theorem attached_iff (coherent : Coherent app roster) (asks : event.Asks app attachment) :
    (∃ address, app.replyTo event = .attached address) ↔
      (attachment.event? ≠ none → app.typedAttached = false) ∧
        app.machine.Admits event.refusal? attachment.source := by
  constructor
  · rintro ⟨address, hreply⟩
    obtain ⟨other, files, machine, request, -, alone, hooked, -⟩ :=
      attached_of_reply coherent hreply
    rw [asks.request] at request
    cases request
    have hadmits := Machine.admits_of_hook hooked
    exact ⟨alone, (Machine.admits_congr rfl rfl).mp hadmits⟩
  · rintro ⟨alone, admits⟩
    exact exists_attached_of_asks asks alone admits

end Application

end CrashDump
