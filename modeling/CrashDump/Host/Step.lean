import CrashDump.Host

/-!
# Runs of a host

What clients and native handlers can do to a host, whatever the installer: `Event` lists it, `step`
lets one event happen, and `run` lets events happen one after the other.
-/

namespace CrashDump.Host

/-- What can happen to a host. -/
inductive Event (p : Platform) (Request : Type) where
  /-- A handler is attached.  The allocator prefers an address for it. -/
  | attach (request : Request) (preferred : Address) (directory : List p.PathUnit)
      (context : HandlerContext) (options : InstallOptions)
  /-- A native handler reports a dump. -/
  | fault (handler : Address) (delivery : Bridge.Delivery p.PathUnit)
  /-- A handler is handed out as a raw handle.  The allocator prefers an address for it. -/
  | handOut (handler preferred : Address)
  /-- A raw handle is given back. -/
  | takeBack (handle : Address)
  /-- A handler that is not handed out comes to its end. -/
  | drop (handler : Address)

/-- What the one who made an event happen is answered. -/
inductive Reply where
  | attached (handler : Address)
  | attachFailed (cause : AttachError)
  | handedOut (handle : Address)
  | takenBack (handler : Address)
  | done
  /-- The dump was written, or not. -/
  | handled (handled : Bool)
  /-- The process panics. -/
  | misuse (misuse : Misuse)
  /-- There is no such handler. -/
  | absent
deriving DecidableEq, Repr

variable {p : Platform} {World Native Request : Type}

/-- Lets an event happen: the answer, the host afterwards, and what was seen. -/
def step (installer : Installer p World Native Request) (host : Host World Native) :
    Event p Request → Reply × Host World Native × Trace p
  | .attach request preferred directory context options =>
    let address := host.nextAddress preferred
    match host.attach installer request address directory context options with
    | (.ok (), host, trace) => (.attached address, host, trace)
    | (.error cause, host, trace) => (.attachFailed cause, host, trace)
  | .fault handler delivery =>
    match host.handlers.get? handler with
    | none => (.absent, host, [])
    | some _ =>
      let report := Bridge.deliver handler delivery
      (.handled report.handled, host, host.relay report)
  | .handOut handler preferred =>
    match host.handlers.get? handler with
    | none => (.absent, host, [])
    | some attached =>
      if attached.raw.isSome then (.absent, host, [])
      else
        let handle := host.nextHandle preferred
        (.handedOut handle, host.handOut handler handle, [])
  | .takeBack handle =>
    match host.takeBack handle with
    | .ok (some handler, host) => (.takenBack handler, host, [])
    | .ok (none, host) => (.absent, host, [])
    | .error misuse => (.misuse misuse, host, [])
  | .drop handler =>
    match host.handlers.get? handler with
    | none => (.absent, host, [])
    | some attached =>
      if attached.raw.isSome then (.absent, host, [])
      else
        let (host, trace) := host.detach installer handler
        (.done, host, trace)

/-- Lets events happen one after the other: the host afterwards, and the answer and the trace of
each. -/
def run (installer : Installer p World Native Request) (host : Host World Native) :
    List (Event p Request) → Host World Native × List (Reply × Trace p)
  | [] => (host, [])
  | event :: rest =>
    let (reply, host, trace) := host.step installer event
    let (host, others) := host.run installer rest
    (host, (reply, trace) :: others)

end CrashDump.Host
