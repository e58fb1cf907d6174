import CrashDump.Installer
import CrashDump.Observation
import CrashDump.Registry

/-!
# Attached handlers

A host attaches handlers by way of an installer and owns what belongs to them: the context of each,
in memory as long as its handler is attached, and the registry of those that were handed out as raw
handles.

* `attach` checks the directory, makes the context and has the fault sources hooked.
* `detach` has them unhooked and then frees the context.
* `handOut` and `takeBack` turn an attached handler into a raw handle and back.
* `relay` passes a report on to the context it is addressed to.

A handler is named by its address, which is also that of its context.  A raw handle has an address of
its own: the allocator picks one whenever a handler is handed out, and the registry lists it until it
is taken back.  Raw handles are compared with raw handles only, so nothing depends on whether the
address of one is that of a context, too.
-/

namespace CrashDump

/-- An attached handler. -/
structure Attached (Native : Type) where
  native : Native
  /-- The raw handle that a client holds it by, if it was handed out. -/
  raw : Option Address
deriving DecidableEq, Repr

/-- The attached handlers of a process. -/
structure Host (World Native : Type) where
  /-- What the installer acts on. -/
  world : World
  /-- The contexts in memory. -/
  contexts : Table Address HandlerContext
  handlers : Table Address (Attached Native)
  registry : Registry

namespace Host

variable {p : Platform} {World Native Request : Type}

/-- A host without handlers. -/
def initial (world : World) : Host World Native where
  world := world
  contexts := .empty
  handlers := .empty
  registry := .empty

/-- The longest directory that leaves room for a dump's name. -/
def maxDirectory (p : Platform) : Nat := p.maxPathUnits - requiredUnits 0

/-- The address of the next handler, where the allocator prefers the given one. -/
def nextAddress (host : Host World Native) (preferred : Address) : Address :=
  Address.allocate preferred host.contexts.keys

/-- Attaches a handler that writes dumps to a directory and tells the context of them.  The address
has to be a free one. -/
def attach (installer : Installer p World Native Request) (request : Request) (address : Address)
    (directory : List p.PathUnit) (context : HandlerContext) (options : InstallOptions)
    (host : Host World Native) : Except AttachError Unit × Host World Native × Trace p :=
  if requiredUnits directory.length > p.maxPathUnits then
    (.error (.pathTooLong directory.length (maxDirectory p)), host, [])
  else
    match installer.install request directory address options host.world with
    | (.ok native, world) =>
      (.ok (),
        { host with
          world := world
          contexts := host.contexts.insert address context
          handlers := host.handlers.insert address ⟨native, none⟩ },
        [.contextAllocated address, .logged (.attached directory.length)])
    | (.error cause, world) =>
      (.error cause, { host with world := world },
        [.contextAllocated address, .contextFreed address])

/-- Tells the context at an address of the dump at a path. -/
def notify (host : Host World Native) (address : Address) (path : List p.PathUnit) :
    Observation p :=
  match host.contexts.get? address with
  | some context => .notified address context path
  | none => .dangling address

/-- Passes a report on. -/
def relay (host : Host World Native) (report : Report Address p.PathUnit) : Trace p :=
  (report.notice.map Observation.printed).toList ++
    (report.notification.map fun n => host.notify n.context n.path).toList

/-- Detaches a handler: unhooks it, passes on its last words, and frees its context. -/
def detach (installer : Installer p World Native Request) (address : Address)
    (host : Host World Native) : Host World Native × Trace p :=
  match host.handlers.get? address with
  | none => (host, [])
  | some attached =>
    let (lastWords, world) := installer.uninstall attached.native host.world
    ({ host with
        world := world
        contexts := host.contexts.erase address
        handlers := host.handlers.erase address },
      lastWords.map (host.notify address) ++
        [.uninstalled address, .contextFreed address, .logged .detached])

/-! ## Raw handles -/

/-- The address of the next raw handle, where the allocator prefers the given one. -/
def nextHandle (host : Host World Native) (preferred : Address) : Address :=
  Address.allocate preferred host.registry.handles

/-- The handler behind a raw handle. -/
def handlerBehind? (host : Host World Native) (handle : Address) : Option Address :=
  host.handlers.keys.find? fun handler =>
    (host.handlers.get? handler).any (·.raw = some handle)

/-- Hands a handler out as a raw handle.  The address of the handle has to be a free one. -/
def handOut (handler handle : Address) (host : Host World Native) : Host World Native :=
  match host.handlers.get? handler with
  | none => host
  | some attached =>
    if attached.raw.isSome then host
    else
      { host with
        handlers := host.handlers.insert handler { attached with raw := some handle }
        registry := host.registry.insert handle }

/-- Ends that a handler is held by a raw handle. -/
def reclaim (handler : Address) (host : Host World Native) : Host World Native :=
  match host.handlers.get? handler with
  | none => host
  | some attached =>
    { host with handlers := host.handlers.insert handler { attached with raw := none } }

/-- Takes a raw handle back.  The answer is the handler behind it. -/
def takeBack (handle : Address) (host : Host World Native) :
    Except Misuse (Option Address × Host World Native) :=
  match host.registry.remove handle with
  | .error misuse => .error misuse
  | .ok registry =>
    let after := { host with registry }
    match host.handlerBehind? handle with
    | none => .ok (none, after)
    | some handler => .ok (some handler, after.reclaim handler)

/-! ## What is behind a raw handle -/

/-- What is behind a raw handle is held by it. -/
theorem get?_of_handlerBehind? {host : Host World Native} {handle handler : Address}
    (h : host.handlerBehind? handle = some handler) :
    ∃ native, host.handlers.get? handler = some ⟨native, some handle⟩ := by
  have hheld := List.find?_some h
  obtain ⟨⟨native, raw⟩, hget, hraw⟩ := (Option.any_eq_true _ _).mp hheld
  obtain rfl : raw = some handle := of_decide_eq_true hraw
  exact ⟨native, hget⟩

/-- A handler that is held by a raw handle is behind it, unless another one is held by it, too. -/
theorem handlerBehind?_of_get? {host : Host World Native} {handle handler : Address}
    {native : Native} (held : host.handlers.get? handler = some ⟨native, some handle⟩)
    (alone : ∀ other native, host.handlers.get? other = some ⟨native, some handle⟩ →
      other = handler) :
    host.handlerBehind? handle = some handler := by
  cases h : host.handlerBehind? handle with
  | none =>
    have hkeys : handler ∈ host.handlers.keys := Table.mem_keys_iff.mpr (by simp [held])
    have hnot := List.find?_eq_none.mp h handler hkeys
    simp [held] at hnot
  | some other =>
    obtain ⟨native, hother⟩ := get?_of_handlerBehind? h
    rw [alone other native hother]

end Host

end CrashDump
