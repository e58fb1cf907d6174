import CrashDump.Host.Step

/-!
# The lives of contexts

Whatever the installer, the context of a handler is in memory from its attach until its detach, and
is not used before or after.

`Life` is what a reader of traces knows of the context at one address.  `Life.next` says which uses
of the address are in order: memory that was not given back is not taken again, a context that is
gone is not told of dumps, and it goes after its own native handler was unhooked, or because the
attach failed.

* `Life.count_throughAll`: what is in order gives memory back as often as it is taken.
* `Host.Owned`: a context is in memory exactly as long as there is its handler.
* `Host.inOrder_attach` and its like: each operation is in order.
* `Host.inOrder_step` and `Host.life_run`: so are steps and runs.
-/

namespace CrashDump

variable {p : Platform}

/-! ## The life of a context -/

/-- What a trace shows of the context at one address. -/
inductive Life where
  /-- There is none. -/
  | gone
  /-- It is in memory. -/
  | present
  /-- It is in memory, and its native handler was unhooked. -/
  | unhooked
deriving DecidableEq, Repr

/-- What is done with the memory at an address. -/
inductive Use where
  | allocate
  | notify
  | unhook
  | free
  /-- It is used although nothing lives there. -/
  | misuse
deriving DecidableEq, Repr

/-- What an observation says about the memory at an address. -/
def Observation.use? (address : Address) : Observation p → Option Use
  | .contextAllocated other => if other = address then some .allocate else none
  | .notified other _ _ => if other = address then some .notify else none
  | .uninstalled other => if other = address then some .unhook else none
  | .contextFreed other => if other = address then some .free else none
  | .dangling other => if other = address then some .misuse else none
  | _ => none

/-- What a trace says about the memory at an address. -/
def uses (address : Address) (trace : Trace p) : List Use := trace.filterMap (·.use? address)

theorem uses_append (address : Address) (first second : Trace p) :
    uses address (first ++ second) = uses address first ++ uses address second :=
  List.filterMap_append

namespace Life

/-- What comes of a use that is in order.  Only an attach that fails may free a context whose native
handler was not unhooked. -/
def next (failed : Bool) : Life → Use → Option Life
  | gone, .allocate => some present
  | present, .notify => some present
  | present, .unhook => some unhooked
  | present, .free => if failed then some gone else none
  | unhooked, .free => some gone
  | _, _ => none

/-- What comes of uses that are in order. -/
def through (failed : Bool) : Life → List Use → Option Life
  | life, [] => some life
  | life, use :: rest => (life.next failed use).bind fun later => later.through failed rest

/-- What comes of steps, each of which fails to attach or not, that are in order. -/
def throughAll : Life → List (Bool × List Use) → Option Life
  | life, [] => some life
  | life, step :: rest => (life.through step.1 step.2).bind fun later => later.throughAll rest

/-- How much is in memory. -/
def size : Life → Nat
  | gone => 0
  | present => 1
  | unhooked => 1

/-- A use that is in order takes memory, gives it back, or does neither. -/
theorem size_next {failed : Bool} {life later : Life} {use : Use}
    (h : life.next failed use = some later) :
    [use].count .allocate + life.size = [use].count .free + later.size := by
  unfold next at h
  split at h
  · cases h
    rfl
  · cases h
    rfl
  · cases h
    rfl
  · split at h
    · cases h
      rfl
    · cases h
  · cases h
    rfl
  · cases h

/-- What is in order gives memory back once for each time that it is taken, but for what is in
memory still. -/
theorem count_through {failed : Bool} {life later : Life} {uses : List Use}
    (h : life.through failed uses = some later) :
    uses.count .allocate + life.size = uses.count .free + later.size := by
  induction uses generalizing life with
  | nil =>
    cases h
    rfl
  | cons use rest ih =>
    rw [through, Option.bind_eq_some_iff] at h
    obtain ⟨middle, hnext, hrest⟩ := h
    have huse := size_next hnext
    have hlater := ih hrest
    have hcount (kind : Use) : (use :: rest).count kind = [use].count kind + rest.count kind := by
      rw [← List.singleton_append, List.count_append]
    rw [hcount, hcount]
    omega

theorem count_throughAll {life later : Life} {steps : List (Bool × List Use)}
    (h : life.throughAll steps = some later) :
    (steps.flatMap (·.2)).count .allocate + life.size =
      (steps.flatMap (·.2)).count .free + later.size := by
  induction steps generalizing life with
  | nil =>
    cases h
    rfl
  | cons step rest ih =>
    rw [throughAll, Option.bind_eq_some_iff] at h
    obtain ⟨middle, hstep, hrest⟩ := h
    have huses := count_through hstep
    have hlater := ih hrest
    rw [List.flatMap_cons, List.count_append, List.count_append]
    omega

end Life

namespace Host

variable {World Native Request : Type} {installer : Installer p World Native Request}
  {host : Host World Native}

/-! ## What a host keeps -/

/-- A context is in memory exactly as long as its handler is attached. -/
def Owned (host : Host World Native) : Prop :=
  ∀ address, host.contexts.get? address = none ↔ host.handlers.get? address = none

/-- The life of the context at an address, as the host knows it. -/
def life (host : Host World Native) (address : Address) : Life :=
  if host.handlers.get? address = none then .gone else .present

theorem life_of_none {address : Address} (h : host.handlers.get? address = none) :
    host.life address = .gone := if_pos h

theorem life_of_some {address : Address} {attached : Attached Native}
    (h : host.handlers.get? address = some attached) : host.life address = .present := by
  unfold life
  rw [h]
  exact if_neg (Option.some_ne_none attached)

theorem Owned.nextAddress (owned : Owned host) (preferred : Address) :
    host.handlers.get? (host.nextAddress preferred) = none := by
  have hfree := Address.allocate_not_mem preferred host.contexts.keys
  rw [Table.mem_keys_iff, Classical.not_not] at hfree
  exact (owned _).mp hfree

/-- The context of an attached handler is told of what is reported to it. -/
theorem Owned.notify (owned : Owned host) {handler : Address} {attached : Attached Native}
    (h : host.handlers.get? handler = some attached) (path : List p.PathUnit) :
    ∃ context, host.notify handler path = .notified handler context path := by
  unfold Host.notify
  cases hcontext : host.contexts.get? handler with
  | none =>
    rw [(owned handler).mp hcontext] at h
    cases h
  | some context => exact ⟨context, rfl⟩

/-! ## Steps -/

/-- The attach failed. -/
def Reply.isAttachFailed : Reply → Bool
  | .attachFailed _ => true
  | _ => false

/-- What a step does is in order for the context at each address, and leaves contexts and handlers
together. -/
structure InOrder (host : Host World Native) (outcome : Reply × Host World Native × Trace p) :
    Prop where
  life : ∀ address,
    (host.life address).through outcome.1.isAttachFailed (uses address outcome.2.2) =
      some (outcome.2.1.life address)
  owned : outcome.2.1.Owned

/-- A step that uses one address only. -/
theorem InOrder.of_uses {reply : Reply} {after : Host World Native} {trace : Trace p}
    (used : Address) (there : List Use) (owned : Owned after) (here : uses used trace = there)
    (life : (host.life used).through reply.isAttachFailed there = some (after.life used))
    (elsewhere : ∀ address, address ≠ used → uses address trace = [] ∧
      after.life address = host.life address) : InOrder host (reply, after, trace) := by
  refine ⟨?_, owned⟩
  intro address
  show (host.life address).through reply.isAttachFailed (uses address trace) =
    some (after.life address)
  by_cases h : address = used
  · rw [h, here, life]
  · rw [(elsewhere address h).1, (elsewhere address h).2]
    rfl

/-- A step that uses no memory. -/
theorem InOrder.of_silent {reply : Reply} {after : Host World Native} (owned : Owned after)
    (life : ∀ address, after.life address = host.life address) :
    InOrder host (reply, after, ([] : Trace p)) := by
  refine ⟨?_, owned⟩
  intro address
  exact congrArg some (life address).symm

theorem inOrder_attach (owned : Owned host) (request : Request) (preferred : Address)
    (directory : List p.PathUnit) (context : HandlerContext) (options : InstallOptions) :
    InOrder host (host.step installer (.attach request preferred directory context options)) := by
  have hfree := owned.nextAddress preferred
  generalize haddress : host.nextAddress preferred = new at hfree
  by_cases hfits : requiredUnits directory.length > p.maxPathUnits
  · have hstep : host.step installer (.attach request preferred directory context options) =
        (.attachFailed (.pathTooLong directory.length (maxDirectory p)), host, []) := by
      simp only [step, attach, hfits, if_true]
    rw [hstep]
    exact .of_silent owned fun _ => rfl
  · cases hinstall : installer.install request directory new options host.world with
    | mk answer world =>
      cases answer with
      | error cause =>
        have hstep : host.step installer (.attach request preferred directory context options) =
            (.attachFailed cause, { host with world := world },
              [.contextAllocated new, .contextFreed new]) := by
          simp only [step, attach, haddress, hfits, if_false, hinstall]
        have here : uses new ([.contextAllocated new, .contextFreed new] : Trace p) =
            [.allocate, .free] := by
          simp [uses, Observation.use?]
        rw [hstep]
        refine .of_uses new _ owned here ?_ ?_
        · rw [life_of_none hfree]
          show some Life.gone = some (host.life new)
          rw [life_of_none hfree]
        · intro address hne
          exact ⟨by simp [uses, Observation.use?, hne.symm], rfl⟩
      | ok native =>
        have hstep : host.step installer (.attach request preferred directory context options) =
            (.attached new,
              { host with
                world := world
                contexts := host.contexts.insert new context
                handlers := host.handlers.insert new ⟨native, none⟩ },
              [.contextAllocated new, .logged (.attached directory.length)]) := by
          simp only [step, attach, haddress, hfits, if_false, hinstall]
        have here : uses new
            ([.contextAllocated new, .logged (.attached directory.length)] : Trace p) =
              [.allocate] := by
          simp [uses, Observation.use?]
        rw [hstep]
        refine .of_uses new _ ?_ here ?_ ?_
        · intro address
          by_cases h : address = new <;> simp [Table.get?_insert, h, owned address]
        · rw [life_of_none hfree]
          exact congrArg some (life_of_some (Table.get?_insert_self ..)).symm
        · intro address hne
          refine ⟨by simp [uses, Observation.use?, hne.symm], ?_⟩
          unfold life
          rw [Table.get?_insert_of_ne _ _ hne]

/-- A report is addressed to the context it is made for, or to none. -/
theorem notification_deliver (handler : Address) (delivery : Bridge.Delivery p.PathUnit) :
    (Bridge.deliver handler delivery).notification = none ∨
      ∃ path, (Bridge.deliver handler delivery).notification = some ⟨handler, path⟩ := by
  cases delivery with
  | joined directory id succeeded =>
    simp only [Bridge.deliver, Bridge.deliverJoined]
    cases (PathBuffer.compose directory id).run
        (PathBuffer.new : PathBuffer p.PathUnit p.maxPathUnits) with
    | ok _ buffer => exact .inr ⟨buffer.contents, rfl⟩
    | error _ _ => exact .inl rfl
  | complete path succeeded => exact .inr ⟨path, rfl⟩

theorem uses_printed (address : Address) (notice : Option Notice) :
    uses address ((notice.map Observation.printed).toList : Trace p) = [] := by
  cases notice <;> rfl

theorem inOrder_fault (owned : Owned host) (handler : Address)
    (delivery : Bridge.Delivery p.PathUnit) :
    InOrder host (host.step installer (.fault handler delivery)) := by
  cases hhandler : host.handlers.get? handler with
  | none =>
    have hstep : host.step installer (.fault handler delivery) = (.absent, host, []) := by
      simp only [step, hhandler]
    rw [hstep]
    exact .of_silent owned fun _ => rfl
  | some attached =>
    have hstep : host.step installer (.fault handler delivery) =
        (.handled (Bridge.deliver handler delivery).handled, host,
          host.relay (Bridge.deliver handler delivery)) := by
      simp only [step, hhandler]
    rw [hstep]
    unfold relay
    rcases notification_deliver handler delivery with hnone | ⟨path, hsome⟩
    · rw [hnone, Option.map_none, Option.toList_none, List.append_nil]
      refine .of_uses handler [] owned (uses_printed handler _) rfl ?_
      intro address _
      exact ⟨uses_printed address _, rfl⟩
    · obtain ⟨context, hnotify⟩ := owned.notify hhandler path
      rw [hsome, Option.map_some, Option.toList_some, hnotify]
      refine .of_uses handler [.notify] owned ?_ ?_ ?_
      · rw [uses_append, uses_printed]
        simp [uses, Observation.use?]
      · rw [life_of_some hhandler]
        rfl
      · intro address hne
        refine ⟨?_, rfl⟩
        rw [uses_append, uses_printed]
        simp [uses, Observation.use?, hne.symm]

/-- A handler that is kept, raw or not, keeps its context. -/
theorem InOrder.of_insert {reply : Reply} (owned : Owned host) {handler : Address}
    {attached : Attached Native} (h : host.handlers.get? handler = some attached)
    (kept : Attached Native) (registry : Registry) :
    InOrder host (reply,
      { host with handlers := host.handlers.insert handler kept, registry }, ([] : Trace p)) := by
  have hnone : ∀ address, (host.handlers.insert handler kept).get? address = none ↔
      host.handlers.get? address = none := by
    intro address
    rw [Table.get?_insert]
    by_cases heq : address = handler
    · rw [if_pos heq, heq, h]
      simp
    · rw [if_neg heq]
  refine .of_silent ?_ ?_
  · intro address
    rw [owned address]
    exact (hnone address).symm
  · intro address
    unfold Host.life
    simp only [hnone address]

theorem inOrder_handOut (owned : Owned host) (handler preferred : Address) :
    InOrder host (host.step installer (.handOut handler preferred : Event p Request)) := by
  have hsilent : InOrder host (.absent, host, ([] : Trace p)) := .of_silent owned fun _ => rfl
  cases hhandler : host.handlers.get? handler with
  | none =>
    simp only [step, hhandler]
    exact hsilent
  | some attached =>
    by_cases hraw : attached.raw.isSome
    · simp only [step, hhandler, hraw, if_true]
      exact hsilent
    · simp only [step, handOut, hhandler, hraw, Bool.false_eq_true, if_false]
      exact .of_insert owned hhandler _ _

theorem inOrder_takeBack (owned : Owned host) (handle : Address) :
    InOrder host (host.step installer (.takeBack handle : Event p Request)) := by
  cases hremove : host.registry.remove handle with
  | error misuse =>
    simp only [step, takeBack, hremove]
    exact .of_silent owned fun _ => rfl
  | ok registry =>
    cases hbehind : host.handlerBehind? handle with
    | none =>
      simp only [step, takeBack, hremove, hbehind]
      exact .of_silent owned fun _ => rfl
    | some handler =>
      obtain ⟨native, hhandler⟩ := get?_of_handlerBehind? hbehind
      simp only [step, takeBack, hremove, hbehind, reclaim, hhandler]
      exact .of_insert owned hhandler _ _

/-- The last words of a handler are passed on to its context, which is still there. -/
theorem Owned.lastWords (owned : Owned host) {handler : Address} {attached : Attached Native}
    (h : host.handlers.get? handler = some attached) (words : List (List p.PathUnit)) :
    uses handler (words.map (host.notify handler)) = List.replicate words.length .notify ∧
      ∀ address, address ≠ handler → uses address (words.map (host.notify handler)) = [] := by
  induction words with
  | nil => exact ⟨rfl, fun _ _ => rfl⟩
  | cons path rest ih =>
    obtain ⟨context, hnotify⟩ := owned.notify h path
    rw [List.map_cons, hnotify]
    constructor
    · rw [List.length_cons, List.replicate_succ, ← ih.1]
      simp [uses, Observation.use?]
    · intro address hne
      rw [← ih.2 address hne]
      simp [uses, Observation.use?, hne.symm]

theorem through_notify (failed : Bool) (count : Nat) (rest : List Use) :
    Life.present.through failed (List.replicate count .notify ++ rest) =
      Life.present.through failed rest := by
  induction count with
  | zero => rfl
  | succ count ih => exact ih

theorem inOrder_drop (owned : Owned host) (handler : Address) :
    InOrder host (host.step installer (.drop handler : Event p Request)) := by
  have hsilent : InOrder host (.absent, host, ([] : Trace p)) := .of_silent owned fun _ => rfl
  cases hhandler : host.handlers.get? handler with
  | none =>
    simp only [step, hhandler]
    exact hsilent
  | some attached =>
    by_cases hraw : attached.raw.isSome
    · simp only [step, hhandler, hraw, if_true]
      exact hsilent
    · obtain ⟨hhere, helsewhere⟩ := owned.lastWords hhandler
        (installer.uninstall attached.native host.world).1
      simp only [step, hhandler, hraw, Bool.false_eq_true, if_false, detach]
      refine .of_uses handler
        (List.replicate (installer.uninstall attached.native host.world).1.length .notify ++
          [.unhook, .free]) ?_ ?_ ?_ ?_
      · intro address
        by_cases h : address = handler <;> simp [h, owned address]
      · rw [uses_append, hhere]
        simp [uses, Observation.use?]
      · rw [life_of_some hhandler, through_notify]
        exact congrArg some (life_of_none (Table.get?_erase_self ..)).symm
      · intro address hne
        constructor
        · rw [uses_append, helsewhere address hne]
          simp [uses, Observation.use?, hne.symm]
        · unfold life
          rw [Table.get?_erase_of_ne _ hne]

/-- Whatever the event, the step is in order. -/
theorem inOrder_step (installer : Installer p World Native Request) (owned : Owned host)
    (event : Event p Request) :
    InOrder host (host.step installer event) := by
  cases event with
  | attach request preferred directory context options =>
    exact inOrder_attach owned request preferred directory context options
  | fault handler delivery => exact inOrder_fault owned handler delivery
  | handOut handler preferred => exact inOrder_handOut owned handler preferred
  | takeBack handle => exact inOrder_takeBack owned handle
  | drop handler => exact inOrder_drop owned handler

/-! ## Runs -/

/-- What the steps of a run do with the memory at an address, and whether each fails to attach. -/
def usesAll (address : Address) (steps : List (Reply × Trace p)) : List (Bool × List Use) :=
  steps.map fun step => (step.1.isAttachFailed, uses address step.2)

/-- A run is in order for the context at each address. -/
theorem life_run (installer : Installer p World Native Request) (owned : Owned host)
    (events : List (Event p Request)) (address : Address) :
    (host.life address).throughAll (usesAll address (host.run installer events).2) =
        some ((host.run installer events).1.life address) ∧
      (host.run installer events).1.Owned := by
  induction events generalizing host with
  | nil => exact ⟨rfl, owned⟩
  | cons event rest ih =>
    obtain ⟨hlife, howned⟩ := inOrder_step installer owned event
    obtain ⟨hrest, hlast⟩ := ih howned
    have hrun : host.run installer (event :: rest) =
        (((host.step installer event).2.1.run installer rest).1,
          ((host.step installer event).1, (host.step installer event).2.2) ::
            ((host.step installer event).2.1.run installer rest).2) := rfl
    rw [hrun]
    refine ⟨?_, hlast⟩
    rw [usesAll, List.map_cons, Life.throughAll, hlife address, Option.bind_some]
    exact hrest

end Host

end CrashDump
