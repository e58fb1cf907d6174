import CrashDump.Proofs.Application.Draws
import CrashDump.Proofs.Delivery

/-!
# Attaches that fail

An attach that fails leaves nothing behind but a drawn id and, if it is a typed one, the directory
that it made.  Whatever happens later happens as it would without the attach, under a source that
does not have that id.

* `residue`: what a failed attach leaves done.
* `Untouched`: two applications are equal but for their files and ids.
* `exists_after_eq_of_refusal`: the application after a failed attach.
* `IdSource.skip`: the source without the id of one turn.
* `refusal_afterRun`: a run with a failed attach, and the run without it.
-/

namespace CrashDump

variable {p : Platform}

namespace Application

variable {app : Application p} {roster : Roster p} {event : Event p}

/-! ## One step -/

/-- The event asks for a handler. -/
def Event.isAttach : Event p → Bool
  | .attachRaw _ _ _ _ _ _ => true
  | .attachOwned _ _ _ _ _ => true
  | .attachTyped _ _ _ _ => true
  | _ => false

/-- What is refused is an attach. -/
theorem isAttach_of_refusal (refusal : (app.replyTo event).IsRefusal) :
    event.isAttach = true := by
  have hfault {answer : Option Bool} : ¬ (Reply.ofFault answer).IsRefusal := by
    cases answer <;> exact id
  cases event with
  | attachRaw | attachOwned | attachTyped => rfl
  | detachRaw handle =>
    have h : (Reply.ofDetach (app.detachRaw handle).1).IsRefusal := refusal
    cases hanswer : (app.detachRaw handle).1 <;> rw [hanswer] at h <;> exact h.elim
  | drop handler =>
    simp only [replyTo, step] at refusal
    split at refusal <;> exact refusal.elim
  | simulate | crash => exact absurd refusal hfault
  | writeFile path contents =>
    simp only [replyTo, step] at refusal
    split at refusal <;> exact refusal.elim
  | abort | setAbortAction | makeDirectories | removeDirectories => exact refusal.elim

theorem reached?_of_isAttach (h : event.isAttach = true) : app.reached? event = none := by
  cases event with
  | attachRaw | attachOwned | attachTyped => rfl
  | _ => cases h

/-- What a failed attach leaves done.  A typed one makes its directory first, unless another is
attached. -/
def residue (app : Application p) : Event p → List (Event p)
  | .attachTyped directory _ _ _ =>
    if app.typedAttached then [] else [.makeDirectories directory]
  | _ => []

theorem files_attach (app : Application p) (address : Address) (directory : List p.PathUnit)
    (context : HandlerContext) (options : InstallOptions) (refusal : Option Refusal) :
    (app.attach address directory context options refusal).2.1.machine.files =
      app.machine.files := by
  rcases attach_cases app address directory context options refusal with
    ⟨cause, h⟩ | ⟨cause, h⟩ | ⟨-, hooked, hhook, h⟩
  · rw [h]
  · rw [h]
    rfl
  · rw [h]
    exact (Machine.frame_hook hhook).2

/-- An attach for a crash event makes its directory. -/
theorem files_attachCrashEvent (app : Application p) (directory : Path) (choice : HandlerChoice)
    (tag : UInt64) (surroundings : Surroundings) :
    (app.attachCrashEvent directory choice tag surroundings).2.1.machine.files =
      (app.machine.files.makeDirectories directory).2 := by
  unfold attachCrashEvent
  cases app.machine.files.makeDirectories directory with
  | mk answer files =>
    cases answer with
    | error cause => rfl
    | ok =>
      have hfiles := files_attach (app.setFiles files)
        ((app.setFiles files).host.nextAddress surroundings.preferred) (p.codec.encode directory)
        (.crashEvent ((app.setFiles files).host.nextAddress surroundings.preferred))
        choice.options surroundings.refusal
      dsimp only
      generalize (app.setFiles files).attach _ _ _ _ _ = result at hfiles ⊢
      obtain ⟨answer, after, trace⟩ := result
      cases answer <;> exact hfiles

/-- So does a typed attach, unless another is attached. -/
theorem files_after_attachTyped (app : Application p) (directory : Path) (choice : HandlerChoice)
    (tag : UInt64) (surroundings : Surroundings) :
    (app.after (.attachTyped directory choice tag surroundings)).machine.files =
      if app.typedAttached then app.machine.files
      else (app.machine.files.makeDirectories directory).2 := by
  have hafter : app.after (.attachTyped directory choice tag surroundings) =
      (app.attachTyped directory choice tag surroundings).2.1 := rfl
  rw [hafter]
  unfold attachTyped
  cases app.typedAttached with
  | true => rfl
  | false =>
    have hfiles := files_attachCrashEvent { app with typedAttached := true } directory choice tag
      surroundings
    simp only [Bool.false_eq_true, if_false]
    generalize attachCrashEvent _ _ _ _ _ = result at hfiles ⊢
    obtain ⟨answer, after, trace⟩ := result
    cases answer <;> exact hfiles

/-- Nothing changed but the files and the source of ids. -/
structure Untouched (app other : Application p) : Prop where
  crashHandler : other.machine.crashHandler = app.machine.crashHandler
  /-- The action of `SIGABRT`, the target of the hook and the action that is kept. -/
  abortSignal : other.machine.abortSignal = app.machine.abortSignal
  targets : other.machine.targets = app.machine.targets
  contexts : other.host.contexts = app.host.contexts
  handlers : other.host.handlers = app.host.handlers
  registry : other.host.registry = app.host.registry
  events : other.events = app.events
  typedAttached : other.typedAttached = app.typedAttached

theorem untouched_residue (app : Application p) (event : Event p) (ids : IdSource) :
    Untouched app ((app.afterAll (app.residue event)).setIds ids) := by
  cases event with
  | attachTyped directory choice tag surroundings =>
    unfold residue
    cases app.typedAttached <;> constructor <;> rfl
  | _ => constructor <;> rfl

/-- All that a failed attach leaves behind is its residue and, perhaps, a drawn id. -/
theorem exists_after_eq_of_refusal (coherent : Coherent app roster)
    (refusal : (app.replyTo event).IsRefusal) :
    ∃ ids, (ids = app.machine.ids ∨ ids = app.machine.ids.advance) ∧
      app.after event = (app.afterAll (app.residue event)).setIds ids := by
  cases transition coherent event with
  | attached _ _ _ _ _ _ reply =>
    rw [reply] at refusal
    exact refusal.elim
  | @refused files ids _ _ _ hfiles hids _ _ hafter _ =>
    refine ⟨ids, hids, ?_⟩
    have hmade : (app.after event).machine.files = files := by
      rw [hafter]
      rfl
    rw [hafter]
    cases event with
    | attachTyped directory choice tag surroundings =>
      rw [files_after_attachTyped] at hmade
      unfold residue
      cases h : app.typedAttached <;> rw [h] at hmade <;> rw [← hmade] <;> rfl
    | _ =>
      obtain rfl : files = app.machine.files := hfiles.elim id id
      rfl
  | detached _ _ _ _ reply =>
    rw [reply] at refusal
    exact refusal.elim
  | faulted _ _ _ _ answers =>
    rcases answers.reply_cases with ⟨_, reply⟩ | ⟨_, _, reply⟩
    · rw [reply] at refusal
      exact refusal.elim
    · rw [reply] at refusal
      exact refusal.elim
  | abandoned _ _ _ reply =>
    rw [reply] at refusal
    exact refusal.elim
  | @quiet files action _ unasked hfiles haction _ _ hafter _ =>
    -- the only attach that is passed a crash event is the typed one
    refine ⟨app.machine.ids, .inl rfl, ?_⟩
    have hattach := isAttach_of_refusal refusal
    have hkept : event.isFileOperation = false ∧ app.residue event = [] ∧
        ∀ action, event ≠ .setAbortAction action := by
      cases event with
      | attachRaw | attachOwned => exact ⟨rfl, rfl, by simp⟩
      | attachTyped => cases unasked
      | _ => cases hattach
    obtain ⟨hkind, hresidue, hset⟩ := hkept
    rw [hkind] at hfiles
    obtain rfl : files = app.machine.files := hfiles.resolve_right (by simp)
    obtain rfl : action = app.machine.abortSignal.action := haction.resolve_right (hset action)
    rw [hafter, hresidue]
    rfl

end Application

/-! ## Runs -/

namespace IdSource

/-- The source that leaves out the id of one turn. -/
def skip (source : IdSource) (turn : Nat) : IdSource :=
  { source with id := fun n => if n < turn then source.id n else source.id (n + 1) }

/-- Before that turn, nothing is left out. -/
theorem agree_skip (source : IdSource) (turns : Nat) :
    Agree turns source (source.skip (source.drawn + turns)) :=
  fun _ hn => if_pos (Nat.add_lt_add_left hn _)

/-- From that turn on, the source is one draw ahead. -/
theorem agree_advance_skip (source : IdSource) (first turns : Nat) :
    Agree turns (source.advanceBy first).advance
      ((source.skip (source.drawn + first)).advanceBy first) := by
  intro n _
  have hnot : ¬ source.drawn + first + n < source.drawn + first := by omega
  have hsame : source.drawn + first + n + 1 = source.drawn + first + 1 + n := by omega
  exact (if_neg hnot).trans (congrArg source.id hsame)

/-- A source that draws the same ids up to some time, and from then on what is drawn after one more
draw, or after none. -/
theorem exists_agree (ids : IdSource) {now spent : IdSource}
    (hspent : spent = now ∨ spent = now.advance) :
    ∃ others : IdSource, (others = ids ∨ others = ids.skip now.drawn) ∧
      ∀ first, now = ids.advanceBy first →
        Agree first ids others ∧ ∀ turns, Agree turns spent (others.advanceBy first) := by
  rcases hspent with rfl | rfl
  · exact ⟨ids, .inl rfl, fun first h => ⟨fun _ _ => rfl, fun _ _ _ => by rw [h]⟩⟩
  · refine ⟨ids.skip now.drawn, .inr rfl, fun first h => ?_⟩
    rw [h]
    exact ⟨ids.agree_skip first, ids.agree_advance_skip first⟩

end IdSource

namespace Application

/-- The two applications are equal but for their sources of ids. -/
def Matches (app other : Application p) : Prop := ∃ ids, other = app.setIds ids

theorem afterAll_residue_setIds (app : Application p) (ids : IdSource) (event : Event p) :
    (app.setIds ids).afterAll (app.residue event) =
      (app.afterAll (app.residue event)).setIds ids := by
  cases event with
  | attachTyped directory choice tag surroundings =>
    unfold residue
    cases app.typedAttached <;> rfl
  | _ => rfl

/-- An attach that fails, whatever the reason and however far it came, changes none of the cells of the
process and no handler, and calls nobody; of the files it changes what its residue does.  There is a source of ids, at most one id short, for
which the same run without the attach, but with its residue, goes the same way before and after it,
and so does every run from there. -/
theorem refusal_afterRun (files : FileSystem) (ids : IdSource) (earlier : List (Event p))
    (event : Event p) (refusal : ((afterRun files ids earlier).replyTo event).IsRefusal) :
    let app := afterRun files ids earlier
    Untouched app (app.after event) ∧
    (app.after event).machine.files = (app.afterAll (app.residue event)).machine.files ∧
    (Roster.afterRun files ids earlier).after app event = .afterRun files ids earlier ∧
    Trace.Silent (app.seen event) ∧
    ∃ others, (others = ids ∨ others = ids.skip app.machine.ids.drawn) ∧
      ((initial p files others).run earlier).2 = ((initial p files ids).run earlier).2 ∧
      ∀ later,
        ((afterRun files others (earlier ++ app.residue event)).run later).2 =
          ((app.after event).run later).2 ∧
        Matches (afterRun files ids (earlier ++ event :: later))
          (afterRun files others (earlier ++ app.residue event ++ later)) := by
  intro app
  have coherent : Coherent app (.afterRun files ids earlier) := coherent_afterRun files ids earlier
  have unreached : app.reached? event = none := reached?_of_isAttach (isAttach_of_refusal refusal)
  obtain ⟨spent, hspent, hafter⟩ := exists_after_eq_of_refusal coherent refusal
  -- the source of the other run, which agrees with this one on both sides of the attach
  obtain ⟨others, hothers, hagree⟩ := ids.exists_agree hspent
  obtain ⟨first, hfirst, hrun⟩ := run_setIds (initial p files ids) others earlier
  obtain ⟨hbefore, hbehind⟩ := hagree first hfirst
  have hearlier : (initial p files others).run earlier =
      (app.setIds (others.advanceBy first), ((initial p files ids).run earlier).2) := hrun hbefore
  have hresidue : afterRun files others (earlier ++ app.residue event) =
      (app.after event).setIds (others.advanceBy first) := by
    have happ : (initial p files others).afterAll earlier =
        app.setIds (others.advanceBy first) := congrArg Prod.fst hearlier
    rw [afterRun, afterAll_append, happ, afterAll_residue_setIds, hafter]
    rfl
  refine ⟨by rw [hafter]; exact untouched_residue app event spent, by rw [hafter]; rfl,
    Roster.after_of_refused refusal unreached, (transition coherent event).silent unreached,
    others, hothers, by rw [hearlier], ?_⟩
  intro later
  obtain ⟨turns, -, hlater⟩ := run_setIds (app.after event) (others.advanceBy first) later
  have hids : (app.after event).machine.ids = spent := by
    rw [hafter]
    rfl
  rw [hids] at hlater
  have hsame := hlater (hbehind turns)
  rw [← hresidue] at hsame
  refine ⟨by rw [hsame], (others.advanceBy first).advanceBy turns, ?_⟩
  have hthis : afterRun files ids (earlier ++ event :: later) = (app.after event).afterAll later :=
    afterAll_append ..
  rw [hthis, afterRun, afterAll_append]
  exact congrArg Prod.fst hsame

section

/-- An application in which an owned handler is attached. -/
def occupied : Application .linux :=
  afterRun (.ofWorkingDirectory []) (.fromSeed 0)
    [.attachOwned [] 1 0 ⟨true, true⟩ ⟨none, 0x10⟩]

/-- A typed attach that comes after it. -/
def secondAttach : Event .linux := .attachTyped [0x64] .bothHandlers 7 ⟨none, 0x20⟩

/-- An application in which the client handles `SIGABRT`. -/
def handling : Application .mac :=
  afterRun (.ofWorkingDirectory []) (.fromSeed 0) [.setAbortAction .client]

/-- An owned attach that hooks `SIGABRT`.  The system refuses to set the action, with the code of an
argument that makes no sense. -/
def refusedHook : Event .mac :=
  .attachOwned [0x64] 1 0 ⟨false, true⟩ ⟨some (.abortAction Errno.invalidArgument), 0x10⟩

/-- There is no crash handler left for the typed one.  Its directory stays.  The hook that is refused
has been claimed by then, and is free again. -/
theorem refusal_occupied :
    occupied.replyTo secondAttach = .typedFailed (.handler (.install .alreadyInstalled)) ∧
      Untouched occupied (occupied.after secondAttach) ∧
      (occupied.after secondAttach).machine.files.isDirectory [0x64] = true ∧
      handling.replyTo refusedHook = .attachFailed (.signalHook (.system Errno.invalidArgument)) ∧
      Untouched handling (handling.after refusedHook) := by
  have hreply : occupied.replyTo secondAttach =
      .typedFailed (.handler (.install .alreadyInstalled)) := rfl
  obtain ⟨untouched, hfiles, -⟩ := refusal_afterRun (.ofWorkingDirectory []) (.fromSeed 0)
    [.attachOwned [] 1 0 ⟨true, true⟩ ⟨none, 0x10⟩] secondAttach trivial
  have hdirectory : (occupied.after secondAttach).machine.files =
      (occupied.afterAll (occupied.residue secondAttach)).machine.files := hfiles
  have hrefused : handling.replyTo refusedHook =
      .attachFailed (.signalHook (.system Errno.invalidArgument)) := rfl
  obtain ⟨unhooked, -⟩ := refusal_afterRun (.ofWorkingDirectory []) (.fromSeed 0)
    [.setAbortAction .client] refusedHook trivial
  refine ⟨hreply, untouched, ?_, hrefused, unhooked⟩
  rw [hdirectory]
  rfl

end

end Application

end CrashDump
