import CrashDump.Proofs.DirectoryRoom
import CrashDump.Proofs.PathBuffer.Panics

/-!
# Paths and the width of words

No directory that lies in memory makes the arithmetic on paths overflow a word, however long it is.
An attach computes the room that a dump's path takes in the directory before it looks at anything
else, so a directory for which the sum came out too small would be accepted.  The sum does not come
out too small: the attach refuses the directory.

* `NextDump.recomposeChecked`: composing the path of the next dump, in machine words.
* `Host.attachChecked`: an attach, in machine words.
* `path_words`: neither panics, nor does any call of a path buffer but one.
-/

namespace CrashDump

open PathBuffer

/-! ## Composing the next path -/

/-- Composes a dump's path in a buffer, which is left empty if there is no room.  Every sum is taken
in machine words. -/
def NextDump.recomposeChecked {U : Type} {capacity : Nat} [CodeUnit U]
    (path : PathBuffer U capacity) (directory : List U) (id : Uuid) :
    Except Panic (PathBuffer U capacity) :=
  match (Checked.compose directory id.units).run path with
  | .ok _ path => .ok path
  | .error (.capacity _) path => .ok path.cleared
  | .error (.panic cause) _ => .error cause

theorem NextDump.recomposeChecked_eq {U : Type} {capacity : Nat} [CodeUnit U]
    (addressable : capacity ≤ Word.maxLength) {directory : List U}
    (short : directory.length ≤ Word.maxLength) (path : PathBuffer U capacity) (id : Uuid) :
    recomposeChecked path directory id = .ok (recompose path directory id) := by
  have shortId : (id.units : List U).length ≤ Word.maxLength := by
    rw [Uuid.length_units]
    decide
  rw [recomposeChecked, recompose, run_compose_checked addressable short shortId,
    EStateM.run_adaptExcept]
  cases (compose directory id.units).run path with
  | ok _ after => rfl
  | error cause after => rfl

/-! ## Attaching -/

namespace Host

variable {p : Platform} {World Native Request : Type}

/-- Attaches a handler, where the room for the paths of its dumps is computed in machine words. -/
def attachChecked (installer : Installer p World Native Request) (request : Request)
    (address : Address) (directory : List p.PathUnit) (context : HandlerContext)
    (options : InstallOptions) (host : Host World Native) :
    Except Panic (Except AttachError Unit × Host World Native × Trace p) := do
  let required ← Checked.requiredUnits directory.length
  if required > p.maxPathUnits then
    let least ← Checked.requiredUnits 0
    return (.error (.pathTooLong directory.length (p.maxPathUnits - least)), host, [])
  match installer.install request directory address options host.world with
  | (.ok native, world) =>
    return (.ok (),
      { host with
        world := world
        contexts := host.contexts.insert address context
        handlers := host.handlers.insert address ⟨native, none⟩ },
      [.contextAllocated address, .logged (.attached directory.length)])
  | (.error cause, world) =>
    return (.error cause, { host with world := world },
      [.contextAllocated address, .contextFreed address])

/-- Subtracting the least room from the capacity leaves a number. -/
theorem requiredUnits_zero_le (p : Platform) : requiredUnits 0 ≤ p.maxPathUnits := by
  cases p <;> decide

variable (installer : Installer p World Native Request) (request : Request) (address : Address)
  {directory : List p.PathUnit} (context : HandlerContext) (options : InstallOptions)
  (host : Host World Native)

/-- An attach does not panic on a directory that lies in memory. -/
theorem attachChecked_eq (short : directory.length ≤ Word.maxLength) :
    host.attachChecked installer request address directory context options =
      .ok (host.attach installer request address directory context options) := by
  have hrequired := Checked.requiredUnits_of_lt (Checked.add_lt_limit_of_le short)
  have hleast := Checked.requiredUnits_of_lt (Checked.add_lt_limit_of_le (Nat.zero_le _))
  unfold attachChecked attach maxDirectory
  rw [hrequired, hleast]
  show (if _ then _ else _ : Except Panic _) = _
  by_cases hlong : requiredUnits directory.length > p.maxPathUnits
  · rw [if_pos hlong, if_pos hlong]
    rfl
  · rw [if_neg hlong, if_neg hlong]
    cases installer.install request directory address options host.world with
    | mk answer world => cases answer <;> rfl

theorem attach_of_too_long (long : maxDirectory p < directory.length) :
    host.attach installer request address directory context options =
      (.error (.pathTooLong directory.length (maxDirectory p)), host, []) := by
  have hlong : requiredUnits directory.length > p.maxPathUnits := by
    rw [gt_iff_lt, ← Nat.not_le, requiredUnits_le_iff]
    exact Nat.not_le.mpr long
  simp only [attach, if_pos hlong]

end Host

/-! ## All of it -/

/-- Nothing that is computed for paths leaves the words or the cells, if all that is given lies in
memory.  The room for a path overflows a word only for the 42 greatest lengths that a word holds,
which are out of memory's reach.  In every state that calls of a path buffer leave, the end of the
path, the length of anything in memory and a terminator add up to a word, and the path is inside the
cells.  No call panics but one: to ask for a terminator where there is no cell.  An attach does not
panic on any directory, nor does naming the next dump; a directory that leaves no room for a dump's
name is refused, however long it is. -/
theorem path_words :
    (∀ length,
      (Checked.requiredUnits length = .error .additionOverflow ↔ Word.limit - 43 < length) ∧
      (length ≤ Word.maxLength → requiredUnits length < Word.limit ∧
        Checked.requiredUnits length = .ok (requiredUnits length))) ∧
    (∀ (U : Type) [CodeUnit U] (capacity : Nat) (calls : List (Call U)),
      capacity ≤ Word.maxLength → (∀ call ∈ calls, call.Addressable) →
      let outcome := answerAll (calls.map Call.performChecked) (new : PathBuffer U capacity)
      outcome.2.length ≤ capacity - 1 ∧
      (∀ length, length ≤ Word.maxLength → outcome.2.length + length + 1 < Word.limit) ∧
      Checked.contents.run outcome.2 = .ok outcome.2.contents outcome.2 ∧
      List.Forall₂ (fun call answer => ∀ cause, answer = .error (.panic cause) ↔
        call = .terminated ∧ capacity = 0 ∧ cause = .indexOutOfBounds 0 0) calls outcome.1) ∧
    (∀ (p : Platform) (directory : List p.PathUnit), directory.length ≤ Word.maxLength →
      (∀ (World Native Request : Type) (installer : Installer p World Native Request)
        (request : Request) (address : Address) (context : HandlerContext)
        (options : InstallOptions) (host : Host World Native),
        host.attachChecked installer request address directory context options =
          .ok (host.attach installer request address directory context options) ∧
        (Host.maxDirectory p < directory.length →
          host.attach installer request address directory context options =
            (.error (.pathTooLong directory.length (Host.maxDirectory p)), host, []))) ∧
      ∀ (path : PathBuffer p.PathUnit p.maxPathUnits) (id : Uuid),
        NextDump.recomposeChecked path directory id =
          .ok (NextDump.recompose path directory id)) ∧
    ∀ p : Platform, requiredUnits 0 ≤ p.maxPathUnits := by
  refine ⟨fun length => ⟨Checked.requiredUnits_eq_error_iff, fun short => ?_⟩, ?_, ?_,
    Host.requiredUnits_zero_le⟩
  · exact ⟨Checked.add_lt_limit_of_le short,
      Checked.requiredUnits_of_lt (Checked.add_lt_limit_of_le short)⟩
  · intro U _ capacity calls addressable short outcome
    obtain ⟨hanswers, hshows⟩ := answerAll_alike
      (fun call h => Call.matches_checked addressable (short call h))
      (shows_nil (rfl : (new : PathBuffer U capacity).length = 0))
    have inside : outcome.2.length ≤ capacity - 1 := hshows.length ▸ hshows.length_le
    refine ⟨inside, fun length hlength => Word.sum_lt_limit (by omega) hlength,
      Checked.run_contents inside, ?_⟩
    rw [hanswers]
    exact forall₂_answerAll (fun call list => Call.panics_iff call list) calls []
  · intro p directory short
    have addressable : p.maxPathUnits ≤ Word.maxLength := by cases p <;> decide
    exact ⟨fun World Native Request installer request address context options host =>
      ⟨Host.attachChecked_eq installer request address context options host short,
        Host.attach_of_too_long installer request address context options host⟩,
      NextDump.recomposeChecked_eq addressable short⟩

/-- The greatest word whose room fits, and the next one; a terminator in no cells; and the shortest
directory that is refused. -/
theorem path_words_boundary :
    let calls : List (Call UInt8) := [.append [], .terminated]
    let outcome := answerAll (calls.map Call.performChecked) (new : PathBuffer UInt8 0)
    let host : Host (Machine .windows) NativeHandler :=
      .initial (.initial .windows (.ofWorkingDirectory []) (.fromSeed 0))
    let directory : List Platform.windows.PathUnit := List.replicate 983 0x2F
    Checked.requiredUnits (Word.limit - 43) ≠ .error .additionOverflow ∧
      Checked.requiredUnits (Word.limit - 42) = .error .additionOverflow ∧
      outcome.1 = [.error (.capacity .exceeded), .error (.panic (.indexOutOfBounds 0 0))] ∧
      (∀ length, length ≤ Word.maxLength → outcome.2.length + length + 1 < Word.limit) ∧
      host.attachChecked (Machine.installer .windows) none 0x10 directory (.client 1 0)
        ⟨true, true⟩ = .ok (.error (.pathTooLong 983 982), host, []) := by
  intro calls outcome host directory
  obtain ⟨hrequired, hcalls, hattach, -⟩ := path_words
  have short : ∀ call ∈ calls, call.Addressable := by
    simp [calls, Call.Addressable]
  have hlength : directory.length = 983 := List.length_replicate
  have inMemory : directory.length ≤ Word.maxLength := by
    rw [hlength]
    decide
  obtain ⟨hchecked, hrefused⟩ := (hattach .windows directory inMemory).1 _ _ _
    (Machine.installer .windows) none 0x10 (.client 1 0) ⟨true, true⟩ host
  refine ⟨mt (hrequired _).1.mp (by decide), (hrequired _).1.mpr (by decide), rfl,
    (hcalls UInt8 0 calls (by decide) short).2.1, ?_⟩
  rw [hchecked, hrefused (by rw [hlength]; decide), hlength]
  rfl

end CrashDump
