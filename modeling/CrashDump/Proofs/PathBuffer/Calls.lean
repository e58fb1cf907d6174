import CrashDump.Proofs.PathBuffer.MachineWords

/-!
# Calls of a path buffer

Every sequence of calls finds a path buffer to be a bounded list: each call is answered as the same
call of a list is, and what is seen of the buffer afterwards is that list.  It makes no difference
what the cells held before, nor that sums are taken in machine words.

* `Call`: the uses of a buffer, with what each does to a buffer (`perform`), to a buffer in machine
  words (`performChecked`) and to a list (`performListed`).
* `Call.matches_listed` and `Call.matches_checked`: what one call does.
* `boundedList_answerAll`: what all sequences of calls do.
-/

namespace CrashDump

variable {U ε S T : Type} {capacity : Nat}

/-! ## Calls -/

/-- An edit that gives no units back. -/
def silent (edit : EStateM ε S Unit) : EStateM ε S (List U) := do
  edit
  pure []

/-- A state takes the place of another, if there is one. -/
def takeOver (made : Option S) : EStateM PathBuffer.Checked.Stop S (List U) := fun state =>
  match made with
  | some made => .ok [] made
  | none => .error (.capacity .exceeded) state

namespace PathBuffer

open Checked (Stop)

/-- A use of a path buffer. -/
inductive Call (U : Type) where
  /-- A new buffer takes the place of the buffer. -/
  | new
  /-- The default buffer does. -/
  | default
  /-- A buffer that holds the given path does, if there is one. -/
  | ofList (units : List U)
  | clear
  | push (unit : U)
  | append (units : List U)
  | appendBytes (bytes : List UInt8)
  | compose (directory id : List U)
  /-- The path is asked for with its terminator. -/
  | terminated

namespace Call

section

variable [CodeUnit U]

/-- What a call does to a buffer, and the units that it gives back. -/
def perform : Call U → EStateM Stop (PathBuffer U capacity) (List U)
  | new => takeOver (some PathBuffer.new)
  | default => takeOver (some Inhabited.default)
  | ofList units => takeOver (ofList? units)
  | clear => silent (PathBuffer.clear.adaptExcept .capacity)
  | push unit => silent ((PathBuffer.push unit).adaptExcept .capacity)
  | append units => silent ((PathBuffer.append units).adaptExcept .capacity)
  | appendBytes bytes => silent ((PathBuffer.appendBytes bytes).adaptExcept .capacity)
  | compose directory id => silent ((PathBuffer.compose directory id).adaptExcept .capacity)
  | terminated => fun buffer => .ok buffer.terminated.1 buffer.terminated.2

/-- What it does in machine words. -/
def performChecked : Call U → Checked.Edit U capacity (List U)
  | new => takeOver (some PathBuffer.new)
  | default => takeOver (some Inhabited.default)
  | ofList units => fun buffer =>
    match (Checked.append units).run (PathBuffer.new : PathBuffer U capacity) with
    | .ok _ made => .ok [] made
    | .error stop _ => .error stop buffer
  | clear => silent Checked.clear
  | push unit => silent (Checked.push unit)
  | append units => silent (Checked.append units)
  | appendBytes bytes => silent (Checked.appendBytes bytes)
  | compose directory id => silent (Checked.compose directory id)
  | terminated => Checked.terminated

/-- What it does to a list. -/
def performListed (capacity : Nat) : Call U → BoundedList.Edit U (List U)
  | new => takeOver (some [])
  | default => takeOver (some [])
  | ofList units => takeOver (BoundedList.ofList? capacity units)
  | clear => silent BoundedList.clear
  | push unit => silent (BoundedList.push capacity unit)
  | append units => silent (BoundedList.append capacity units)
  | appendBytes bytes => silent (BoundedList.appendBytes capacity bytes)
  | compose directory id => silent (BoundedList.compose capacity directory id)
  | terminated => BoundedList.terminated capacity

end

/-- What the call is given lies in memory. -/
def Addressable : Call U → Prop
  | ofList units => units.length ≤ Word.maxLength
  | append units => units.length ≤ Word.maxLength
  | appendBytes bytes => bytes.length ≤ Word.maxLength
  | compose directory id => directory.length ≤ Word.maxLength ∧ id.length ≤ Word.maxLength
  | _ => True

/-! ## One call -/

theorem matches_silent {keeps : S → T → Prop} {edit : EStateM ε S Unit}
    {other : EStateM ε T Unit} (h : Matches keeps edit other) :
    Matches keeps (silent edit : EStateM ε S (List U)) (silent other) :=
  h.bind fun _ => .pure []

theorem matches_takeOver {keeps : S → T → Prop} {made : Option S} {other : Option T}
    (h : Option.Rel keeps made other) :
    Matches keeps (takeOver made : EStateM Stop S (List U)) (takeOver other) := by
  intro first second kept
  cases h with
  | some kept => exact .ok [] kept
  | none => exact .error _ kept

variable [CodeUnit U]

/-- A buffer that holds a path is there just if there is a list of it. -/
theorem rel_ofList? (units : List U) :
    Option.Rel Shows (PathBuffer.ofList? units : Option (PathBuffer U capacity))
      (BoundedList.ofList? capacity units) := by
  have hlength : (PathBuffer.new : PathBuffer U capacity).length + units.length = units.length :=
    Nat.zero_add units.length
  unfold PathBuffer.ofList? BoundedList.ofList?
  rcases Nat.lt_or_ge capacity (units.length + 1) with hlt | hle
  · rw [run_append_of_lt (by rwa [hlength]), if_neg (Nat.not_le.mpr hlt)]
    exact .none
  · obtain ⟨made, hrun, hcontents, hmade⟩ :=
      run_append_of_le (PathBuffer.new : PathBuffer U capacity) units (by rwa [hlength])
    rw [contents_new, List.nil_append] at hcontents
    rw [hlength] at hmade
    rw [hrun, if_pos hle]
    exact .some (.of_contents hcontents (hmade ▸ Nat.le_sub_one_of_lt hle))

/-- A call does to a list what it does to a buffer, unless it asks for a terminator where there is no
cell. -/
theorem matches_listed {call : Call U} (defined : capacity = 0 → call ≠ terminated) :
    Matches Shows (call.perform : EStateM Stop (PathBuffer U capacity) (List U))
      (call.performListed capacity) := by
  cases call with
  | new => exact matches_takeOver (.some (shows_nil rfl))
  | default => exact matches_takeOver (.some (shows_nil rfl))
  | ofList units => exact matches_takeOver (rel_ofList? units)
  | clear => exact matches_silent matches_clear
  | push unit => exact matches_silent (matches_append [unit])
  | append units => exact matches_silent (matches_append units)
  | appendBytes bytes => exact matches_silent (matches_appendBytes bytes)
  | compose directory id => exact matches_silent (matches_compose directory id)
  | terminated => exact matches_terminated (Nat.pos_of_ne_zero fun hzero => defined hzero rfl)

theorem matches_ofList (addressable : capacity ≤ Word.maxLength) {units : List U}
    (short : units.length ≤ Word.maxLength) :
    Matches Checked.Same
      ((ofList units).performChecked : Checked.Edit U capacity (List U)) (ofList units).perform := by
  rintro buffer _ ⟨rfl, inside⟩
  have hmade := Checked.matches_append addressable short (PathBuffer.new : PathBuffer U capacity)
    .new (.intro (Nat.zero_le _))
  rw [EStateM.run_adaptExcept] at hmade
  simp only [perform, performChecked, takeOver, ofList?, EStateM.run] at hmade ⊢
  generalize Checked.append units PathBuffer.new = checked at hmade ⊢
  cases happend : PathBuffer.append units (PathBuffer.new : PathBuffer U capacity) with
  | ok _ made =>
    rw [happend] at hmade
    cases hmade with
    | ok _ same => exact .ok [] same
  | error cause _ =>
    rw [happend] at hmade
    cases hmade with
    | error _ _ => exact .error _ (.intro inside)

/-- In machine words a call does the same, unless it asks for a terminator. -/
theorem matches_plain (addressable : capacity ≤ Word.maxLength) {call : Call U}
    (short : call.Addressable) (plain : call ≠ terminated) :
    Matches Checked.Same (call.performChecked : Checked.Edit U capacity (List U))
      call.perform := by
  have hnew : Checked.Same (PathBuffer.new : PathBuffer U capacity) .new :=
    .intro (Nat.zero_le _)
  cases call with
  | new => exact matches_takeOver (.some hnew)
  | default => exact matches_takeOver (.some hnew)
  | ofList units => exact matches_ofList addressable short
  | clear => exact matches_silent Checked.matches_clear
  | push unit => exact matches_silent (Checked.matches_push addressable unit)
  | append units => exact matches_silent (Checked.matches_append addressable short)
  | appendBytes bytes => exact matches_silent (Checked.matches_appendBytes addressable short)
  | compose directory id =>
    exact matches_silent (Checked.matches_compose addressable short.1 short.2)
  | terminated => exact absurd rfl plain

/-- In machine words, every call does to a list what it does to a buffer. -/
theorem matches_checked (addressable : capacity ≤ Word.maxLength) {call : Call U}
    (short : call.Addressable) :
    Matches Shows (call.performChecked : Checked.Edit U capacity (List U))
      (call.performListed capacity) := by
  by_cases plain : call = terminated
  · subst plain
    exact Checked.matches_terminated addressable
  · exact Checked.matches_list (matches_plain addressable short plain)
      (matches_listed fun _ => plain)

end Call

/-! ## All calls -/

variable [CodeUnit U]

/-- Whatever the cells of an empty buffer hold, every sequence of calls is answered as by a list
without units, and what is seen of the buffer at the end is the list at the end.  This holds in
machine words, if nothing is longer than memory allows, and then widening bytes one by one is the
same as adding them widened.  It holds without regard to words, too, unless a terminator is asked for
where there is no cell. -/
theorem boundedList_answerAll (start : PathBuffer U capacity) (empty : start.length = 0)
    (calls : List (Call U)) :
    let listed := answerAll (calls.map (Call.performListed capacity)) []
    (capacity ≤ Word.maxLength → (∀ call ∈ calls, call.Addressable) →
      let checked := answerAll (calls.map Call.performChecked) start
      checked.1 = listed.1 ∧ checked.2.Shows listed.2 ∧
      ∀ bytes, bytes.length ≤ Word.maxLength →
        (Checked.appendBytes bytes).run checked.2 =
          (Checked.append (bytes.map CodeUnit.ofByte)).run checked.2) ∧
    ((capacity = 0 → .terminated ∉ calls) →
      let plain := answerAll (calls.map Call.perform) start
      plain.1 = listed.1 ∧ plain.2.Shows listed.2) := by
  refine ⟨fun addressable short => ?_, fun defined => ?_⟩
  · obtain ⟨hanswers, hshows⟩ := answerAll_alike
      (fun call h => Call.matches_checked addressable (short call h)) (shows_nil empty)
    refine ⟨hanswers, hshows, fun bytes hbytes => ?_⟩
    exact Checked.run_appendBytes addressable (hshows.length ▸ hshows.length_le) hbytes
  · refine answerAll_alike (fun call h => Call.matches_listed fun hzero => ?_) (shows_nil empty)
    rintro rfl
    exact defined hzero h

section

/-- An empty buffer of four cells that were in use before. -/
def stale : PathBuffer UInt8 4 where
  cells := [7, 7, 7, 7]
  length := 0
  cells_length := rfl

/-- Calls that succeed with nothing to spare, fail for one unit too many, and fail halfway. -/
def tightCalls : List (Call UInt8) :=
  [.append [1, 2], .terminated, .append [3, 4], .push 3, .push 4, .terminated, .clear,
    .appendBytes [5], .terminated, .compose [6] [], .terminated, .ofList [1, 2, 3, 4],
    .ofList [8], .terminated]

/-- What is answered: the path each time it is asked for, and none of the sevens. -/
def tightAnswers : List (Except Stop (List UInt8)) :=
  [.ok [], .ok [1, 2, 0], .error (.capacity .exceeded), .ok [], .error (.capacity .exceeded),
    .ok [1, 2, 3, 0], .ok [], .ok [], .ok [5, 0], .error (.capacity .exceeded), .ok [6, 0x2F, 0],
    .error (.capacity .exceeded), .ok [], .ok [8, 0]]

/-- In four cells, and without a cell. -/
theorem boundedList_stale :
    (answerAll (tightCalls.map Call.performChecked) stale).1 = tightAnswers ∧
    (answerAll (tightCalls.map Call.perform) stale).1 = tightAnswers ∧
    (answerAll ([.append [], .terminated, .ofList []].map Call.performChecked)
        (new : PathBuffer UInt8 0)).1 =
      [.error (.capacity .exceeded), .error (.panic (.indexOutOfBounds 0 0)),
        .error (.capacity .exceeded)] := by
  have short : ∀ call ∈ tightCalls, call.Addressable := by
    simp [tightCalls, Call.Addressable, Word.maxLength]
  have shortToo : ∀ call ∈ [.append [], .terminated, .ofList ([] : List UInt8)],
      Call.Addressable call := by
    simp [Call.Addressable]
  refine ⟨?_, ?_, ?_⟩
  · exact ((boundedList_answerAll stale rfl tightCalls).1 (by decide) short).1
  · exact ((boundedList_answerAll stale rfl tightCalls).2 fun h => nomatch h).1
  · exact ((boundedList_answerAll new rfl _).1 (by decide) shortToo).1

end

end PathBuffer

end CrashDump
