import CrashDump.DumpId
import CrashDump.PathBuffer.Compose
import CrashDump.Platform
import CrashDump.Proofs.Path
import CrashDump.Proofs.Text.Utf16

/-!
# The name of a dump's file

The last name in the path of a dump is its id with the extension.  It is the name of an entry, in
ASCII and without a nul, and decoding the path leaves it as it is, whatever the directory.
-/

namespace CrashDump

/-! ## The name -/

namespace Uuid

/-- The name of the dump with this id. -/
def fileName (id : Uuid) : List UInt8 := id.hyphenated ++ extension

theorem mem_hyphenated {id : Uuid} {b : UInt8} (h : b ∈ id.hyphenated) :
    b = hyphen ∨ ∃ digit, b = digitByte digit := by
  have hdigit : ∀ b ∈ id.digits.toList.map digitByte, ∃ digit, b = digitByte digit := by
    intro b hb
    obtain ⟨digit, -, hdigit⟩ := List.mem_map.mp hb
    exact ⟨digit, hdigit.symm⟩
  unfold hyphenated at h
  simp only [List.mem_append, List.mem_cons] at h
  rcases h with h | h | h | h | h | h | h | h | h
  · exact .inr (hdigit b (List.mem_of_mem_take h))
  · exact .inl h
  · exact .inr (hdigit b (List.mem_of_mem_drop (List.mem_of_mem_take h)))
  · exact .inl h
  · exact .inr (hdigit b (List.mem_of_mem_drop (List.mem_of_mem_take h)))
  · exact .inl h
  · exact .inr (hdigit b (List.mem_of_mem_drop (List.mem_of_mem_take h)))
  · exact .inl h
  · exact .inr (hdigit b (List.mem_of_mem_drop h))

/-- The bytes of a name are ASCII, and neither a separator nor a nul. -/
theorem of_mem_fileName {id : Uuid} {b : UInt8} (h : b ∈ id.fileName) :
    b ≠ Path.separator ∧ b ≠ 0 ∧ b < 0x80 := by
  have hdigits : ∀ digit : Fin 16,
      digitByte digit ≠ Path.separator ∧ digitByte digit ≠ 0 ∧ digitByte digit < 0x80 := by
    decide +kernel
  have hextension : ∀ b ∈ extension, b ≠ Path.separator ∧ b ≠ 0 ∧ b < 0x80 := by
    intro b h
    simp only [extension, List.mem_cons, List.not_mem_nil, or_false] at h
    rcases h with rfl | rfl | rfl | rfl <;> decide
  rcases List.mem_append.mp h with h | h
  · rcases mem_hyphenated h with rfl | ⟨digit, rfl⟩
    · decide
    · exact hdigits digit
  · exact hextension b h

theorem length_fileName (id : Uuid) : id.fileName.length = 40 := by
  unfold fileName
  rw [List.length_append, length_hyphenated]
  rfl

theorem isEntry_fileName (id : Uuid) : Path.IsEntry id.fileName := by
  have hlength := length_fileName id
  constructor
  · intro h
    rw [h] at hlength
    cases hlength
  · intro h
    exact (of_mem_fileName h).1 rfl
  · intro h
    rw [h] at hlength
    cases hlength
  · intro h
    rw [h] at hlength
    cases hlength
  · rw [hlength]
    decide

theorem digitByte_injective {first second : Fin 16} (h : digitByte first = digitByte second) :
    first = second := by
  have hall : ∀ first second, digitByte first = digitByte second → first = second := by
    decide +kernel
  exact hall first second h

/-- The groups of digits make up the digits. -/
theorem groups_append (bytes : List UInt8) :
    bytes.take 8 ++ ((bytes.drop 8).take 4 ++ ((bytes.drop 12).take 4 ++
      ((bytes.drop 16).take 4 ++ bytes.drop 20))) = bytes := by
  rw [show bytes.drop 20 = (bytes.drop 16).drop 4 by rw [List.drop_drop], List.take_append_drop,
    show bytes.drop 16 = (bytes.drop 12).drop 4 by rw [List.drop_drop], List.take_append_drop,
    show bytes.drop 12 = (bytes.drop 8).drop 4 by rw [List.drop_drop], List.take_append_drop,
    List.take_append_drop]

/-- Without the hyphens, what is left are the digits. -/
theorem filter_hyphenated (id : Uuid) :
    id.hyphenated.filter (· ≠ hyphen) = id.digits.toList.map digitByte := by
  have hdigit : ∀ digit, digitByte digit ≠ hyphen := by
    decide +kernel
  have hkept : ∀ bytes ⊆ id.digits.toList.map digitByte, bytes.filter (· ≠ hyphen) = bytes := by
    intro bytes hbytes
    refine List.filter_eq_self.mpr fun b hb => ?_
    obtain ⟨digit, -, rfl⟩ := List.mem_map.mp (hbytes hb)
    exact decide_eq_true (hdigit digit)
  have htake (n m : Nat) : ((id.digits.toList.map digitByte).drop n).take m ⊆
      id.digits.toList.map digitByte :=
    List.Subset.trans (List.take_subset m _) (List.drop_subset n _)
  unfold hyphenated
  simp only [List.filter_append, List.filter_cons, ne_eq, not_true_eq_false, decide_false,
    Bool.false_eq_true, if_false]
  rw [hkept _ (List.take_subset 8 _), hkept _ (htake 8 4), hkept _ (htake 12 4),
    hkept _ (htake 16 4), hkept _ (List.drop_subset 20 _), groups_append]

/-- Different ids make different names. -/
theorem fileName_injective {first second : Uuid} (h : first.fileName = second.fileName) :
    first = second := by
  have hhyphenated : first.hyphenated = second.hyphenated := List.append_cancel_right h
  have hdigits := congrArg (List.filter (· ≠ hyphen)) hhyphenated
  rw [filter_hyphenated, filter_hyphenated] at hdigits
  have hvector : first.digits.toList = second.digits.toList :=
    (List.map_inj_right fun _ _ => digitByte_injective).mp hdigits
  cases first
  cases second
  congr
  exact Vector.toList_inj.mp hvector

theorem isAscii_hyphenated (id : Uuid) : Text.Utf16.IsAscii id.hyphenated :=
  fun _ h => (of_mem_fileName (List.mem_append_left extension h)).2.2

end Uuid

/-! ## The path -/

/-- What stands behind the directory in the path of a dump. -/
def dumpSuffix (id : List UInt8) : List UInt8 := Path.separator :: (id ++ extension)

theorem isAscii_dumpSuffix {id : List UInt8} (ascii : Text.Utf16.IsAscii id) :
    Text.Utf16.IsAscii (dumpSuffix id) := by
  have hextension : Text.Utf16.IsAscii (Path.separator :: extension) := by decide
  intro b h
  rcases List.mem_cons.mp h with rfl | h
  · exact hextension _ List.mem_cons_self
  · rcases List.mem_append.mp h with h | h
    · exact ascii b h
    · exact hextension b (List.mem_cons_of_mem _ h)

theorem dumpPath_map {U : Type} [CodeUnit U] (directory : List U) (id : List UInt8) :
    dumpPath directory (id.map CodeUnit.ofByte) =
      directory ++ (dumpSuffix id).map CodeUnit.ofByte := by
  unfold dumpPath dumpSuffix
  rw [List.map_cons, List.map_append]

theorem dumpPath_bytes (directory : Path) (id : Uuid) :
    dumpPath directory id.units = directory ++ Path.separator :: id.fileName := by
  have hsuffix : (dumpSuffix id.hyphenated).map (CodeUnit.ofByte : UInt8 → UInt8) = _ :=
    List.map_id (dumpSuffix id.hyphenated)
  have hpath := dumpPath_map directory id.hyphenated
  rwa [hsuffix] at hpath

/-- A decoded path ends in what stands behind the directory, whatever the directory. -/
theorem decode_dumpPath_ascii (p : Platform) (directory : List p.PathUnit) {id : List UInt8}
    (ascii : Text.Utf16.IsAscii id) :
    p.codec.decode (dumpPath directory (id.map CodeUnit.ofByte)) =
      p.codec.decode directory ++ dumpSuffix id := by
  rw [dumpPath_map]
  cases p with
  | linux => exact congrArg (directory ++ ·) (List.map_id (dumpSuffix id))
  | mac => exact congrArg (directory ++ ·) (List.map_id (dumpSuffix id))
  | windows => exact Codec.utf16_decode_append_ascii directory (isAscii_dumpSuffix ascii)

/-- It ends in the name of the dump. -/
theorem decode_dumpPath (p : Platform) (directory : List p.PathUnit) (id : Uuid) :
    p.codec.decode (dumpPath directory id.units) =
      p.codec.decode directory ++ Path.separator :: id.fileName :=
  decode_dumpPath_ascii p directory id.isAscii_hyphenated

/-- A nul in the path of a dump is one in its directory. -/
theorem nul_mem_dumpPath_iff (directory : Path) (id : Uuid) :
    0 ∈ directory ++ Path.separator :: id.fileName ↔ 0 ∈ directory := by
  rw [List.mem_append, List.mem_cons]
  constructor
  · intro h
    rcases h with h | h | h
    · exact h
    · cases h
    · exact absurd rfl (Uuid.of_mem_fileName h).2.1
  · exact .inl

end CrashDump
