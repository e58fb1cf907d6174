import CrashDump.FileSystem.Basic

/-!
# The last name of a path

A separator cuts a path into what stands in front of it and what stands behind.  If no other
separator follows, what stands behind is the last name.

* `pieces_append_separator` and `names_append_separator`: cutting at a separator.
* `IsEntry`: a name that can only be that of an entry of a directory.
* `names_append_entry`: such a name, behind a separator, is the last one.
-/

namespace CrashDump.Path

/-! ## Pieces and names -/

theorem pieces_ne_nil (path : Path) : pieces path ≠ [] := by
  cases path with
  | nil => simp [pieces]
  | cons b rest =>
    rw [pieces]
    split
    · simp
    · split <;> simp

theorem pieces_append_separator (front back : Path) :
    pieces (front ++ separator :: back) = pieces front ++ pieces back := by
  induction front with
  | nil => simp [pieces]
  | cons b rest ih =>
    rw [List.cons_append, pieces, pieces]
    by_cases hb : b = separator
    · rw [if_pos hb, if_pos hb, ih, List.cons_append]
    · rw [if_neg hb, if_neg hb, ih]
      cases hrest : pieces rest with
      | nil => exact absurd hrest (pieces_ne_nil rest)
      | cons piece more => rfl

theorem names_append_separator (front back : Path) :
    names (front ++ separator :: back) = names front ++ names back := by
  unfold names
  rw [pieces_append_separator, List.filter_append]

/-- Without a separator a path is one piece. -/
theorem pieces_of_not_mem {path : Path} (h : separator ∉ path) : pieces path = [path] := by
  induction path with
  | nil => rfl
  | cons b rest ih =>
    rw [List.mem_cons, not_or] at h
    rw [pieces, if_neg (Ne.symm h.1), ih h.2]

/-! ## Entries -/

/-- A name that the system takes for that of an entry of a directory. -/
structure IsEntry (name : List UInt8) : Prop where
  nonempty : name ≠ []
  one : separator ∉ name
  ne_dot : name ≠ dot
  ne_dotDot : name ≠ dotDot
  short : name.length ≤ FileSystem.maxName

variable {name : List UInt8}

theorem names_append_entry (front : Path) (entry : IsEntry name) :
    names (front ++ separator :: name) = names front ++ [name] := by
  have hname : names name = [name] := by
    unfold names
    rw [pieces_of_not_mem entry.one, List.filter_cons_of_pos (by simpa using entry.nonempty),
      List.filter_nil]
  rw [names_append_separator, hname]

theorem endsInDots_append_entry (front : Path) (entry : IsEntry name) :
    FileSystem.endsInDots (front ++ separator :: name) = false := by
  unfold FileSystem.endsInDots
  rw [names_append_entry front entry, List.getLast?_concat]
  simp [entry.ne_dot, entry.ne_dotDot]

theorem endsInSeparator_append_entry (front : Path) (entry : IsEntry name) :
    endsInSeparator (front ++ separator :: name) = false := by
  unfold endsInSeparator
  obtain ⟨first, last, hlast⟩ := List.eq_nil_or_concat name |>.resolve_left entry.nonempty
  have hne : last ≠ separator := by
    intro h
    apply entry.one
    rw [hlast, ← h]
    simp
  rw [hlast, List.concat_eq_append, ← List.cons_append, ← List.append_assoc, List.getLast?_concat]
  simp [hne]

end CrashDump.Path
