import CrashDump.Proofs.Path

/-!
# Components and the paths put together from them

The components of a path can be put together again: that gives a path with the same components.  So
the parent of a path has just the components that are in front of its last one.

* `Component.IsStep`: a component other than the root.
* `Normal`: what the components of a path look like.
* `components_ofComponents`: what is put together has the same components.
* `components_append_entry`: the name of an entry, behind a separator, is one more component.
* `LiesIn` and `liesIn_append_entry_iff`: a path that is made by writing a name behind a directory
  and a separator is that of an entry of the directory, unless the directory is the empty path.
-/

namespace CrashDump.Path

/-! ## Names -/

theorem separator_not_mem_of_mem_pieces {path : Path} {piece : List UInt8}
    (h : piece ∈ pieces path) : separator ∉ piece := by
  induction path generalizing piece with
  | nil =>
    rw [pieces, List.mem_singleton] at h
    rw [h]
    exact List.not_mem_nil
  | cons b rest ih =>
    rw [pieces] at h
    split at h
    · rcases List.mem_cons.mp h with rfl | h
      · exact List.not_mem_nil
      · exact ih h
    · rename_i hb
      have hne : pieces rest ≠ [] := pieces_ne_nil rest
      cases hpieces : pieces rest with
      | nil => exact absurd hpieces hne
      | cons first more =>
        rw [hpieces] at h ih
        rcases List.mem_cons.mp h with rfl | h
        · rw [List.mem_cons, not_or]
          exact ⟨fun he => hb he.symm, ih List.mem_cons_self⟩
        · exact ih (List.mem_cons_of_mem _ h)

theorem of_mem_names {path : Path} {name : List UInt8} (h : name ∈ names path) :
    name ≠ [] ∧ separator ∉ name := by
  unfold names at h
  rw [List.mem_filter, decide_eq_true_iff] at h
  exact ⟨h.2, separator_not_mem_of_mem_pieces h.1⟩

/-- Without a separator, a path that is not empty is one name. -/
theorem names_of_not_mem {path : Path} (nonempty : path ≠ []) (one : separator ∉ path) :
    names path = [path] := by
  unfold names
  rw [pieces_of_not_mem one, List.filter_cons_of_pos (by simpa using nonempty), List.filter_nil]

/-- A relative path that is not empty starts with a name. -/
theorem names_ne_nil {path : Path} (nonempty : path ≠ []) (relative : path.isAbsolute = false) :
    names path ≠ [] := by
  obtain ⟨b, rest, rfl⟩ := List.exists_cons_of_ne_nil nonempty
  have hb : b ≠ separator := by
    intro h
    rw [h] at relative
    cases relative
  unfold names
  rw [pieces, if_neg hb]
  cases pieces rest with
  | nil => simp
  | cons piece more => simp

/-! ## What components look like -/

/-- The component is one that names stand for, not the root. -/
structure Component.IsStep (component : Component) : Prop where
  ofName : Component.ofName component.name = component
  nonempty : component.name ≠ []
  one : separator ∉ component.name

theorem Component.name_ofName (name : List UInt8) : (Component.ofName name).name = name := by
  unfold Component.ofName
  split
  · subst_vars
    rfl
  · split
    · subst_vars
      rfl
    · rfl

theorem Component.isStep_ofName {name : List UInt8} (nonempty : name ≠ [])
    (one : separator ∉ name) : (Component.ofName name).IsStep where
  ofName := by rw [name_ofName]
  nonempty := by rwa [name_ofName]
  one := by rwa [name_ofName]

theorem Component.ofName_eq_current_iff {name : List UInt8} :
    Component.ofName name = .current ↔ name = dot := by
  unfold Component.ofName
  by_cases hdot : name = dot
  · simp [hdot]
  · by_cases hdots : name = dotDot <;> simp [hdot, hdots]

/-- Steps among which none leads to where one is. -/
def Proceeds (rest : List Component) : Prop :=
  ∀ component ∈ rest, component.IsStep ∧ component ≠ .current

/-- The components of a path: the root may be in front and nowhere else, and so may a dot. -/
def Normal : List Component → Prop
  | [] => True
  | first :: rest => (first = .root ∨ first.IsStep) ∧ Proceeds rest

theorem proceeds_map_ofName {path : Path} {listed : List (List UInt8)}
    (h : ∀ name ∈ listed, name ∈ names path) :
    Proceeds ((listed.filter (· ≠ dot)).map Component.ofName) := by
  intro component hcomponent
  obtain ⟨name, hname, rfl⟩ := List.mem_map.mp hcomponent
  rw [List.mem_filter, decide_eq_true_iff] at hname
  obtain ⟨nonempty, one⟩ := of_mem_names (h name hname.1)
  exact ⟨Component.isStep_ofName nonempty one,
    fun h => hname.2 (Component.ofName_eq_current_iff.mp h)⟩

theorem normal_components (path : Path) : Normal (components path) := by
  unfold components
  split
  · exact ⟨.inl rfl, proceeds_map_ofName fun _ h => h⟩
  · cases hnames : names path with
    | nil => trivial
    | cons first rest =>
      have hmem : ∀ name ∈ first :: rest, name ∈ names path := fun name h => hnames ▸ h
      obtain ⟨nonempty, one⟩ := of_mem_names (hmem first List.mem_cons_self)
      exact ⟨.inr (Component.isStep_ofName nonempty one),
        proceeds_map_ofName fun name h => hmem name (List.mem_cons_of_mem _ h)⟩

/-! ## Putting components together -/

theorem names_ofComponents {steps : List Component} (h : ∀ step ∈ steps, step.IsStep) :
    names (ofComponents steps) = steps.map Component.name := by
  induction steps with
  | nil => rfl
  | cons first rest ih =>
    have hfirst := h first List.mem_cons_self
    have hrest := ih fun step hstep => h step (List.mem_cons_of_mem _ hstep)
    have hname : names first.name = [first.name] := names_of_not_mem hfirst.nonempty hfirst.one
    have hroot : first ≠ .root := by
      rintro rfl
      exact hfirst.nonempty rfl
    cases rest with
    | nil =>
      cases first with
      | root => exact absurd rfl hroot
      | _ => exact hname
    | cons second more =>
      have hput : ofComponents (first :: second :: more) =
          first.name ++ separator :: ofComponents (second :: more) := by
        cases first with
        | root => exact absurd rfl hroot
        | _ => rfl
      rw [hput, names_append_separator, hname, hrest]
      rfl

/-- Names of steps are read back as the steps, and none of them is a dot. -/
theorem map_ofName_of_proceeds {rest : List Component} (proceeds : Proceeds rest) :
    ((rest.map Component.name).filter (· ≠ dot)).map Component.ofName = rest := by
  induction rest with
  | nil => rfl
  | cons step rest ih =>
    obtain ⟨hstep, hcurrent⟩ := proceeds step List.mem_cons_self
    have hdot : step.name ≠ dot := by
      intro h
      rw [← Component.ofName_eq_current_iff, hstep.ofName] at h
      exact hcurrent h
    have hrest := ih fun other h => proceeds other (List.mem_cons_of_mem _ h)
    rw [List.map_cons, List.filter_cons_of_pos (by simpa using hdot), List.map_cons, hstep.ofName,
      hrest]

theorem isAbsolute_ofComponents {first : Component} (step : first.IsStep)
    (rest : List Component) : isAbsolute (ofComponents (first :: rest)) = false := by
  obtain ⟨b, more, hname⟩ := List.exists_cons_of_ne_nil step.nonempty
  have hb : b ≠ separator := by
    intro h
    apply step.one
    rw [hname, h]
    exact List.mem_cons_self
  have hhead : (ofComponents (first :: rest)).head? = some b := by
    cases first with
    | root => exact absurd rfl step.nonempty
    | _ => cases rest <;> simp [ofComponents, hname]
  unfold isAbsolute
  rw [hhead]
  simpa using hb

/-- What is put together from the components of a path has the same components. -/
theorem components_ofComponents {parts : List Component} (normal : Normal parts) :
    components (ofComponents parts) = parts := by
  cases parts with
  | nil => rfl
  | cons first rest =>
    obtain ⟨hfirst, proceeds⟩ := normal
    have hsteps : ∀ step ∈ rest, step.IsStep := fun step h => (proceeds step h).1
    rcases hfirst with rfl | hfirst
    · have hnames : names (ofComponents (.root :: rest)) = rest.map Component.name := by
        have happend := names_append_separator [] (ofComponents rest)
        rw [names_ofComponents hsteps] at happend
        exact happend
      have habsolute : isAbsolute (ofComponents (.root :: rest)) = true := rfl
      rw [components, if_pos habsolute, hnames, map_ofName_of_proceeds proceeds]
    · have hnames : names (ofComponents (first :: rest)) =
          first.name :: rest.map Component.name := by
        refine names_ofComponents fun step h => ?_
        rcases List.mem_cons.mp h with rfl | h
        · exact hfirst
        · exact hsteps step h
      have hrelative : ¬ isAbsolute (ofComponents (first :: rest)) = true := by
        rw [isAbsolute_ofComponents hfirst]
        exact Bool.false_ne_true
      rw [components, if_neg hrelative, hnames]
      simp only [hfirst.ofName, map_ofName_of_proceeds proceeds]

/-! ## One more component -/

theorem IsEntry.ofName {name : List UInt8} (entry : IsEntry name) :
    Component.ofName name = .entry name := by
  rw [Component.ofName, if_neg entry.ne_dot, if_neg entry.ne_dotDot]

variable {name : List UInt8}

/-- The name of an entry, behind a separator, is one more component. -/
theorem components_append_entry {front : Path} (entry : IsEntry name) (nonempty : front ≠ []) :
    components (front ++ separator :: name) = components front ++ [.entry name] := by
  have hhead : isAbsolute (front ++ separator :: name) = isAbsolute front := by
    obtain ⟨b, rest, rfl⟩ := List.exists_cons_of_ne_nil nonempty
    rfl
  have hkept : [name].filter (· ≠ dot) = [name] :=
    List.filter_cons_of_pos (by simpa using entry.ne_dot)
  unfold components
  rw [hhead, names_append_entry front entry]
  cases habsolute : isAbsolute front with
  | true =>
    simp only [if_true, List.filter_append, hkept, List.map_append, List.map_cons, List.map_nil,
      entry.ofName, List.cons_append]
  | false =>
    cases hnames : names front with
    | nil => exact absurd hnames (names_ne_nil nonempty habsolute)
    | cons first rest =>
      simp only [Bool.false_eq_true, if_false, List.cons_append, List.filter_append, hkept,
        List.map_append, List.map_cons, List.map_nil, entry.ofName]

/-- Behind the empty path, the separator is the root. -/
theorem components_separator_entry (entry : IsEntry name) :
    components (separator :: name) = [.root, .entry name] := by
  have hnames : names (separator :: name) = [name] := names_append_entry [] entry
  have habsolute : isAbsolute (separator :: name) = true := rfl
  have hkept : [name].filter (· ≠ dot) = [name] :=
    List.filter_cons_of_pos (by simpa using entry.ne_dot)
  rw [components, if_pos habsolute, hnames, hkept, List.map_singleton, entry.ofName]

theorem fileName?_of_components {path : Path} {front : List Component}
    (h : components path = front ++ [.entry name]) : path.fileName? = some name := by
  unfold fileName?
  rw [h, List.getLast?_concat]

theorem parent?_of_components {path : Path} {front : List Component}
    (h : components path = front ++ [.entry name]) :
    path.parent? = some (ofComponents front) := by
  unfold parent?
  rw [h, List.getLast?_concat, List.dropLast_concat]

/-! ## Entries of a directory -/

/-- By its components, the path is that of an entry of the directory with this name. -/
def LiesIn (path directory : Path) (name : List UInt8) : Prop :=
  path.fileName? = some name ∧
    ∃ parent, path.parent? = some parent ∧ parent.components = directory.components

/-- The empty path has no components, but what is written behind it and a separator lies in the
root. -/
theorem liesIn_append_entry_iff {directory : Path} (entry : IsEntry name) :
    LiesIn (directory ++ separator :: name) directory name ↔ directory ≠ [] := by
  by_cases hempty : directory = []
  · refine iff_of_false ?_ (not_not_intro hempty)
    rintro ⟨-, parent, hparent, hsame⟩
    rw [hempty] at hparent hsame
    have hcomponents : components ([] ++ separator :: name) = [.root] ++ [.entry name] :=
      components_separator_entry entry
    rw [parent?_of_components hcomponents] at hparent
    cases hparent
    cases hsame
  · refine iff_of_true ?_ hempty
    have hcomponents := components_append_entry entry hempty
    exact ⟨fileName?_of_components hcomponents, _, parent?_of_components hcomponents,
      components_ofComponents (normal_components directory)⟩

end CrashDump.Path
